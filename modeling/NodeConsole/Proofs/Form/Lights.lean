import NodeConsole.Proofs.Form.Lookups
import NodeConsole.Proofs.Form.TabOrder
import NodeConsole.Proofs.Keyed

/-!
# Lights of a form

A form is lit where its tracker says, whatever is done to it, but for one thing: a widget that is
added under the name of the one that has the focus takes its place unlit, and the tracker still
names it. Then nothing is lit until the focus moves or is taken away. `IsTracked.perform` says what
one request does to the agreement of tracker and lights, and `run_lightsFocus_iff` what a run does,
exactly.
-/

namespace NodeConsole.Form

open NodeConsole.Input
open FocusTracker

variable {form other : Form} {id : String}

/-! ## Requests -/

/-- What is done to a form. Widgets are added unlit. -/
inductive Request where
  | addWidget (id : String) (body : WidgetBody)
  | setFocused (id : String)
  | focusNext
  | focusPrev
  | setFocus
  | clearFocus
  | key (key : Key)
  | tick
  | enable (id : String) (enabled : Bool)
  deriving DecidableEq, Repr

/-- The form after a request. No widget answers a tick. -/
def perform (form : Form) : Request → Form
  | .addWidget id body => form.addWidget id ⟨body, false⟩
  | .setFocused id => (form.setFocused id).1
  | .focusNext => form.focusNext.1
  | .focusPrev => form.focusPrev.1
  | .setFocus => form.setFocus
  | .clearFocus => form.clearFocus
  | .key key => (form.handleKey key).1
  | .tick => form
  | .enable id enabled => form.modify id (·.setEnabled enabled)

/-- The form after requests. -/
def run (form : Form) (requests : List Request) : Form :=
  requests.foldl perform form

/-- A widget is added under the name of the one that has the focus. -/
def ReplacesFocus (form : Form) : Request → Prop
  | .addWidget id _ => form.focused? = some id
  | _ => False

/-- The focus is taken away, or it is moved and some widget takes it. -/
def Relights (form : Form) : Request → Prop
  | .clearFocus => True
  | .setFocused id => form.accepts id = true
  | .focusNext => form.canFocus = true
  | .focusPrev => form.canFocus = true
  | .key key => MovesFocus key ∧ form.canFocus = true
  | _ => False

/-- One of the requests replaces the widget that has the focus, and none of those after it moves the
focus or takes it away. -/
def LosesLight (form : Form) (requests : List Request) : Prop :=
  ∃ before request after, requests = before ++ request :: after ∧
    (form.run before).ReplacesFocus request ∧
    ∀ front later back, after = front ++ later :: back →
      ¬(form.run (before ++ request :: front)).Relights later

/-! ## Lights -/

namespace IsTracked

/-- The tracker and the lights agree when the widget that has the focus is lit. -/
theorem isConsistent_iff (tracked : form.IsTracked) :
    form.IsConsistent ↔
      ∀ entry ∈ form.widgets, form.focused? = some entry.1 → entry.2.lit = true := by
  constructor
  · exact fun consistent entry member => (consistent.lit entry member).mpr
  · exact fun lit => ⟨tracked.tracked, tracked.distinct, tracked.sound.placed,
      fun entry member => ⟨tracked.lit entry member, lit entry member⟩⟩

/-- If the tracker and the lights do not agree, some widget has the focus and none is lit. -/
theorem of_not_isConsistent (tracked : form.IsTracked) (differ : ¬form.IsConsistent) :
    (∃ id, form.focused? = some id) ∧ ∀ entry ∈ form.widgets, entry.2.lit = false := by
  rw [tracked.isConsistent_iff] at differ
  push Not at differ
  obtain ⟨entry, member, focused, unlit⟩ := differ
  refine ⟨⟨entry.1, focused⟩, fun lit litMember => Bool.of_not_eq_true fun isLit => unlit ?_⟩
  have same := tracked.lit lit litMember isLit
  rw [focused, Option.some.injEq] at same
  rwa [List.inj_on_of_nodup_map tracked.distinct member litMember same]

/-- The lit widgets are the one that has the focus, or none, exactly when tracker and lights
agree. -/
theorem litIds_eq_iff (tracked : form.IsTracked) :
    form.litIds = form.focused?.toList ↔ form.IsConsistent := by
  refine ⟨fun lit => Classical.byContradiction fun differ => ?_, IsConsistent.litIds_eq⟩
  obtain ⟨⟨id, focused⟩, dark⟩ := tracked.of_not_isConsistent differ
  have none : form.litIds = [] := by
    rw [litIds, List.filter_eq_nil_iff.mpr fun entry member => by simp [dark entry member],
      List.map_nil]
  rw [none, focused] at lit
  cases lit

end IsTracked

/-- The names of the widgets, each with its light. -/
def lights (form : Form) : List (String × Bool) :=
  form.widgets.map fun entry => (entry.1, entry.2.lit)

theorem forall_of_lights (lights : other.lights = form.lights) (holds : String → Bool → Prop) :
    (∀ entry ∈ other.widgets, holds entry.1 entry.2.lit) ↔
      ∀ entry ∈ form.widgets, holds entry.1 entry.2.lit := by
  have each (form : Form) : (∀ light ∈ form.lights, holds light.1 light.2) ↔
      ∀ entry ∈ form.widgets, holds entry.1 entry.2.lit := by
    rw [Form.lights, List.forall_mem_map]
  rw [← each other, ← each form, lights]

/-- A change that keeps the light of a widget keeps all lights. -/
theorem lights_modify (distinct : (form.widgets.map (·.1)).Nodup) {change : Widget → Widget}
    (keeps : ∀ widget, form.widget? id = some widget → (change widget).lit = widget.lit) :
    (form.modify id change).lights = form.lights :=
  map_modify distinct _ fun widget found => congrArg (id, ·) (keeps widget found)

namespace IsTracked

/-- Forms with the same focus and the same lights are alike. -/
theorem congr (tracked : form.IsTracked) (focus : other.focus = form.focus)
    (lights : other.lights = form.lights) :
    other.IsTracked ∧ (other.IsConsistent ↔ form.IsConsistent) := by
  have focused : other.focused? = form.focused? := congrArg FocusTracker.focused? focus
  have names (form : Form) : form.widgets.map (·.1) = form.lights.map (·.1) := by
    rw [Form.lights, List.map_map]
    rfl
  have otherTracked : other.IsTracked := by
    refine ⟨?_, focus ▸ tracked.sound, ?_⟩
    · rw [names other, lights, ← names form, focus]
      exact tracked.tracked
    · rw [focused]
      exact (forall_of_lights lights fun id lit => lit = true → form.focused? = some id).mpr
        tracked.lit
  refine ⟨otherTracked, ?_⟩
  rw [otherTracked.isConsistent_iff, tracked.isConsistent_iff, focused]
  exact forall_of_lights lights fun id lit => form.focused? = some id → lit = true

theorem modify (tracked : form.IsTracked) (id : String) {change : Widget → Widget}
    (keeps : ∀ widget, form.widget? id = some widget → (change widget).lit = widget.lit) :
    (form.modify id change).IsTracked ∧
      ((form.modify id change).IsConsistent ↔ form.IsConsistent) :=
  tracked.congr rfl (lights_modify tracked.distinct keeps)

/-- A form with the focus and the only light at one of its views is consistent. -/
theorem focusedAt_isConsistent (tracked : form.IsTracked) {target : String}
    (member : target ∈ form.focus.ids) : (form.focusedAt target).IsConsistent := by
  obtain ⟨sound, focused⟩ := tracked.focusedAt_focus member
  have names : (form.focusedAt target).widgets.map (·.1) = form.widgets.map (·.1) := by
    rw [focusedAt, List.map_map]
    rfl
  refine ⟨tracked.tracked.trans names.symm, names ▸ tracked.distinct, sound.placed, ?_⟩
  intro entry member
  obtain ⟨old, -, rfl⟩ := List.mem_map.mp member
  rw [focused, Option.some.injEq, decide_eq_true_iff]
  exact eq_comm

/-- A move that finds a view makes tracker and lights agree; any other leaves them as they were. -/
theorem moved (tracked : form.IsTracked) {found : Option String}
    (member : ∀ target, found = some target → target ∈ form.focus.ids) :
    (form.moved found).1.IsTracked ∧
      ((form.moved found).1.IsConsistent ↔ form.IsConsistent ∨ found.isSome) := by
  cases found with
  | none => simpa [Form.moved] using tracked
  | some target =>
    have consistent := tracked.focusedAt_isConsistent (member target rfl)
    exact ⟨consistent.isTracked, iff_of_true consistent (.inr rfl)⟩

/-- A move to the first view that is accepted makes tracker and lights agree if some widget takes
the focus, whatever the order of the views. -/
theorem movedToFirst (tracked : form.IsTracked) {views : List String}
    (every : ∀ {id}, id ∈ views ↔ id ∈ form.focus.ids) :
    (form.moved (views.find? form.accepts)).1.IsTracked ∧
      ((form.moved (views.find? form.accepts)).1.IsConsistent ↔
        form.IsConsistent ∨ form.canFocus = true) := by
  have takes : (views.find? form.accepts).isSome ↔ form.canFocus = true := by
    rw [List.find?_isSome, tracked.canFocus_iff]
    exact exists_congr fun id => and_congr_left' every
  rw [← takes]
  exact tracked.moved fun target found => every.mp (List.mem_of_find?_eq_some found)

theorem focusNext (tracked : form.IsTracked) :
    form.focusNext.1.IsTracked ∧
      (form.focusNext.1.IsConsistent ↔ form.IsConsistent ∨ form.canFocus = true) := by
  rw [tracked.focusNext_eq]
  exact tracked.movedToFirst tracked.mem_onward

theorem focusPrev (tracked : form.IsTracked) :
    form.focusPrev.1.IsTracked ∧
      (form.focusPrev.1.IsConsistent ↔ form.IsConsistent ∨ form.canFocus = true) := by
  rw [tracked.focusPrev_eq]
  exact tracked.movedToFirst tracked.mem_onward_reverse

/-- A widget that is accepted is one of the views. -/
theorem mem_of_accepts (tracked : form.IsTracked) (accepted : form.accepts id = true) :
    id ∈ form.focus.ids := by
  cases found : form.widgets.find? (fun entry => decide (entry.1 = id)) with
  | none => simp [Form.accepts, widget?, found] at accepted
  | some entry =>
    rw [tracked.tracked, List.mem_map]
    exact ⟨entry, List.mem_of_find?_eq_some found, by simpa using List.find?_some found⟩

/-- Giving the focus to a widget makes tracker and lights agree if the widget takes it. -/
theorem setFocused (tracked : form.IsTracked) (id : String) :
    (form.setFocused id).1.IsTracked ∧
      ((form.setFocused id).1.IsConsistent ↔ form.IsConsistent ∨ form.accepts id = true) := by
  cases accepted : form.accepts id with
  | false => simpa [Form.setFocused, accepted] using tracked
  | true =>
    have member := tracked.mem_of_accepts accepted
    obtain ⟨index, focused, -⟩ := setFocus_of_mem member
    have first : stepTo id form.focus = (⟨form.focus.ids, some index⟩, some id) := by
      rw [stepTo, focused]
    have found : (seek form.accepts (stepTo id) (max 1 form.focus.ids.length) form.focus).2 =
        some id := by
      obtain ⟨count, counted⟩ : ∃ count, max 1 form.focus.ids.length = count + 1 :=
        ⟨max 1 form.focus.ids.length - 1, by omega⟩
      rw [counted, seek, first]
      simp [accepted]
    rw [Form.setFocused, if_pos accepted, tracked.moveFocus_eq_moved (isStep_stepTo id), found]
    simpa using tracked.moved fun target same => Option.some.inj same ▸ member

/-- Taking the focus away makes tracker and lights agree. -/
theorem clearFocus (tracked : form.IsTracked) : form.clearFocus.IsConsistent := by
  have same (unlit : Form) (names : unlit.widgets.map (·.1) = form.widgets.map (·.1))
      (dark : ∀ entry ∈ unlit.widgets, entry.2.lit = false) :
      IsConsistent { unlit with focus := form.focus.clear } :=
    ⟨tracked.tracked.trans names.symm, names ▸ tracked.distinct, by rintro _ ⟨⟩,
      fun entry member => iff_of_false (by simp [dark entry member]) nofun⟩
  rw [Form.clearFocus]
  cases focused : form.focused? with
  | none => exact same form rfl (tracked.dark focused)
  | some before => exact same _ (names_modify ..) (tracked.putOut focused)

/-- A view that has the focus is a widget. -/
theorem hasFocus (tracked : form.IsTracked) (focused : form.focused? = some id) :
    form.hasFocus = true := by
  have member := mem_of_focused? focused
  rw [tracked.tracked] at member
  obtain ⟨entry, entryMember, rfl⟩ := List.mem_map.mp member
  rw [Form.hasFocus, focusedWidget?, focused, Option.bind_some,
    widget?_of_mem tracked.distinct entryMember]
  rfl

/-- Making sure that some widget has the focus leaves tracker and lights as they were. -/
theorem setFocus (tracked : form.IsTracked) :
    form.setFocus.IsTracked ∧ (form.setFocus.IsConsistent ↔ form.IsConsistent) := by
  rw [Form.setFocus]
  split
  · exact ⟨tracked, Iff.rfl⟩
  · next unfocused =>
    have consistent : form.IsConsistent := by
      refine Classical.byContradiction fun differ => ?_
      obtain ⟨⟨id, focused⟩, -⟩ := tracked.of_not_isConsistent differ
      exact unfocused (tracked.hasFocus focused)
    obtain ⟨trackedAfter, agrees⟩ := tracked.focusNext
    exact ⟨trackedAfter, iff_of_true (agrees.mpr (.inl consistent)) consistent⟩

/-- A widget that is added unlit leaves tracker and lights as they were, unless it takes the place
of the one that has the focus. -/
theorem addWidget (tracked : form.IsTracked) (id : String) (body : WidgetBody) :
    (form.addWidget id ⟨body, false⟩).IsTracked ∧
      ((form.addWidget id ⟨body, false⟩).IsConsistent ↔
        form.focused? ≠ some id ∧ form.IsConsistent) := by
  have widgets : (form.addWidget id ⟨body, false⟩).widgets = put form.widgets id ⟨body, false⟩ :=
    rfl
  have focused : (form.addWidget id ⟨body, false⟩).focused? = form.focused? :=
    focused?_add tracked.sound.placed id
  have trackedAfter : (form.addWidget id ⟨body, false⟩).IsTracked := by
    refine ⟨?_, tracked.sound.add id, fun entry member lit => ?_⟩
    · rw [widgets, keys_put, ← tracked.tracked]
      exact ids_add form.focus id
    · rw [widgets, mem_put] at member
      rw [focused]
      obtain rfl | ⟨member, -⟩ := member
      · exact nomatch lit
      · exact tracked.lit entry member lit
  refine ⟨trackedAfter, ?_⟩
  rw [trackedAfter.isConsistent_iff, tracked.isConsistent_iff, focused, widgets]
  constructor
  · intro lit
    have other : form.focused? ≠ some id := fun here =>
      nomatch lit (id, ⟨body, false⟩) (mem_put.mpr (.inl rfl)) here
    refine ⟨other, fun entry member here => lit entry (mem_put.mpr (.inr ⟨member, ?_⟩)) here⟩
    rintro rfl
    exact other here
  · rintro ⟨other, lit⟩ entry member here
    obtain rfl | ⟨member, -⟩ := mem_put.mp member
    · exact absurd here other
    · exact lit entry member here

/-- A key makes tracker and lights agree if it moves the focus and some widget takes it. -/
theorem handleKey (tracked : form.IsTracked) (key : Key) :
    (form.handleKey key).1.IsTracked ∧
      ((form.handleKey key).1.IsConsistent ↔
        form.IsConsistent ∨ MovesFocus key ∧ form.canFocus = true) := by
  rw [Form.handleKey, MovesFocus]
  by_cases on : key.code = "tab" ∧ key.modifiers = {}
  · simpa [on] using tracked.focusNext
  · rw [if_neg on]
    by_cases back : key.code = "backtab"
    · simpa [back] using tracked.focusPrev
    · have stays : (form.IsConsistent ∨
          (key.code = "tab" ∧ key.modifiers = {} ∨ key.code = "backtab") ∧ form.canFocus = true) ↔
          form.IsConsistent := by
        simp [on, back]
      rw [if_neg back, stays]
      split
      · exact ⟨tracked, Iff.rfl⟩
      · next id focused =>
        split
        · exact ⟨tracked, Iff.rfl⟩
        · next widget found =>
          have keeps (other : Widget) (same : form.widget? id = some other) :
              (widget.handleKey key).1.lit = other.lit := by
            obtain rfl : widget = other := Option.some.inj (found.symm.trans same)
            exact widget.lit_handleKey key
          exact tracked.modify id keeps

/-- After a request tracker and lights agree if they did or the request makes them, unless it
replaces the widget that has the focus. -/
theorem perform (tracked : form.IsTracked) (request : Request) :
    (form.perform request).IsTracked ∧
      ((form.perform request).IsConsistent ↔
        ¬form.ReplacesFocus request ∧ (form.IsConsistent ∨ form.Relights request)) := by
  cases request with
  | addWidget id body =>
    simpa [Form.perform, ReplacesFocus, Relights] using tracked.addWidget id body
  | setFocused id => simpa [Form.perform, ReplacesFocus, Relights] using tracked.setFocused id
  | focusNext => simpa [Form.perform, ReplacesFocus, Relights] using tracked.focusNext
  | focusPrev => simpa [Form.perform, ReplacesFocus, Relights] using tracked.focusPrev
  | setFocus => simpa [Form.perform, ReplacesFocus, Relights] using tracked.setFocus
  | clearFocus =>
    have consistent := tracked.clearFocus
    exact ⟨consistent.isTracked, iff_of_true consistent ⟨nofun, .inr trivial⟩⟩
  | key key => simpa [Form.perform, ReplacesFocus, Relights] using tracked.handleKey key
  | tick => simpa [Form.perform, ReplacesFocus, Relights] using tracked
  | enable id enabled =>
    simpa [Form.perform, ReplacesFocus, Relights] using
      tracked.modify id fun widget _ => widget.lit_setEnabled enabled

end IsTracked

/-! ## Runs -/

/-- A run loses the light in its last request, or has lost it before and does not get it back. -/
theorem losesLight_concat {requests : List Request} {last : Request} :
    form.LosesLight (requests ++ [last]) ↔
      (form.run requests).ReplacesFocus last ∨
        form.LosesLight requests ∧ ¬(form.run requests).Relights last := by
  constructor
  · rintro ⟨before, request, after, split, replaces, stays⟩
    rcases List.eq_nil_or_concat' after with rfl | ⟨rest, final, rfl⟩
    · obtain ⟨rfl, rfl⟩ := List.append_singleton_inj.mp split
      exact .inl replaces
    · have parts : requests ++ [last] = (before ++ request :: rest) ++ [final] := by
        rw [split, List.append_assoc, List.cons_append]
      obtain ⟨rfl, rfl⟩ := List.append_singleton_inj.mp parts
      refine .inr ⟨⟨before, request, rest, rfl, replaces, ?_⟩, stays rest last [] rfl⟩
      rintro front later back rfl
      exact stays front later (back ++ [last]) (by simp)
  · rintro (replaces | ⟨⟨before, request, rest, rfl, replaces, stays⟩, unlit⟩)
    · refine ⟨requests, last, [], rfl, replaces, fun front later back none => ?_⟩
      simp at none
    · refine ⟨before, request, rest ++ [last], by simp, replaces, ?_⟩
      intro front later back split
      rcases List.eq_nil_or_concat' back with rfl | ⟨others, final, rfl⟩
      · obtain ⟨rfl, rfl⟩ := List.append_singleton_inj.mp split
        exact unlit
      · have parts : rest ++ [last] = (front ++ later :: others) ++ [final] := by
          rw [split, List.append_assoc, List.cons_append]
        obtain ⟨rfl, rfl⟩ := List.append_singleton_inj.mp parts
        exact stays front later others rfl

/-- After a run tracker and lights agree exactly when it has not lost the light. -/
theorem IsConsistent.run (consistent : form.IsConsistent) (requests : List Request) :
    (form.run requests).IsTracked ∧
      ((form.run requests).IsConsistent ↔ ¬form.LosesLight requests) := by
  induction requests using List.reverseRecOn with
  | nil =>
    refine ⟨consistent.isTracked, iff_of_true consistent ?_⟩
    rintro ⟨before, request, after, none, -⟩
    simp at none
  | append_singleton requests last inductionHypothesis =>
    obtain ⟨tracked, agrees⟩ := inductionHypothesis
    obtain ⟨trackedAfter, agreesAfter⟩ := tracked.perform last
    have stepped : form.run (requests ++ [last]) = (form.run requests).perform last := by
      rw [Form.run, List.foldl_concat]
      rfl
    rw [stepped, losesLight_concat]
    refine ⟨trackedAfter, agreesAfter.trans ?_⟩
    rw [agrees]
    tauto

theorem isConsistent_empty (name : String) : IsConsistent ⟨name, [], {}⟩ where
  tracked := rfl
  distinct := List.nodup_nil
  placed := nofun
  lit := nofun

/-- Whatever is done to a form that starts without widgets, the lit widgets are the one that the
tracker names, or none if it names none, unless a widget was added in place of the one that had the
focus, and since then the focus was neither taken away nor moved to a widget that takes it. Then the
tracker names a widget and none is lit. -/
theorem run_lightsFocus_iff (name : String) (requests : List Request) :
    let form := run ⟨name, [], {}⟩ requests
    (form.litIds = form.focused?.toList ↔ ¬LosesLight ⟨name, [], {}⟩ requests) ∧
      (LosesLight ⟨name, [], {}⟩ requests →
        form.litIds = [] ∧ ∃ id, form.focused? = some id ∧ id ∈ form.widgets.map (·.1)) := by
  intro form
  obtain ⟨tracked, agrees⟩ := (isConsistent_empty name).run requests
  refine ⟨tracked.litIds_eq_iff.trans agrees, fun loses => ?_⟩
  obtain ⟨⟨id, focused⟩, dark⟩ :=
    tracked.of_not_isConsistent fun consistent => agrees.mp consistent loses
  refine ⟨?_, id, focused, ?_⟩
  · rw [litIds, List.filter_eq_nil_iff.mpr fun entry member => by simp [dark entry member],
      List.map_nil]
  · exact tracked.tracked ▸ mem_of_focused? focused

/-- A widget that takes the place of the one that has the focus is not lit, and the tracker names
it. -/
theorem run_replaced_unlit :
    let name := Request.addWidget "name" (.input ⟨"Name", "", 64, true⟩)
    let form := run ⟨"form", [], {}⟩ [name, .setFocused "name", name]
    form.focused? = some "name" ∧ form.litIds ≠ form.focused?.toList := by
  decide

end NodeConsole.Form
