import NodeConsole.Form.Basic
import NodeConsole.Proofs.Keyed

/-!
# Where the focus is

A form keeps the focus twice: its tracker names a view, and a widget is lit. `IsConsistent` says
that the two agree. Moving the focus keeps them in agreement and leads to a widget that takes it:
`moveFocus_isConsistent` and `moveFocus_cases`; a widget that takes a key keeps its light. What the
widgets hold is looked at by name, through `body?`.
-/

namespace NodeConsole.Form

open NodeConsole.Input NodeConsole.Screen

/-! ## Trackers -/

namespace FocusTracker

variable {tracker : FocusTracker} {id : String}

/-- The place of the focus is that of a view. -/
def IsPlaced (tracker : FocusTracker) : Prop :=
  ∀ index, tracker.index = some index → index < tracker.ids.length

theorem mem_of_focused? (focused : tracker.focused? = some id) : id ∈ tracker.ids := by
  obtain ⟨index, -, found⟩ := Option.bind_eq_some_iff.mp focused
  exact List.mem_of_getElem? found

/-- A view that is there gets the focus. -/
theorem setFocus_of_mem (member : id ∈ tracker.ids) :
    ∃ index, tracker.setFocus id = (⟨tracker.ids, some index⟩, true) ∧
      tracker.ids[index]? = some id := by
  obtain ⟨index, found⟩ := Option.isSome_iff_exists.mp (List.isSome_idxOf?.mpr member)
  refine ⟨index, by simp only [setFocus, found], ?_⟩
  obtain ⟨inRange, same, -⟩ := List.idxOf?_eq_some_iff.mp found
  rw [List.getElem?_eq_getElem inRange]
  exact congrArg some (by simpa using same)

/-- A step over the views of a tracker: it keeps them, and if it tells a view, that one has the
focus. -/
structure IsStep (step : FocusTracker → FocusTracker × Option String) : Prop where
  ids : ∀ tracker, (step tracker).1.ids = tracker.ids
  leads : ∀ tracker id, (step tracker).2 = some id →
    (step tracker).1.IsPlaced ∧ (step tracker).1.focused? = some id

theorem moveTo_leads (tracker : FocusTracker) (index : Nat)
    (moved : (tracker.moveTo index).2 = some id) :
    (tracker.moveTo index).1.IsPlaced ∧ (tracker.moveTo index).1.focused? = some id := by
  refine ⟨?_, moved⟩
  rintro _ ⟨⟩
  exact (List.getElem?_eq_some_iff.mp moved).1

/-- Moving on is a step. -/
theorem isStep_next : IsStep next where
  ids tracker := by
    unfold next
    split <;> rfl
  leads tracker id := by
    unfold next
    split
    · simp
    · exact moveTo_leads tracker _

/-- Moving back is a step. -/
theorem isStep_prev : IsStep prev where
  ids tracker := by
    unfold prev
    split <;> rfl
  leads tracker id := by
    unfold prev
    split
    · simp
    · exact moveTo_leads tracker _

end FocusTracker

open FocusTracker

variable {step : FocusTracker → FocusTracker × Option String}

/-- Seeking keeps the views. -/
theorem ids_seek (isStep : IsStep step) (accepts : String → Bool) (count : Nat)
    (tracker : FocusTracker) : (seek accepts step count tracker).1.ids = tracker.ids := by
  induction count generalizing tracker with
  | zero => rfl
  | succ count inductionHypothesis =>
    have ids := isStep.ids tracker
    unfold seek
    split
    · next stepped =>
      rwa [stepped] at ids
    · next stepped =>
      rw [stepped] at ids
      split
      · exact ids
      · exact (inductionHypothesis _).trans ids

/-- What is found by seeking is accepted, and has the focus. -/
theorem seek_finds (isStep : IsStep step) {accepts : String → Bool} {count : Nat}
    {tracker : FocusTracker} {id : String}
    (found : (seek accepts step count tracker).2 = some id) :
    accepts id = true ∧ (seek accepts step count tracker).1.IsPlaced ∧
      (seek accepts step count tracker).1.focused? = some id := by
  induction count generalizing tracker with
  | zero => simp [seek] at found
  | succ count inductionHypothesis =>
    have leads := isStep.leads tracker
    unfold seek at found ⊢
    split at found
    · simp at found
    · next next view stepped =>
      simp only [stepped] at leads ⊢
      by_cases accepted : accepts view = true
      · rw [if_pos accepted] at found ⊢
        obtain rfl : view = id := Option.some.inj found
        exact ⟨accepted, leads view rfl⟩
      · rw [if_neg accepted] at found ⊢
        exact inductionHypothesis found

/-! ## Widgets by name -/

/-- What the widget of a name is, apart from its light. -/
def body? (form : Form) (id : String) : Option WidgetBody :=
  (form.widget? id).map (·.body)

/-- A change of a widget changes that widget alone. -/
theorem widget?_modify (form : Form) (id asked : String) (change : Widget → Widget) :
    (form.modify id change).widget? asked =
      if asked = id then (form.widget? asked).map change else form.widget? asked := by
  have sameName : (fun entry : String × Widget => decide (entry.1 = asked)) ∘
      (fun entry => if entry.1 = id then (id, change entry.2) else entry) =
        fun entry => decide (entry.1 = asked) := by
    funext entry
    by_cases here : entry.1 = id <;> simp [here]
  simp only [widget?, modify, List.find?_map, sameName]
  cases first : form.widgets.find? (fun entry => decide (entry.1 = asked)) with
  | none => simp
  | some entry =>
    have same : entry.1 = asked := by simpa using List.find?_some first
    by_cases here : asked = id <;> simp [same, here]

/-- A change that keeps what a widget is keeps what all widgets are. -/
theorem body?_modify_of_keeps {change : Widget → Widget}
    (keeps : ∀ widget, (change widget).body = widget.body) (form : Form) (id asked : String) :
    (form.modify id change).body? asked = form.body? asked := by
  unfold body?
  rw [widget?_modify]
  split
  · cases form.widget? asked <;> simp [keeps]
  · rfl

theorem Widget.body_light (widget : Widget) : widget.light.body = widget.body :=
  rfl

theorem Widget.body_putOut (widget : Widget) : widget.putOut.body = widget.body :=
  rfl

theorem names_modify (form : Form) (id : String) (change : Widget → Widget) :
    (form.modify id change).widgets.map (·.1) = form.widgets.map (·.1) := by
  simp only [modify, List.map_map]
  refine List.map_congr_left fun entry _ => ?_
  by_cases here : entry.1 = id <;> simp [here]

theorem widget?_of_mem {form : Form} (distinct : (form.widgets.map (·.1)).Nodup)
    {entry : String × Widget} (member : entry ∈ form.widgets) :
    form.widget? entry.1 = some entry.2 := by
  rw [widget?, find?_of_mem distinct member]
  rfl

/-- A change that keeps what is seen of one widget keeps what is seen of all widgets. -/
theorem map_modify {α : Type} {form : Form} (distinct : (form.widgets.map (·.1)).Nodup)
    (view : String × Widget → α) {id : String} {change : Widget → Widget}
    (keeps : ∀ widget, form.widget? id = some widget →
      view (id, change widget) = view (id, widget)) :
    (form.modify id change).widgets.map view = form.widgets.map view := by
  rw [modify, List.map_map]
  refine List.map_congr_left fun ⟨name, widget⟩ member => ?_
  by_cases here : name = id
  · subst here
    simp [keeps widget (widget?_of_mem distinct member)]
  · simp [here]

/-! ## The tracker and the lights -/

/-- The tracker has the names of the widgets, which are distinct; its focus is at one of them; and
a widget is lit exactly when it has the focus. -/
structure IsConsistent (form : Form) : Prop where
  tracked : form.focus.ids = form.widgets.map (·.1)
  distinct : (form.widgets.map (·.1)).Nodup
  placed : form.focus.IsPlaced
  lit : ∀ entry ∈ form.widgets, entry.2.lit = true ↔ form.focused? = some entry.1

namespace IsConsistent

variable {form : Form}

theorem exists_widget (consistent : form.IsConsistent) {id : String}
    (member : id ∈ form.focus.ids) : ∃ widget, form.widget? id = some widget := by
  rw [consistent.tracked] at member
  obtain ⟨entry, entryMember, rfl⟩ := List.mem_map.mp member
  exact ⟨entry.2, widget?_of_mem consistent.distinct entryMember⟩

theorem exists_focused (consistent : form.IsConsistent) {id : String}
    (focused : form.focused? = some id) : ∃ widget, form.widget? id = some widget :=
  consistent.exists_widget (mem_of_focused? focused)

/-- The lit widgets are the one that has the focus, if there is one. -/
theorem litIds_eq (consistent : form.IsConsistent) : form.litIds = form.focused?.toList := by
  have lit : form.litIds =
      (form.widgets.map (·.1)).filter fun id => decide (form.focused? = some id) := by
    rw [List.filter_map, litIds]
    congr 1
    refine List.filter_congr fun entry member => ?_
    rw [Bool.eq_iff_iff]
    simpa using consistent.lit entry member
  rw [lit]
  cases focused : form.focused? with
  | none => simp
  | some id =>
    have member := mem_of_focused? focused
    rw [consistent.tracked] at member
    have same : (fun other => decide (some id = some other)) = (· == id) := by
      funext other
      rw [Bool.eq_iff_iff, decide_eq_true_iff, Option.some.injEq, beq_iff_eq, eq_comm]
    rw [same, List.filter_beq, List.count_eq_one_of_mem consistent.distinct member]
    rfl

/-- A change that keeps the light of a widget keeps a form consistent. -/
theorem modify (consistent : form.IsConsistent) (id : String) {change : Widget → Widget}
    (keeps : ∀ widget, form.widget? id = some widget → (change widget).lit = widget.lit) :
    (form.modify id change).IsConsistent where
  tracked := consistent.tracked.trans (names_modify form id change).symm
  distinct := by
    rw [names_modify]
    exact consistent.distinct
  placed := consistent.placed
  lit := by
    intro entry member
    obtain ⟨before, beforeMember, rfl⟩ := List.mem_map.mp member
    have lit := consistent.lit before beforeMember
    by_cases here : before.1 = id
    · have found := widget?_of_mem consistent.distinct beforeMember
      rw [here] at found lit
      simp only [here, if_true]
      rw [keeps before.2 found]
      exact lit
    · simp only [here, if_false]
      exact lit

/-- With the light of the focus put out, no widget is lit. -/
theorem putOut (consistent : form.IsConsistent) {before : String}
    (focused : form.focused? = some before) :
    ∀ entry ∈ (form.modify before Widget.putOut).widgets, entry.2.lit = false := by
  intro entry member
  obtain ⟨old, oldMember, rfl⟩ := List.mem_map.mp member
  by_cases here : old.1 = before
  · simp [here, Widget.putOut]
  · have lit := consistent.lit old oldMember
    rw [focused, Option.some.injEq] at lit
    simpa [here, Ne.symm here] using lit

theorem dark (consistent : form.IsConsistent) (unfocused : form.focused? = none) :
    ∀ entry ∈ form.widgets, entry.2.lit = false := by
  intro entry member
  have lit := consistent.lit entry member
  rw [unfocused] at lit
  simpa using lit

/-- A form without lights is consistent when the view that gets the focus is lit. -/
theorem light (tracked : form.focus.ids = form.widgets.map (·.1))
    (distinct : (form.widgets.map (·.1)).Nodup)
    (dark : ∀ entry ∈ form.widgets, entry.2.lit = false) {tracker : FocusTracker} {target : String}
    (ids : tracker.ids = form.focus.ids) (placed : tracker.IsPlaced)
    (focused : tracker.focused? = some target) :
    IsConsistent { form.modify target Widget.light with focus := tracker } where
  tracked := by
    rw [names_modify]
    exact ids.trans tracked
  distinct := by
    rw [names_modify]
    exact distinct
  placed := placed
  lit := by
    intro entry member
    obtain ⟨old, oldMember, rfl⟩ := List.mem_map.mp member
    change _ ↔ tracker.focused? = _
    rw [focused, Option.some.injEq]
    by_cases here : old.1 = target
    · simp [here, Widget.light]
    · simp [here, Ne.symm here, dark old oldMember]

end IsConsistent

/-! ## Moving the focus -/

/-- The focus goes to a widget that takes it, or stays where it was. -/
theorem moveFocus_cases (form : Form) (isStep : IsStep step) :
    (∃ target, (form.moveFocus step).2 = some target ∧ form.accepts target = true ∧
      (form.moveFocus step).1.focused? = some target) ∨
    (form.moveFocus step).2 = none ∧ (form.moveFocus step).1.focused? = form.focused? := by
  have ids := ids_seek isStep form.accepts (max 1 form.focus.ids.length) form.focus
  unfold moveFocus
  split
  · next last sought =>
    rw [sought] at ids
    refine .inr ⟨rfl, ?_⟩
    cases focused : form.focused? with
    | none => rfl
    | some before =>
      have member : before ∈ last.ids := by
        rw [ids]
        exact mem_of_focused? focused
      obtain ⟨index, stays, found⟩ := setFocus_of_mem member
      simp only [stays]
      exact found
  · next last target sought =>
    have finds := seek_finds isStep (congrArg (·.2) sought)
    rw [sought] at finds
    exact .inl ⟨target, rfl, finds.1, finds.2.2⟩

/-- Moving the focus changes nothing but lights. -/
theorem body?_moveFocus (form : Form) (step : FocusTracker → FocusTracker × Option String)
    (id : String) : (form.moveFocus step).1.body? id = form.body? id := by
  unfold moveFocus
  split
  · rfl
  · next last target sought =>
    refine (body?_modify_of_keeps Widget.body_light _ target id).trans ?_
    split
    · next before focused => exact body?_modify_of_keeps Widget.body_putOut form before id
    · rfl

/-- Moving the focus keeps a form consistent. -/
theorem moveFocus_isConsistent {form : Form} (consistent : form.IsConsistent)
    (isStep : IsStep step) : (form.moveFocus step).1.IsConsistent := by
  have ids := ids_seek isStep form.accepts (max 1 form.focus.ids.length) form.focus
  unfold moveFocus
  split
  · next last sought =>
    rw [sought] at ids
    -- Nothing is lit or put out: the tracker goes back to the view that had the focus.
    have restored (tracker : FocusTracker) (sameIds : tracker.ids = form.focus.ids)
        (placed : tracker.IsPlaced) (same : tracker.focused? = form.focused?) :
        IsConsistent { form with focus := tracker } :=
      ⟨sameIds.trans consistent.tracked, consistent.distinct, placed, fun entry member =>
        (consistent.lit entry member).trans (by rw [← same]; rfl)⟩
    cases focused : form.focused? with
    | none => exact restored last.clear ids (by rintro index ⟨⟩) focused.symm
    | some before =>
      have member : before ∈ last.ids := by
        rw [ids]
        exact mem_of_focused? focused
      obtain ⟨index, stays, found⟩ := setFocus_of_mem member
      simp only [stays]
      obtain ⟨placed, sameView⟩ := moveTo_leads last index found
      exact restored _ ids placed (sameView.trans focused.symm)
  · next last target sought =>
    rw [sought] at ids
    have finds := seek_finds isStep (congrArg (·.2) sought)
    rw [sought] at finds
    obtain ⟨-, placed, focused⟩ := finds
    dsimp only
    split
    · next before focusedBefore =>
      have tracked : form.focus.ids = (form.modify before Widget.putOut).widgets.map (·.1) := by
        rw [names_modify, consistent.tracked]
      refine IsConsistent.light tracked ?_ (consistent.putOut focusedBefore) ids placed focused
      rw [names_modify]
      exact consistent.distinct
    · next unfocused =>
      exact IsConsistent.light consistent.tracked consistent.distinct (consistent.dark unfocused)
        ids placed focused

/-! ## Moving round -/

/-- A step goes on by a number of places, round and round. -/
def IsStride (step : FocusTracker → FocusTracker × Option String) (places : Nat → Nat) : Prop :=
  ∀ tracker index, tracker.ids ≠ [] → tracker.index = some index →
    step tracker = tracker.moveTo ((index + places tracker.ids.length) % tracker.ids.length)

theorem isStride_next : IsStride next fun _ => 1 := by
  intro tracker index some place
  simp [next, some, place]

theorem isStride_prev : IsStride prev fun length => length - 1 := by
  intro tracker index some place
  simp [prev, some, place]

/-- Seeking finds a view if it would come round to one that is accepted. -/
theorem seek_isSome_of_ring {places : Nat → Nat} (isStride : IsStride step places)
    {accepts : String → Bool} {home : String} (accepted : accepts home = true) (count : Nat)
    {tracker : FocusTracker} {index place : Nat} (here : tracker.index = some index)
    (there : tracker.ids[place]? = some home)
    (comesRound : (index + places tracker.ids.length * (count + 1)) % tracker.ids.length = place) :
    (seek accepts step (count + 1) tracker).2.isSome := by
  have some : tracker.ids ≠ [] := by
    rintro none
    simp [none] at there
  have positive : 0 < tracker.ids.length := List.length_pos_iff.mpr some
  induction count generalizing tracker index with
  | zero =>
    rw [Nat.zero_add, Nat.mul_one] at comesRound
    unfold seek
    simp only [isStride tracker index some here, moveTo, comesRound, there, accepted, if_true,
      Option.isSome_some]
  | succ count inductionHypothesis =>
    obtain ⟨view, reached⟩ : ∃ view, tracker.ids[(index + places tracker.ids.length) %
        tracker.ids.length]? = Option.some view :=
      ⟨_, List.getElem?_eq_getElem (Nat.mod_lt _ positive)⟩
    unfold seek
    simp only [isStride tracker index some here, moveTo, reached]
    split
    · rfl
    · refine inductionHypothesis rfl there ?_ some positive
      change ((index + places tracker.ids.length) % tracker.ids.length +
        places tracker.ids.length * (count + 1)) % tracker.ids.length = place
      rw [← comesRound, Nat.mod_add_mod, Nat.mul_succ _ (count + 1)]
      congr 1
      omega

/-- Moving round from a widget that takes the focus finds one that does. -/
theorem moveFocus_isSome {form : Form} {id : String} {places : Nat → Nat}
    (isStride : IsStride step places) (placed : form.focus.IsPlaced)
    (focused : form.focused? = some id) (accepted : form.accepts id = true) :
    (form.moveFocus step).2.isSome := by
  obtain ⟨index, here, there⟩ := Option.bind_eq_some_iff.mp focused
  have inRange := placed index here
  have round : max 1 form.focus.ids.length = form.focus.ids.length - 1 + 1 := by omega
  have comesRound : (index + places form.focus.ids.length * (form.focus.ids.length - 1 + 1)) %
      form.focus.ids.length = index := by
    rw [Nat.sub_add_cancel (by omega), Nat.add_mul_mod_self_right, Nat.mod_eq_of_lt inRange]
  have found := seek_isSome_of_ring isStride accepted (form.focus.ids.length - 1) here there
    comesRound
  unfold moveFocus
  rw [round]
  split
  · next sought =>
    rw [sought] at found
    simp at found
  · rfl

/-! ## Keys -/

theorem Widget.lit_handleKey (widget : Widget) (key : Key) :
    (widget.handleKey key).1.lit = widget.lit := by
  unfold Widget.handleKey
  split <;> rfl

/-- A key that moves the focus, on or back. -/
def MovesFocus (key : Key) : Prop :=
  key.code = "tab" ∧ key.modifiers = {} ∨ key.code = "backtab"

theorem handleKey_of_focused {form : Form} {id : String} {widget : Widget} {key : Key}
    (stays : ¬ MovesFocus key) (focused : form.focused? = some id)
    (found : form.widget? id = some widget) :
    form.handleKey key =
      (form.modify id fun _ => (widget.handleKey key).1, (widget.handleKey key).2) := by
  obtain ⟨notOn, notBack⟩ := not_or.mp stays
  simp only [handleKey, if_neg notOn, if_neg notBack, focused, found]

/-- What a key can do: it moves the focus, it is lost, or the widget that has the focus takes it. -/
theorem handleKey_cases (form : Form) (key : Key) :
    (∃ step, IsStep step ∧ form.handleKey key = ((form.moveFocus step).1, none)) ∨
    form.handleKey key = (form, none) ∨
    ∃ id widget, form.focused? = some id ∧ form.widget? id = some widget ∧
      form.handleKey key =
        (form.modify id fun _ => (widget.handleKey key).1, (widget.handleKey key).2) := by
  unfold handleKey
  split
  · exact .inl ⟨_, isStep_next, rfl⟩
  · split
    · exact .inl ⟨_, isStep_prev, rfl⟩
    · split
      · exact .inr (.inl rfl)
      · next id focused =>
        split
        · exact .inr (.inl rfl)
        · next widget found => exact .inr (.inr ⟨id, widget, focused, found, rfl⟩)

/-- A key keeps a form consistent. -/
theorem handleKey_isConsistent {form : Form} (consistent : form.IsConsistent) (key : Key) :
    (form.handleKey key).1.IsConsistent := by
  obtain ⟨step, isStep, outcome⟩ | outcome | ⟨id, widget, -, found, outcome⟩ :=
    form.handleKey_cases key
  · rw [outcome]
    exact moveFocus_isConsistent consistent isStep
  · rw [outcome]
    exact consistent
  · rw [outcome]
    dsimp only
    refine consistent.modify id fun other otherFound => ?_
    rw [found] at otherFound
    obtain rfl : widget = other := Option.some.inj otherFound
    exact Widget.lit_handleKey widget key

end NodeConsole.Form
