import NodeConsole.Proofs.Form.Rounds

/-!
# The order of the focus

Moving the focus leads to the first widget that takes it, in the order in which moving on comes to
the widgets; if no widget takes it, nothing changes. `moveFocus_eq_moved` says so of every step that
finds a widget, for forms in which no widget is lit but the one that has the focus; `focus_tabOrder`
says it of moving on and of moving back.
-/

namespace NodeConsole.Form

open FocusTracker

variable {form : Form} {step : FocusTracker → FocusTracker × Option String}

/-! ## Forms with a light at most at the focus -/

/-- The tracker has the names of the widgets and is sound, and no widget is lit but the one that has
the focus. -/
structure IsTracked (form : Form) : Prop where
  tracked : form.focus.ids = form.widgets.map (·.1)
  sound : form.focus.IsSound
  lit : ∀ entry ∈ form.widgets, entry.2.lit = true → form.focused? = some entry.1

theorem IsConsistent.isTracked (consistent : form.IsConsistent) : form.IsTracked where
  tracked := consistent.tracked
  sound := ⟨consistent.tracked.symm ▸ consistent.distinct, consistent.placed⟩
  lit entry member := (consistent.lit entry member).mp

theorem IsTracked.distinct (tracked : form.IsTracked) : (form.widgets.map (·.1)).Nodup :=
  tracked.tracked ▸ tracked.sound.distinct

/-- A form with the focus and the only light at a view. -/
def focusedAt (form : Form) (target : String) : Form :=
  { form with
    widgets := form.widgets.map fun entry => (entry.1, { entry.2 with lit := entry.1 = target })
    focus := { form.focus with index := form.focus.ids.idxOf? target } }

/-- Where a move leads: to the view that is found; to where the focus was, if none is. -/
def moved (form : Form) : Option String → Form × Option String
  | none => (form, none)
  | some target => (form.focusedAt target, some target)

theorem widgets_light (dark : ∀ entry ∈ form.widgets, entry.2.lit = false) (target : String) :
    (form.modify target Widget.light).widgets = (form.focusedAt target).widgets := by
  refine List.map_congr_left fun entry member => ?_
  by_cases here : entry.1 = target
  · simp [here, Widget.light]
  · simp [here, ← dark entry member]

namespace IsTracked

theorem dark (tracked : form.IsTracked) (unfocused : form.focused? = none) :
    ∀ entry ∈ form.widgets, entry.2.lit = false :=
  fun entry member => Bool.of_not_eq_true fun lit => by
    simpa [unfocused] using tracked.lit entry member lit

/-- With the light of the focus put out no widget is lit. -/
theorem putOut (tracked : form.IsTracked) {before : String}
    (focused : form.focused? = some before) :
    ∀ entry ∈ (form.modify before Widget.putOut).widgets, entry.2.lit = false := by
  intro entry member
  obtain ⟨old, oldMember, rfl⟩ := List.mem_map.mp member
  by_cases here : old.1 = before
  · simp [here, Widget.putOut]
  · rw [if_neg here]
    refine Bool.of_not_eq_true fun lit => here ?_
    have same := tracked.lit old oldMember lit
    rw [focused, Option.some.injEq] at same
    exact same.symm

/-- Lighting a widget after the light of the focus is put out leaves that light alone. -/
theorem relight (tracked : form.IsTracked) {before : String}
    (focused : form.focused? = some before) (target : String) :
    ((form.modify before Widget.putOut).modify target Widget.light).widgets =
      (form.focusedAt target).widgets := by
  rw [widgets_light (tracked.putOut focused)]
  change ((form.widgets.map _).map _) = form.widgets.map _
  rw [List.map_map]
  refine List.map_congr_left fun entry _ => ?_
  by_cases here : entry.1 = before <;> simp [here, Widget.putOut]

theorem focusedAt_focus (tracked : form.IsTracked) {target : String}
    (member : target ∈ form.focus.ids) :
    (form.focusedAt target).focus.IsSound ∧ (form.focusedAt target).focused? = some target := by
  obtain ⟨index, found, there⟩ := exists_idxOf? member
  refine ⟨⟨tracked.sound.distinct, fun place here => ?_⟩, ?_⟩
  · exact (List.idxOf?_eq_some_iff.mp here).1
  · exact (focused?_of_index found).trans there

/-- A tracker that gives the focus back to the view that had it is the tracker as it was. -/
theorem focus_restored (tracked : form.IsTracked) {last : FocusTracker}
    (ids : last.ids = form.focus.ids) {before : String} (focused : form.focused? = some before) :
    (last.setFocus before).1 = form.focus := by
  have member : before ∈ last.ids := ids ▸ mem_of_focused? focused
  obtain ⟨index, stays, found⟩ := setFocus_of_mem member
  obtain ⟨placed, sameView⟩ := moveTo_leads last index found
  rw [stays]
  exact tracked.sound.eq_of_focused? placed ids (sameView.trans focused.symm)

theorem focus_cleared (tracked : form.IsTracked) {last : FocusTracker}
    (ids : last.ids = form.focus.ids) (unfocused : form.focused? = none) :
    last.clear = form.focus :=
  tracked.sound.eq_of_focused? (by rintro _ ⟨⟩) ids unfocused.symm

/-- A move leads to what its steps find. -/
theorem moveFocus_eq_moved (tracked : form.IsTracked) (isStep : IsStep step) :
    form.moveFocus step =
      form.moved (seek form.accepts step (max 1 form.focus.ids.length) form.focus).2 := by
  have ids := ids_seek isStep form.accepts (max 1 form.focus.ids.length) form.focus
  rw [moveFocus]
  split
  · next last sought =>
    rw [sought] at ids ⊢
    cases focused : form.focused? with
    | none =>
      dsimp only
      rw [tracked.focus_cleared ids focused]
      rfl
    | some before =>
      dsimp only
      rw [tracked.focus_restored ids focused]
      rfl
  · next last target sought =>
    have finds := seek_finds isStep (congrArg (·.2) sought)
    rw [sought] at ids finds ⊢
    obtain ⟨-, placed, focusedAfter⟩ := finds
    have member : target ∈ form.focus.ids := ids ▸ mem_of_focused? focusedAfter
    obtain ⟨sound, focusedThere⟩ := tracked.focusedAt_focus member
    obtain rfl : last = (form.focusedAt target).focus :=
      sound.eq_of_focused? placed ids (focusedAfter.trans focusedThere.symm)
    cases focused : form.focused? with
    | none =>
      dsimp only
      rw [widgets_light (tracked.dark focused)]
      rfl
    | some before =>
      dsimp only
      rw [tracked.relight focused]
      rfl

end IsTracked

/-! ## The first widget that takes the focus -/

/-- Steps that come to some views find the first of them that is accepted. -/
theorem seek_eq_find? {accepts : String → Bool} {views : List String} {tracker : FocusTracker}
    (comes : told step views.length tracker = views.map some) :
    (seek accepts step views.length tracker).2 = views.find? accepts := by
  induction views generalizing tracker with
  | nil => rfl
  | cons view rest inductionHypothesis =>
    rw [List.length_cons, told, List.map_cons, List.cons.injEq] at comes
    obtain ⟨first, others⟩ := comes
    have stepped : step tracker = ((step tracker).1, some view) := Prod.ext rfl first
    rw [List.length_cons, seek, stepped, List.find?_cons]
    cases accepted : accepts view with
    | true => simp [accepted]
    | false => simpa [accepted] using inductionHypothesis others

/-- Steps once around find the first view that is accepted of those to which they come. -/
theorem seek_round {accepts : String → Bool} {views : List String} {tracker : FocusTracker}
    (comes : told step tracker.ids.length tracker = views.map some)
    (ends : tracker.ids = [] → (step tracker).2 = none) :
    (seek accepts step (max 1 tracker.ids.length) tracker).2 = views.find? accepts := by
  by_cases empty : tracker.ids = []
  · have stepped : step tracker = ((step tracker).1, none) := Prod.ext rfl (ends empty)
    have none : views = [] := by
      rw [empty] at comes
      exact List.map_eq_nil_iff.mp comes.symm
    rw [empty, none, List.length_nil, Nat.max_eq_left (Nat.zero_le 1), seek, stepped]
    rfl
  · have same : tracker.ids.length = views.length := by
      rw [← length_told step tracker.ids.length tracker, comes, List.length_map]
    have positive : 0 < tracker.ids.length := List.length_pos_iff.mpr empty
    rw [Nat.max_eq_right positive, same]
    exact seek_eq_find? (same ▸ comes)

namespace IsTracked

theorem focusNext_eq (tracked : form.IsTracked) :
    form.focusNext = form.moved ((onward form.focus.ids form.focused?).find? form.accepts) := by
  rw [focusNext, tracked.moveFocus_eq_moved isStep_next,
    seek_round tracked.sound.told_next fun empty => by simp [next, empty]]
  rfl

theorem focusPrev_eq (tracked : form.IsTracked) :
    form.focusPrev =
      form.moved ((onward form.focus.ids.reverse form.focused?).find? form.accepts) := by
  rw [focusPrev, tracked.moveFocus_eq_moved isStep_prev,
    seek_round tracked.sound.told_prev fun empty => by simp [prev, empty]]
  rfl

theorem mem_onward (tracked : form.IsTracked) {id : String} :
    id ∈ onward form.focus.ids form.focused? ↔ id ∈ form.focus.ids := by
  rw [Form.focused?, tracked.sound.onward_eq_rotate, List.mem_rotate]

theorem mem_onward_reverse (tracked : form.IsTracked) {id : String} :
    id ∈ onward form.focus.ids.reverse form.focused? ↔ id ∈ form.focus.ids := by
  have mirrored := tracked.sound.mirror.onward_eq_rotate
  rw [focused?_mirror tracked.sound.placed] at mirrored
  rw [Form.focused?, show form.focus.ids.reverse = form.focus.mirror.ids from rfl, mirrored,
    List.mem_rotate, mirror, List.mem_reverse]

/-- Some widget takes the focus exactly when that of some view does. -/
theorem canFocus_iff (tracked : form.IsTracked) :
    form.canFocus = true ↔ ∃ id ∈ form.focus.ids, form.accepts id = true := by
  rw [tracked.tracked, canFocus, List.any_eq_true]
  have accepts (entry : String × Widget) (member : entry ∈ form.widgets) :
      form.accepts entry.1 = entry.2.canFocus := by
    rw [Form.accepts, widget?_of_mem tracked.distinct member]
    rfl
  constructor
  · rintro ⟨entry, member, takes⟩
    exact ⟨entry.1, List.mem_map_of_mem member, (accepts entry member).trans takes⟩
  · rintro ⟨_, member, takes⟩
    obtain ⟨entry, entryMember, rfl⟩ := List.mem_map.mp member
    exact ⟨entry, entryMember, (accepts entry entryMember).symm.trans takes⟩

end IsTracked

/-- In a form whose lit widget is the one that has the focus, moving on leads to the first widget
that takes the focus among those after it, those before it and itself, in the order in which they
were added; without focus, to the first of all. Moving back is the same in the reverse order. If no
widget takes the focus, nothing is told and nothing changes. -/
theorem focus_tabOrder (consistent : form.IsConsistent) :
    form.focus.ids = form.widgets.map (·.1) ∧
    form.focusNext = form.moved ((onward form.focus.ids form.focused?).find? form.accepts) ∧
    form.focusPrev =
      form.moved ((onward form.focus.ids.reverse form.focused?).find? form.accepts) ∧
    (form.canFocus = false → form.focusNext = (form, none) ∧ form.focusPrev = (form, none)) := by
  have tracked := consistent.isTracked
  refine ⟨consistent.tracked, tracked.focusNext_eq, tracked.focusPrev_eq, fun refused => ?_⟩
  have none (id : String) (member : id ∈ form.focus.ids) : ¬form.accepts id = true := by
    intro accepted
    rw [tracked.canFocus_iff.mpr ⟨id, member, accepted⟩] at refused
    exact nomatch refused
  constructor
  · rw [tracked.focusNext_eq, List.find?_eq_none.mpr fun id member =>
      none id (tracked.mem_onward.mp member)]
    rfl
  · rw [tracked.focusPrev_eq, List.find?_eq_none.mpr fun id member =>
      none id (tracked.mem_onward_reverse.mp member)]
    rfl

/-- A form with the focus on its first widget; the second one is disabled. -/
def skippingForm : Form where
  name := "form"
  widgets := [("name", ⟨.input ⟨"Name", "", 64, true⟩, true⟩),
    ("skipped", ⟨.input ⟨"Skipped", "", 64, false⟩, false⟩), ("ok", ⟨.button "Ok", false⟩)]
  focus := ⟨["name", "skipped", "ok"], some 0⟩

/-- Moving on skips the disabled widget, and so does moving back, round from the first widget. -/
theorem focus_tabOrder_skips :
    skippingForm.IsConsistent ∧ skippingForm.focusNext = (skippingForm.focusedAt "ok", some "ok") ∧
      skippingForm.focusPrev = (skippingForm.focusedAt "ok", some "ok") := by
  have consistent : skippingForm.IsConsistent :=
    ⟨rfl, by decide, by rintro _ ⟨⟩; decide, by decide⟩
  obtain ⟨-, on, back, -⟩ := focus_tabOrder consistent
  exact ⟨consistent, on, back⟩

end NodeConsole.Form
