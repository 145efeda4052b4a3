/-!
# Steps that can fail

A step gives a result or fails. What follows says when steps one after another, or one for each item
of a list, give a result.
-/

namespace NodeConsole

variable {ε α β : Type} {result : β}

theorem bind_eq_ok {first : Except ε α} {second : α → Except ε β} :
    (first >>= second) = .ok result ↔ ∃ found, first = .ok found ∧ second found = .ok result := by
  cases first with
  | error fault => exact ⟨nofun, nofun⟩
  | ok found => exact ⟨fun done => ⟨found, rfl, done⟩, fun ⟨_, rfl, done⟩ => done⟩

theorem not_isOk_error {fault : ε} : ¬∃ result, (.error fault : Except ε β) = .ok result := by
  rintro ⟨_, ⟨⟩⟩

theorem map_eq_ok {first : Except ε α} {change : α → β} :
    first.map change = .ok result ↔ ∃ found, first = .ok found ∧ change found = result := by
  cases first with
  | error fault => exact ⟨nofun, nofun⟩
  | ok found =>
    exact ⟨fun done => ⟨found, rfl, Except.ok.inj done⟩, fun ⟨_, rfl, done⟩ => congrArg _ done⟩

/-- A step whose result is changed has a result exactly when the step does. -/
theorem map_isOk_iff {first : Except ε α} {change : α → β} :
    (∃ result, first.map change = .ok result) ↔ ∃ found, first = .ok found := by
  cases first with
  | error fault => exact iff_of_false nofun nofun
  | ok found => exact iff_of_true ⟨_, rfl⟩ ⟨_, rfl⟩

/-- A step whose result is changed fails when the step does. -/
theorem map_eq_error {first : Except ε α} {change : α → β} {fault : ε} :
    first.map change = .error fault ↔ first = .error fault := by
  cases first with
  | error other =>
    exact ⟨fun failed => congrArg _ (Except.error.inj failed),
      fun failed => congrArg _ (Except.error.inj failed)⟩
  | ok found => exact ⟨nofun, nofun⟩

theorem eq_ok_of_toOption {first : Except ε α} {found : α} (gives : first.toOption = some found) :
    first = .ok found := by
  cases first with
  | error fault => cases gives
  | ok given => exact congrArg _ (Option.some.inj gives)

/-- A step for each item of a list, all of which succeed. -/
theorem mapM_of_each {step : α → Except ε β} {total : α → β} {items : List α}
    (each : ∀ item ∈ items, step item = .ok (total item)) :
    items.mapM step = .ok (items.map total) := by
  induction items with
  | nil => rfl
  | cons item rest inductionHypothesis =>
    rw [List.forall_mem_cons] at each
    rw [List.mapM_cons, each.1, inductionHypothesis each.2]
    rfl

end NodeConsole
