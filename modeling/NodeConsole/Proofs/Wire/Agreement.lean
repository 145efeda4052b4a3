import NodeConsole.Proofs.Wire.Reading

/-!
# Readings that agree

Two readings agree when they give the same result or are both refused. What two readings do is
carried on by what follows them: when they end alike, whatever follows ends alike, and when their
results differ, so do the results of whatever shows them.
-/

namespace NodeConsole.Wire.Reading

variable {α β : Type} {first second : Reading α}

/-- A reading is refused for a fault. -/
def IsRefused (reading : Reading α) : Prop :=
  ∃ fault, reading.outcome = .error (.refused fault)

/-- Two readings give the same result, or both are refused. -/
def Agree (first second : Reading α) : Prop :=
  (∃ result, first.outcome = .ok result ∧ second.outcome = .ok result) ∨
    first.IsRefused ∧ second.IsRefused

theorem IsRefused.not_isRead {reading : Reading α} (refused : reading.IsRefused) :
    ¬reading.IsRead := by
  rintro ⟨result, read⟩
  obtain ⟨fault, failed⟩ := refused
  rw [read] at failed
  cases failed

/-! ## Ending alike -/

/-- Two readings end in the same result or the same failure, or both are refused. -/
def EndAlike (first second : Reading α) : Prop :=
  first.outcome = second.outcome ∨ first.IsRefused ∧ second.IsRefused

theorem IsRefused.bind (refused : first.IsRefused) (next : α → Reading β) :
    (first >>= next).IsRefused := by
  obtain ⟨fault, failed⟩ := refused
  exact ⟨fault, outcome_bind_of_error failed next⟩

/-- The same reading after two that end alike. -/
theorem EndAlike.bind (alike : first.EndAlike second) (next : α → Reading β) :
    (first >>= next).EndAlike (second >>= next) := by
  obtain same | ⟨firstRefused, secondRefused⟩ := alike
  · left
    cases outcome : second.outcome with
    | error failure =>
      rw [outcome_bind_of_error outcome, outcome_bind_of_error (same.trans outcome)]
    | ok result =>
      rw [outcome_bind_of_ok outcome, outcome_bind_of_ok (same.trans outcome)]
  · exact .inr ⟨firstRefused.bind next, secondRefused.bind next⟩

theorem EndAlike.map (alike : first.EndAlike second) (wrap : α → β) :
    (wrap <$> first).EndAlike (wrap <$> second) := by
  rw [← bind_pure_comp, ← bind_pure_comp]
  exact alike.bind _

/-- Readings that end alike after the same one. -/
theorem EndAlike.after (reading : Reading α) {next other : α → Reading β}
    (alike : ∀ result, (next result).EndAlike (other result)) :
    (reading >>= next).EndAlike (reading >>= other) := by
  cases outcome : reading.outcome with
  | error failure =>
    left
    rw [outcome_bind_of_error outcome, outcome_bind_of_error outcome]
  | ok result =>
    unfold EndAlike IsRefused
    rw [outcome_bind_of_ok outcome, outcome_bind_of_ok outcome]
    exact alike result

/-- Readings that end alike agree unless they escape. -/
theorem EndAlike.agree_iff (alike : first.EndAlike second) :
    first.Agree second ↔ first.IsContained ∧ second.IsContained := by
  constructor
  · rintro (⟨result, firstRead, secondRead⟩ | ⟨firstRefused, secondRefused⟩)
    · exact ⟨.inl ⟨result, firstRead⟩, .inl ⟨result, secondRead⟩⟩
    · exact ⟨.inr firstRefused, .inr secondRefused⟩
  · rintro ⟨⟨result, read⟩ | refused, contained⟩
    · obtain same | ⟨refused, -⟩ := alike
      · exact .inl ⟨result, read, same.symm.trans read⟩
      · exact absurd ⟨result, read⟩ refused.not_isRead
    · obtain same | both := alike
      · obtain ⟨fault, failed⟩ := refused
        exact .inr ⟨⟨fault, failed⟩, fault, same.symm.trans failed⟩
      · exact .inr both

/-! ## Results that differ -/

/-- The second reading gives a result only where the first one gives another. -/
def Differ (first second : Reading α) : Prop :=
  ∀ result, second.outcome = .ok result → ∃ other, first.outcome = .ok other ∧ other ≠ result

/-- A reading gives a result after anything if it does after something, and shows what it came
after. -/
def Shows (next : α → Reading β) : Prop :=
  ∀ found other result, (next other).outcome = .ok result →
    ∃ shown, (next found).outcome = .ok shown ∧ (found ≠ other → shown ≠ result)

theorem shows_pure {wrap : α → β}
    (injective : ∀ found other, wrap found = wrap other → found = other) :
    Shows fun found => (pure (wrap found) : Reading β) := by
  rintro found other _ ⟨⟩
  exact ⟨wrap found, rfl, mt (injective found other)⟩

/-- What is shown in the end is shown. -/
theorem shows_after {γ : Type} (reading : Reading γ) {next : α → γ → Reading β}
    (shown : ∀ result, Shows fun found => next found result) :
    Shows fun found => reading >>= next found := by
  intro found other result read
  dsimp only at read ⊢
  cases outcome : reading.outcome with
  | error failure =>
    rw [outcome_bind_of_error outcome] at read
    cases read
  | ok passed =>
    rw [outcome_bind_of_ok outcome] at read ⊢
    exact shown passed found other result read

/-- What shows the results of readings that differ differs. -/
theorem Differ.bind (differ : first.Differ second) {next : α → Reading β} (shown : Shows next) :
    (first >>= next).Differ (second >>= next) := by
  intro result read
  obtain ⟨other, secondRead, read⟩ := outcome_bind_eq_ok.mp read
  obtain ⟨found, firstRead, distinct⟩ := differ other secondRead
  obtain ⟨changed, shownRead, apart⟩ := shown found other result read
  rw [outcome_bind_of_ok firstRead]
  exact ⟨changed, shownRead, apart distinct⟩

theorem Differ.after (reading : Reading α) {next other : α → Reading β}
    (differ : ∀ result, (next result).Differ (other result)) :
    (reading >>= next).Differ (reading >>= other) := by
  intro result read
  obtain ⟨passed, isRead, read⟩ := outcome_bind_eq_ok.mp read
  rw [outcome_bind_of_ok isRead]
  exact differ passed result read

/-- Readings that differ agree only when both are refused. -/
theorem Differ.agree_iff (differ : first.Differ second) :
    first.Agree second ↔ first.IsContained ∧ second.IsContained ∧ ¬first.IsRead := by
  constructor
  · rintro (⟨result, firstRead, secondRead⟩ | ⟨firstRefused, secondRefused⟩)
    · obtain ⟨other, otherRead, distinct⟩ := differ result secondRead
      rw [firstRead] at otherRead
      exact absurd (Except.ok.inj otherRead).symm distinct
    · exact ⟨.inr firstRefused, .inr secondRefused, firstRefused.not_isRead⟩
  · rintro ⟨firstRead | firstRefused, secondRead | secondRefused, unread⟩
    · exact absurd firstRead unread
    · exact absurd firstRead unread
    · obtain ⟨result, secondRead⟩ := secondRead
      obtain ⟨other, firstRead, -⟩ := differ result secondRead
      exact absurd ⟨other, firstRead⟩ unread
    · exact .inr ⟨firstRefused, secondRefused⟩

/-! ## Items of a list -/

/-- A list with one item between others is read in that order. -/
theorem each_item (read : α → Reading β) (before : List α) (item : α) (after : List α) :
    each read (before ++ item :: after) = (do
      let earlier ← each read before
      let found ← read item
      let later ← each read after
      pure (earlier ++ found :: later)) := by
  induction before with
  | nil => rfl
  | cons head rest inductionHypothesis =>
    have consed (first : β) (others : List β) :
        Reading.pure (first :: others) = (pure (first :: others) : Reading (List β)) := rfl
    simp only [List.cons_append, each, inductionHypothesis, consed, bind_assoc, pure_bind]

end NodeConsole.Wire.Reading
