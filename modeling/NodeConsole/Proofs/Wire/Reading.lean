import NodeConsole.Wire.Field

/-!
# How readings end

A message that cannot be read is meant to be refused, and the reader of a file drops a refused
message and goes on. `IsContained` says that a reading ends in a result or a refusal, `Escapes` that
it ends in anything else. Two kinds of field let a failure escape: times, which their zone may move
out of the calendar, and bytes that are not written as text.
-/

namespace NodeConsole.Wire

open NodeConsole.Net NodeConsole.Time

namespace Reading

variable {α β : Type}

/-- A reading gives a result. -/
def IsRead (reading : Reading α) : Prop :=
  ∃ result, reading.outcome = .ok result

/-- A reading gives a result or is refused for a fault. -/
def IsContained (reading : Reading α) : Prop :=
  reading.IsRead ∨ ∃ fault, reading.outcome = .error (.refused fault)

/-- A reading ends in a failure that is no refusal. -/
def Escapes (reading : Reading α) : Prop :=
  ∃ failure, reading.outcome = .error failure ∧ ∀ fault, failure ≠ .refused fault

/-- Exactly the readings that do not escape are contained. -/
theorem isContained_iff (reading : Reading α) : reading.IsContained ↔ ¬reading.Escapes := by
  rcases reading with ⟨remarks, _ | _⟩
  · next failure =>
    cases failure <;> simp [IsContained, IsRead, Escapes]
  · simp [IsContained, IsRead, Escapes]

/-! ## Readings one after another -/

@[simp]
theorem outcome_pure (result : α) : (pure result : Reading α).outcome = .ok result :=
  rfl

@[simp]
theorem not_escapes_pure (result : α) : ¬(pure result : Reading α).Escapes := by
  simp [Escapes]

@[simp]
theorem not_escapes_refuse (fault : Fault) : ¬(refuse fault : Reading α).Escapes := by
  simp [Escapes, refuse]

@[simp]
theorem not_escapes_remark (found : Remark) : ¬(remark found).Escapes := by
  simp [Escapes, remark]

@[simp]
theorem escapes_fail (failure : Failure) :
    (fail failure : Reading α).Escapes ↔ ∀ fault, failure ≠ .refused fault := by
  simp [Escapes, fail]

instance : LawfulMonad Reading :=
  LawfulMonad.mk' Reading
    (fun reading => by
      rcases reading with ⟨remarks, _ | _⟩
      · rfl
      · exact congrArg (Reading.mk · _) (List.append_nil remarks))
    (fun _ _ => rfl)
    (fun reading first second => by
      rcases reading with ⟨remarks, _ | result⟩
      · rfl
      · cases outcome : (first result).outcome with
        | error failure => simp [Bind.bind, Reading.bind, outcome]
        | ok => simp [Bind.bind, Reading.bind, outcome, List.append_assoc])

@[simp]
theorem refuse_bind (fault : Fault) (next : α → Reading β) :
    (refuse fault >>= next) = refuse fault :=
  rfl

@[simp]
theorem fail_bind (failure : Failure) (next : α → Reading β) :
    (fail failure >>= next) = fail failure :=
  rfl

theorem outcome_bind_of_ok {first : Reading α} {result : α} (read : first.outcome = .ok result)
    (next : α → Reading β) : (first >>= next).outcome = (next result).outcome := by
  change (Reading.bind first next).outcome = _
  rw [Reading.bind, read]

theorem outcome_bind_of_error {first : Reading α} {failure : Failure}
    (failed : first.outcome = .error failure) (next : α → Reading β) :
    (first >>= next).outcome = .error failure := by
  change (Reading.bind first next).outcome = _
  rw [Reading.bind, failed]

theorem outcome_bind_eq_ok {first : Reading α} {next : α → Reading β} {result : β} :
    (first >>= next).outcome = .ok result ↔
      ∃ found, first.outcome = .ok found ∧ (next found).outcome = .ok result := by
  cases outcome : first.outcome with
  | error failure => simp [outcome_bind_of_error outcome]
  | ok found => simp [outcome_bind_of_ok outcome]

theorem outcome_map (wrap : α → β) (reading : Reading α) :
    (wrap <$> reading).outcome = reading.outcome.map wrap := by
  rw [← bind_pure_comp]
  cases outcome : reading.outcome with
  | error failure => exact outcome_bind_of_error outcome _
  | ok found => exact outcome_bind_of_ok outcome _

theorem escapes_bind (first : Reading α) (next : α → Reading β) :
    (first >>= next).Escapes ↔
      first.Escapes ∨ ∃ result, first.outcome = .ok result ∧ (next result).Escapes := by
  unfold Escapes
  cases outcome : first.outcome with
  | error failure => simp [outcome_bind_of_error outcome]
  | ok result => simp [outcome_bind_of_ok outcome]

theorem isRead_bind (first : Reading α) (next : α → Reading β) :
    (first >>= next).IsRead ↔ ∃ result, first.outcome = .ok result ∧ (next result).IsRead := by
  unfold IsRead
  cases outcome : first.outcome with
  | error failure => simp [outcome_bind_of_error outcome]
  | ok result => simp [outcome_bind_of_ok outcome]

@[simp]
theorem exists_outcome (reading : Reading α) :
    (∃ result, reading.outcome = .ok result) ↔ reading.IsRead :=
  Iff.rfl

@[simp]
theorem escapes_map (wrap : α → β) (reading : Reading α) :
    (wrap <$> reading).Escapes ↔ reading.Escapes := by
  rw [← bind_pure_comp, escapes_bind]
  simp

/-- A list escapes at the first item that cannot be read, if that item escapes. -/
theorem escapes_each (read : α → Reading β) (items : List α) :
    (each read items).Escapes ↔
      ∃ before item after, items = before ++ item :: after ∧
        (∀ earlier ∈ before, (read earlier).IsRead) ∧ (read item).Escapes := by
  induction items with
  | nil => simp [each, Escapes, Reading.pure]
  | cons item rest inductionHypothesis =>
    have last : ∀ first (others : List β), ¬(Reading.pure (first :: others)).Escapes :=
      fun first others => not_escapes_pure (first :: others)
    rw [each, escapes_bind]
    simp only [escapes_bind, last, and_false, exists_false, or_false, inductionHypothesis]
    constructor
    · rintro (escapes | ⟨result, isRead, before, later, after, rfl, earlier, escapes⟩)
      · exact ⟨[], item, rest, rfl, by simp, escapes⟩
      · refine ⟨item :: before, later, after, rfl, ?_, escapes⟩
        exact List.forall_mem_cons.mpr ⟨⟨result, isRead⟩, earlier⟩
    · rintro ⟨before, later, after, split, earlier, escapes⟩
      cases before with
      | nil =>
        obtain ⟨rfl, rfl⟩ := List.cons.inj split
        exact .inl escapes
      | cons first others =>
        obtain ⟨rfl, rfl⟩ := List.cons.inj split
        obtain ⟨⟨result, isRead⟩, earlier⟩ := List.forall_mem_cons.mp earlier
        exact .inr ⟨result, isRead, others, later, after, rfl, earlier, escapes⟩

theorem not_escapes_each {read : α → Reading β} (contained : ∀ item, ¬(read item).Escapes)
    (items : List α) : ¬(each read items).Escapes := by
  rw [escapes_each]
  rintro ⟨before, item, after, -, -, escapes⟩
  exact contained item escapes

/-- A list is read when each of its items is. -/
@[simp]
theorem isRead_each (read : α → Reading β) (items : List α) :
    (each read items).IsRead ↔ ∀ item ∈ items, (read item).IsRead := by
  induction items with
  | nil => exact iff_of_true ⟨[], rfl⟩ (List.forall_mem_nil _)
  | cons item rest inductionHypothesis =>
    have last (first : β) (others : List β) : (Reading.pure (first :: others)).IsRead := ⟨_, rfl⟩
    simp only [each, isRead_bind, last, and_true, exists_and_right, exists_outcome,
      inductionHypothesis, List.forall_mem_cons]

end Reading

/-! ## Fields -/

/-- A text whose zone moves the time out of the calendar. -/
def IsOutOfCalendar (found : Value) : Prop :=
  ∃ text, found = .text text ∧ timestamp text.toList = .outOfRange

example : IsOutOfCalendar (.text "9999-12-31T23:59:59-01:00") :=
  ⟨_, rfl, by decide +kernel⟩

/-- Something other than a text that does not count as absent either. -/
def IsBareBytes (found : Value) : Prop :=
  found.isTruthy ∧ ∀ text, found ≠ .text text

/-- A subnet has an address, and the bytes of its mask are not written as text. -/
def SubnetEscapes (found : Value) : Prop :=
  ∃ fields, found = .object fields ∧ (fieldOrNull fields "IP").isTruthy ∧
    IsBareBytes (fieldOrNull fields "Mask")

@[simp]
theorem objectFields_not_escapes (what : String) (found : Value) :
    ¬(objectFields what found).Escapes := by
  cases found <;> simp [objectFields]

@[simp]
theorem objectFields_outcome (what : String) (found : Value) (fields : Fields) :
    (objectFields what found).outcome = .ok fields ↔ found = .object fields := by
  cases found <;> simp [objectFields, Reading.refuse]

@[simp]
theorem textField_not_escapes (fields : Fields) (name : String) :
    ¬(textField fields name).Escapes := by
  unfold textField
  split <;> simp

@[simp]
theorem integerField_not_escapes (fields : Fields) (name : String) :
    ¬(integerField fields name).Escapes := by
  unfold integerField
  split <;> simp

@[simp]
theorem codedState_not_escapes (State : Type) [Codes State] (found : Value) :
    ¬(codedState State found).Escapes := by
  have numbered (code : Int) : ¬(codedState.numbered State code).Escapes := by
    unfold codedState.numbered
    split <;> simp
  unfold codedState
  split
  · exact numbered 0
  · exact numbered _
  · simp

/-- A state is read when it is a number or null, whether the number has a name or not. -/
theorem codedState_isRead (State : Type) [Codes State] (found : Value) :
    (codedState State found).IsRead ↔ found = .null ∨ ∃ code, found = .integer code := by
  have numbered (code : Int) : (codedState.numbered State code).IsRead := by
    unfold codedState.numbered
    split
    · exact ⟨_, rfl⟩
    · exact ⟨_, rfl⟩
  cases found with
  | null => simpa [codedState] using numbered 0
  | integer code => simpa [codedState] using numbered code
  | _ => simp [codedState, Reading.IsRead, Reading.refuse, -Reading.exists_outcome]

@[simp]
theorem uuidOf_not_escapes (found : Value) (field : String) : ¬(uuidOf found field).Escapes := by
  unfold uuidOf
  split <;> simp

@[simp]
theorem addressOf_not_escapes (field : String) (found : Value) :
    ¬(addressOf field found).Escapes := by
  unfold addressOf
  split <;> simp

@[simp]
theorem addressListField_not_escapes (fields : Fields) (name : String) :
    ¬(addressListField fields name).Escapes := by
  unfold addressListField
  split <;> simp [Reading.escapes_each]

@[simp]
theorem timeField_escapes (fields : Fields) (name : String) :
    (timeField fields name).Escapes ↔ IsOutOfCalendar (fieldOrNull fields name) := by
  unfold timeField IsOutOfCalendar
  cases fieldOrNull fields name with
  | text text => cases read : timestamp text.toList <;> simp [instantOf, read]
  | _ => simp

/-- A hardware address escapes exactly when its bytes are not written as text. -/
@[simp]
theorem hardwareAddress_escapes (found : Value) :
    (hardwareAddress found).Escapes ↔ IsBareBytes found := by
  unfold hardwareAddress IsBareBytes
  cases truth : found.isTruthy with
  | false => simp
  | true =>
    cases found with
    | text text =>
      simp only [Bool.not_true, Bool.false_eq_true, ↓reduceIte, true_and, ne_eq, Value.text.injEq,
        forall_eq', iff_false]
      split
      · simp
      · split <;> simp
    | _ => simp

@[simp]
theorem subnet_escapes (found : Value) :
    (subnet found).Escapes ↔ SubnetEscapes found := by
  unfold subnet SubnetEscapes IsBareBytes
  split
  · simp
  · simp only [Reading.escapes_bind, objectFields_not_escapes, objectFields_outcome, false_or]
    refine exists_congr fun fields => and_congr_right fun _ => ?_
    cases (fieldOrNull fields "IP").isTruthy with
    | false => simp
    | true =>
    cases truth : (fieldOrNull fields "Mask").isTruthy with
    | false => simp
    | true =>
    cases fieldOrNull fields "Mask" with
    | text text =>
      simp only [Bool.not_true, Bool.or_self, Bool.false_eq_true, ↓reduceIte, pure_bind,
        Reading.refuse_bind, bind_pure_comp, ne_eq, Value.text.injEq, forall_eq', and_false,
        iff_false]
      split
      · split
        · split <;> simp
        · simp
      · simp
    | _ => simp

end NodeConsole.Wire
