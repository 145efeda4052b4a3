import Mathlib.Algebra.Group.Nat.Defs
import Mathlib.Data.Option.Basic
import NodeConsole.Json.Parser
import NodeConsole.Proofs.Keyed
import NodeConsole.Proofs.Steps

/-!
# Integers that are read

An integer of too many digits is refused, wherever it is read. So every integer that a JSON text or
another text gives can be written in digits again: `parse_isWritable`, `integer_isWritable`.
-/

namespace NodeConsole

/-! ## Integers in text -/

namespace Text

/-- An integer can be written: it has no more digits than an integer in a text may have. -/
def IsWritable (number : Int) : Prop :=
  number.natAbs < 10 ^ decimalDigitLimit

instance : DecidablePred IsWritable :=
  fun number => inferInstanceAs (Decidable (number.natAbs < 10 ^ decimalDigitLimit))

theorem isWritable_neg {number : Int} : IsWritable (-number) ↔ IsWritable number := by
  unfold IsWritable
  rw [Int.natAbs_neg]

theorem isWritable_of_lt {number : Int} {digits : Nat} (short : digits ≤ decimalDigitLimit)
    (below : number.natAbs < 10 ^ digits) : IsWritable number :=
  Nat.lt_of_lt_of_le below (Nat.pow_le_pow_right (by decide) short)

theorem isWritable_zero : IsWritable 0 :=
  isWritable_of_lt (Nat.zero_le _) (by decide)

/-- Digits write a number below the power of ten of their count. -/
theorem ofDigits_lt {digits : List Nat} (all : ∀ digit ∈ digits, digit < 10) :
    ofDigits 10 digits < 10 ^ digits.length := by
  -- The number that has been read so far is multiplied by the power of the digits to come.
  have continued (start : Nat) :
      digits.foldl (fun number digit => 10 * number + digit) start + 1 ≤
        (start + 1) * 10 ^ digits.length := by
    induction digits generalizing start with
    | nil => simp
    | cons digit rest inductionHypothesis =>
      rw [List.forall_mem_cons] at all
      have next := inductionHypothesis all.2 (10 * start + digit)
      have bound : 10 * start + digit + 1 ≤ (start + 1) * 10 := by omega
      calc (digit :: rest).foldl (fun number digit => 10 * number + digit) start + 1
          ≤ (10 * start + digit + 1) * 10 ^ rest.length := next
        _ ≤ (start + 1) * 10 * 10 ^ rest.length := Nat.mul_le_mul_right _ bound
        _ = (start + 1) * 10 ^ (digit :: rest).length := by
            rw [List.length_cons, Nat.pow_succ', Nat.mul_assoc]
  have whole := continued 0
  rw [Nat.zero_add, Nat.one_mul] at whole
  exact whole

theorem decimalDigit_lt {c : Char} {digit : Nat} (read : decimalDigit? c = some digit) :
    digit < 10 := by
  obtain ⟨first, found, rfl⟩ := Option.map_eq_some_iff.mp read
  have block := List.find?_some found
  simp only [Bool.and_eq_true, decide_eq_true_eq] at block
  omega

/-- The digits of a run are read one by one. -/
theorem digitRun_lt {text : List Char} {digits : List Nat}
    (read : digitRun? decimalDigit? text = some digits) : ∀ digit ∈ digits, digit < 10 := by
  fun_induction digitRun? decimalDigit? text generalizing digits with
  | case1 => cases read
  | case2 c =>
    obtain ⟨digit, found, rfl⟩ := Option.map_eq_some_iff.mp read
    rintro _ member
    rw [List.mem_singleton.mp member]
    exact decimalDigit_lt found
  | case3 c rest inductionHypothesis =>
    obtain ⟨digit, found, read⟩ := Option.bind_eq_some_iff.mp read
    obtain ⟨others, foundOthers, read⟩ := Option.bind_eq_some_iff.mp read
    cases read
    exact List.forall_mem_cons.mpr ⟨decimalDigit_lt found, inductionHypothesis foundOthers⟩
  | case4 c rest _ _ inductionHypothesis =>
    obtain ⟨digit, found, read⟩ := Option.bind_eq_some_iff.mp read
    obtain ⟨others, foundOthers, read⟩ := Option.bind_eq_some_iff.mp read
    cases read
    exact List.forall_mem_cons.mpr ⟨decimalDigit_lt found, inductionHypothesis foundOthers⟩

/-- A number without a sign that is read in a text can be written. -/
theorem decimalMagnitude_isWritable {text : List Char} {number : Nat}
    (read : decimalMagnitude? text = some number) : IsWritable number := by
  obtain ⟨digits, run, read⟩ := Option.bind_eq_some_iff.mp read
  obtain ⟨_, short, read⟩ := Option.bind_eq_some_iff.mp read
  cases read
  have count : digits.length ≤ decimalDigitLimit := (Option.guard_eq_some' _).mp short
  exact isWritable_of_lt count (ofDigits_lt (digitRun_lt run))

/-- An integer that is read is a magnitude that is read, or its opposite. -/
theorem exists_of_signed {magnitude? : List Char → Option Nat} {text : List Char} {number : Int}
    (read : signed? magnitude? text = some number) :
    ∃ rest magnitude, magnitude? rest = some magnitude ∧
      (number = magnitude ∨ number = -(magnitude : Int)) := by
  unfold signed? at read
  split at read
  all_goals
    obtain ⟨_, found, rfl⟩ := Option.map_eq_some_iff.mp read
    obtain ⟨magnitude, readMagnitude, same⟩ := Option.bind_eq_some_iff.mp found
    cases same
  · exact ⟨_, magnitude, readMagnitude, .inr rfl⟩
  · exact ⟨_, magnitude, readMagnitude, .inl rfl⟩
  · exact ⟨_, magnitude, readMagnitude, .inl rfl⟩

/-- An integer that is read in a text can be written. -/
theorem integer_isWritable {text : List Char} {number : Int} (read : integer? text = some number) :
    IsWritable number := by
  obtain ⟨_, magnitude, found, rfl | rfl⟩ := exists_of_signed read
  · exact decimalMagnitude_isWritable found
  · exact isWritable_neg.mpr (decimalMagnitude_isWritable found)

end Text

/-! ## Integers in values -/

open NodeConsole.Text

namespace Value

/-- An integer is a value, or in a value at any depth. -/
inductive Holds (number : Int) : Value → Prop where
  | integer : Holds number (.integer number)
  | item {items : List Value} {item : Value} (member : item ∈ items) (holds : Holds number item) :
      Holds number (.list items)
  | field {fields : Fields} {name : String} {value : Value} (member : (name, value) ∈ fields)
      (holds : Holds number value) : Holds number (.object fields)

/-- All integers in a value can be written. -/
def IsWritable (value : Value) : Prop :=
  ∀ number, value.Holds number → Text.IsWritable number

variable {value : Value} {items : List Value} {fields : Fields}

theorem IsWritable.item (writable : (list items).IsWritable) {item : Value}
    (member : item ∈ items) : item.IsWritable :=
  fun number holds => writable number (.item member holds)

/-- The fields of a value that can be written can be; so can one that is absent. -/
theorem IsWritable.field (writable : (object fields).IsWritable) (name : String) :
    ((fields.get? name).getD .null).IsWritable := by
  intro number holds
  unfold Fields.get? at holds
  cases found : fields.find? (·.1 = name) with
  | none =>
    rw [found] at holds
    cases holds
  | some entry =>
    rw [found] at holds
    exact writable number (.field (List.mem_of_find?_eq_some found) holds)

theorem isWritable_list (all : ∀ item ∈ items, item.IsWritable) : (list items).IsWritable := by
  intro number holds
  cases holds with
  | item member holds => exact all _ member number holds

theorem isWritable_object (all : ∀ field ∈ fields, field.2.IsWritable) :
    (object fields).IsWritable := by
  intro number holds
  cases holds with
  | field member holds => exact all _ member number holds

end Value

theorem Fields.set_eq_put (fields : Fields) (name : String) (value : Value) :
    fields.set name value = put fields name value :=
  rfl

/-! ## Integers in JSON text -/

namespace Json

variable {depth fuel : Nat} {text whole rest : List Char} {negative : Bool}

/-- Whole digits within the limit write an integer that can be written. -/
theorem digitsValue_isWritable (short : whole.length ≤ decimalDigitLimit) :
    Text.IsWritable (digitsValue whole) := by
  have digits : ∀ digit ∈ whole.filterMap decimalDigit?, digit < 10 := by
    intro digit member
    obtain ⟨c, -, read⟩ := List.mem_filterMap.mp member
    exact decimalDigit_lt read
  exact isWritable_of_lt (Nat.le_trans (List.length_filterMap_le _ _) short) (ofDigits_lt digits)

/-- A number that has been read can be written. -/
theorem numberFrom_isWritable {found : Value × List Char}
    (read : numberFrom negative whole rest = .ok found) : found.1.IsWritable := by
  unfold numberFrom at read
  dsimp only at read
  split at read
  · split at read
    · cases read
    · next short =>
      cases read
      have writable := digitsValue_isWritable (Nat.not_lt.mp short)
      rintro _ ⟨⟩
      split
      · exact isWritable_neg.mpr writable
      · exact writable
  · cases read
    nofun

/-- A number that has been read can be written. -/
theorem number_isWritable {found : Value × List Char} (read : number negative text = .ok found) :
    found.1.IsWritable := by
  unfold number at read
  split at read
  · exact numberFrom_isWritable read
  · split at read
    · cases read
    · exact numberFrom_isWritable read

theorem words_isWritable {entry : String × Value} (member : entry ∈ words) :
    entry.2.IsWritable := by
  simp only [words, List.mem_cons, List.not_mem_nil, or_false] at member
  obtain rfl | rfl | rfl | rfl | rfl | rfl := member <;> nofun

/-- A value that holds no other can be written once it has been read. -/
theorem scalar_isWritable {found : Value × List Char} (read : scalar text = .ok found) :
    found.1.IsWritable := by
  unfold scalar at read
  split at read
  · obtain ⟨_, -, rfl⟩ := map_eq_ok.mp read
    nofun
  · split at read
    · next word =>
      cases read
      obtain ⟨entry, member, word⟩ := List.exists_of_findSome?_eq_some word
      obtain ⟨_, -, rfl⟩ := Option.map_eq_some_iff.mp word
      exact words_isWritable member
    · split at read
      · exact number_isWritable read
      · exact number_isWritable read

variable {item : List Char → Except Fault (Value × List Char)}

/-- Items that have been read can be written when each can be. -/
theorem items_isWritable {found : List Value × List Char}
    (each : ∀ text found, item text = .ok found → found.1.IsWritable)
    (read : items item fuel text = .ok found) : ∀ value ∈ found.1, value.IsWritable := by
  induction fuel generalizing text found with
  | zero => cases read
  | succ fuel inductionHypothesis =>
    unfold items at read
    obtain ⟨⟨first, rest⟩, readFirst, read⟩ := bind_eq_ok.mp read
    have firstWritable : first.IsWritable := each _ _ readFirst
    dsimp only at read
    split at read
    · obtain ⟨⟨others, rest⟩, readOthers, read⟩ := bind_eq_ok.mp read
      cases read
      exact List.forall_mem_cons.mpr ⟨firstWritable, inductionHypothesis readOthers⟩
    · cases read
      exact List.forall_mem_singleton.mpr firstWritable
    · cases read

/-- Fields that have been read can be written when each can be. -/
theorem fields_isWritable {before : Fields} {found : Fields × List Char}
    (each : ∀ text found, item text = .ok found → found.1.IsWritable)
    (all : ∀ field ∈ before, field.2.IsWritable)
    (read : fields item fuel before text = .ok found) : ∀ field ∈ found.1, field.2.IsWritable := by
  induction fuel generalizing text before found with
  | zero => cases read
  | succ fuel inductionHypothesis =>
    unfold fields at read
    split at read
    · obtain ⟨⟨name, _⟩, -, read⟩ := bind_eq_ok.mp read
      dsimp only at read
      split at read
      · obtain ⟨⟨value, _⟩, readValue, read⟩ := bind_eq_ok.mp read
        have more : ∀ field ∈ before.set name value, field.2.IsWritable := by
          intro field member
          rw [Fields.set_eq_put] at member
          obtain rfl | ⟨earlier, -⟩ := mem_put.mp member
          · exact each _ _ readValue
          · exact all field earlier
        dsimp only at read
        split at read
        · exact inductionHypothesis more read
        · cases read
          exact more
        · cases read
      · cases read
    · cases read

/-- A value that has been read can be written. -/
theorem value_isWritable {found : Value × List Char} (read : value depth text = .ok found) :
    found.1.IsWritable := by
  induction depth using Nat.strongRecOn generalizing text found with
  | ind depth inductionHypothesis =>
    revert read
    fun_cases value depth text with
    | case1 => nofun
    | case2 => nofun
    | case3 => exact scalar_isWritable
    | case4 =>
      rintro ⟨⟩
      exact Value.isWritable_list nofun
    | case5 below rest =>
      intro read
      obtain ⟨_, readItems, rfl⟩ := map_eq_ok.mp read
      have each := fun text found => @inductionHypothesis below below.lt_succ_self text found
      exact Value.isWritable_list (items_isWritable each readItems)
    | case6 =>
      rintro ⟨⟩
      exact Value.isWritable_object nofun
    | case7 below rest =>
      intro read
      obtain ⟨_, readFields, rfl⟩ := map_eq_ok.mp read
      have each := fun text found => @inductionHypothesis below below.lt_succ_self text found
      exact Value.isWritable_object (fields_isWritable each (List.forall_mem_nil _) readFields)
    | case8 => exact scalar_isWritable

/-- All integers in a text that has been read can be written. -/
theorem parse_isWritable {found : Value} (read : parse depth text = .ok found) :
    found.IsWritable := by
  obtain ⟨⟨found, rest⟩, readValue, read⟩ := bind_eq_ok.mp read
  dsimp only at read
  split at read
  · cases read
    exact value_isWritable readValue
  · cases read

end Json

end NodeConsole
