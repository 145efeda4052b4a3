import Mathlib.Data.Option.Basic
import NodeConsole.Net.Address
import NodeConsole.Proofs.Text.Parts
import NodeConsole.Value

/-!
# What is written like an address

An address has three points or two colons, and nothing but digits before the first of them. Of all
values only a text is shown like that: `Net.Address.text_of_display`.
-/

namespace NodeConsole

open NodeConsole.Text NodeConsole.Decimal

namespace Net.Address

variable {text rest : List Char} {c : Char} {address : Address}

theorem grouped_of_v6? (read : v6? text = some address) :
    ∃ bits, grouped? (text.takeWhile (· ≠ '%')) = some bits := by
  obtain ⟨-, -, read⟩ := Option.bind_eq_some_iff.mp read
  obtain ⟨bits, grouped, -⟩ := Option.bind_eq_some_iff.mp read
  exact ⟨bits, grouped⟩

/-! ## Points and colons -/

/-- A dotted address has three points. -/
theorem points_of_dotted? {bits : BitVec 32} (read : dotted? text = some bits) :
    3 ≤ text.count '.' := by
  have parts := length_splitOn '.' text
  unfold dotted? at read
  split at read
  · next split =>
    rw [split] at parts
    simp only [List.length_cons, List.length_nil] at parts
    omega
  · cases read

/-- Groups stand between two colons at least. -/
theorem colons_of_grouped? {bits : BitVec 128} (read : grouped? text = some bits) :
    2 ≤ text.count ':' := by
  have parts := length_splitOn ':' text
  obtain ⟨found, partsRead, -⟩ := Option.bind_eq_some_iff.mp read
  obtain ⟨_, guarded, -⟩ := Option.bind_eq_some_iff.mp partsRead
  have enough := (Option.guard_eq_some' _).mp guarded
  omega

/-- An address has three points or two colons. -/
theorem marks_of_ofText? (read : ofText? text = some address) :
    3 ≤ text.count '.' ∨ 2 ≤ text.count ':' := by
  obtain v4 | ⟨-, v6⟩ := Option.or_eq_some_iff.mp read
  · obtain ⟨bits, dotted, -⟩ := Option.map_eq_some_iff.mp v4
    exact .inl (points_of_dotted? dotted)
  · obtain ⟨bits, grouped⟩ := grouped_of_v6? v6
    have before : (text.takeWhile (· ≠ '%')).Sublist text := List.takeWhile_sublist _
    exact .inr (Nat.le_trans (colons_of_grouped? grouped) (before.count_le ':'))

/-! ## The first character -/

/-- A group starts with a hexadecimal digit. -/
theorem digit_of_group? {number : Nat} (read : group? (c :: rest) = some number) :
    (hexValue? c).isSome := by
  obtain ⟨-, -, read⟩ := Option.bind_eq_some_iff.mp read
  unfold hexNumber? at read
  obtain ⟨value, first, -⟩ := Option.bind_eq_some_iff.mp read
  obtain ⟨digit, isDigit, -⟩ := Option.map_eq_some_iff.mp first
  rw [isDigit]
  rfl

theorem digit_of_groups {parts : List (List Char)} {numbers : List Nat}
    (read : ((c :: rest) :: parts).mapM group? = some numbers) : (hexValue? c).isSome := by
  rw [List.mapM_cons] at read
  obtain ⟨number, group, -⟩ := Option.bind_eq_some_iff.mp read
  exact digit_of_group? group

/-- The first part of an address, unless it is empty, starts with a hexadecimal digit. -/
theorem digit_of_groupsOf? {parts : List (List Char)} {numbers : List Nat}
    (read : groupsOf? ((c :: rest) :: parts) = some numbers) : (hexValue? c).isSome := by
  unfold groupsOf? at read
  split at read
  · obtain ⟨-, -, groups⟩ := Option.bind_eq_some_iff.mp read
    exact digit_of_groups groups
  · next gap isGap =>
    have inside : gap ∈ gaps ((c :: rest) :: parts) := isGap ▸ List.mem_singleton_self gap
    obtain _ | gap := gap
    · simp [gaps] at inside
    · simp only [List.take_succ_cons, List.head?_cons, Option.some.injEq, reduceCtorEq,
        ↓reduceIte, Option.bind_eq_bind, Option.bind_some] at read
      split at read
      · obtain ⟨after, -, read⟩ := Option.bind_eq_some_iff.mp read
        obtain ⟨_, -, read⟩ := Option.bind_eq_some_iff.mp read
        obtain ⟨before, groups, -⟩ := Option.bind_eq_some_iff.mp read
        exact digit_of_groups groups
      · obtain ⟨_, -, read⟩ := Option.bind_eq_some_iff.mp read
        obtain ⟨before, groups, -⟩ := Option.bind_eq_some_iff.mp read
        exact digit_of_groups groups
  · cases read

theorem isSome_hexValue? (digit : isAsciiDigit c) : (hexValue? c).isSome := by
  simp only [isAsciiDigit, Bool.and_eq_true, decide_eq_true_eq] at digit
  simp [hexValue?, digit]

theorem digit_of_octet? {part : List Char} {number : Nat} (read : octet? part = some number) :
    ∃ digit others, part = digit :: others ∧ isAsciiDigit digit := by
  obtain ⟨_, guarded, -⟩ := Option.bind_eq_some_iff.mp read
  obtain ⟨notEmpty, digits, -⟩ := (Option.guard_eq_some' _).mp guarded
  obtain ⟨digit, others, rfl⟩ := List.exists_cons_of_ne_nil notEmpty
  exact ⟨digit, others, rfl, List.all_eq_true.mp digits digit List.mem_cons_self⟩

/-- A dotted address starts with a digit. -/
theorem digit_of_dotted? {bits : BitVec 32} (read : dotted? (c :: rest) = some bits) :
    (hexValue? c).isSome := by
  unfold dotted? at read
  split at read
  · next first _ _ _ parts =>
    obtain ⟨number, octet, -⟩ := Option.bind_eq_some_iff.mp read
    obtain ⟨digit, others, rfl, isDigit⟩ := digit_of_octet? octet
    by_cases point : c = '.'
    · rw [point] at parts
      simp [splitOn] at parts
    · obtain ⟨part, others, split⟩ := splitOn_cons point rest
      rw [split] at parts
      obtain ⟨⟨rfl, -⟩, -⟩ := parts
      exact isSome_hexValue? isDigit
  · cases read

/-- A dotted last part does not change the first part. -/
theorem first_of_parts? {parts : List (List Char)} (other : c ≠ ':')
    (read : parts? (c :: rest) = some parts) : ∃ part later, parts = (c :: part) :: later := by
  obtain ⟨part, others, split⟩ := splitOn_cons other rest
  obtain ⟨_, guarded, read⟩ := Option.bind_eq_some_iff.mp read
  rw [split] at guarded read
  have several := (Option.guard_eq_some' _).mp guarded
  obtain ⟨second, others, rfl⟩ : ∃ second later, others = second :: later :=
    List.exists_cons_of_ne_nil (by rintro rfl; simp at several)
  dsimp only at read
  split at read
  · obtain ⟨bits, -, read⟩ := Option.bind_eq_some_iff.mp read
    obtain ⟨_, ⟨⟩, read⟩ := Option.bind_eq_some_iff.mp read
    obtain ⟨_, -, ⟨⟩⟩ := Option.bind_eq_some_iff.mp read
    exact ⟨part, _, rfl⟩
  · obtain ⟨_, ⟨⟩, read⟩ := Option.bind_eq_some_iff.mp read
    obtain ⟨_, -, ⟨⟩⟩ := Option.bind_eq_some_iff.mp read
    exact ⟨part, _, rfl⟩

/-- Groups start with a hexadecimal digit or with a colon. -/
theorem first_of_grouped? {bits : BitVec 128} (read : grouped? (c :: rest) = some bits) :
    (hexValue? c).isSome ∨ c = ':' := by
  by_cases colon : c = ':'
  · exact .inr colon
  · left
    obtain ⟨parts, partsRead, read⟩ := Option.bind_eq_some_iff.mp read
    obtain ⟨numbers, groups, -⟩ := Option.bind_eq_some_iff.mp read
    obtain ⟨part, later, rfl⟩ := first_of_parts? colon partsRead
    exact digit_of_groupsOf? groups

/-- An address starts with a hexadecimal digit or with a colon. -/
theorem first_of_ofText? (read : ofText? (c :: rest) = some address) :
    (hexValue? c).isSome ∨ c = ':' := by
  obtain v4 | ⟨-, v6⟩ := Option.or_eq_some_iff.mp read
  · obtain ⟨bits, dotted, -⟩ := Option.map_eq_some_iff.mp v4
    exact .inl (digit_of_dotted? dotted)
  · obtain ⟨bits, grouped⟩ := grouped_of_v6? v6
    by_cases mark : c = '%'
    · rw [mark, List.takeWhile_cons_of_neg (by decide)] at grouped
      exact absurd (colons_of_grouped? grouped) (by decide)
    · rw [List.takeWhile_cons_of_pos (by simpa using mark)] at grouped
      exact first_of_grouped? grouped

end Net.Address

/-! ## Shown values -/

namespace Text

/-- A text has neither points nor colons. -/
def IsUnmarked (text : List Char) : Prop :=
  text.count '.' = 0 ∧ text.count ':' = 0

theorem IsUnmarked.of_sublist {part whole : List Char} (unmarked : IsUnmarked whole)
    (isPart : part.Sublist whole) : IsUnmarked part :=
  ⟨Nat.le_zero.mp (unmarked.1 ▸ isPart.count_le '.'),
    Nat.le_zero.mp (unmarked.2 ▸ isPart.count_le ':')⟩

/-- Digits are no marks. -/
theorem isUnmarked_digits (number : Nat) : IsUnmarked (Nat.toDigits 10 number) := by
  have digits {c : Char} (member : c ∈ Nat.toDigits 10 number) : c.isDigit :=
    Nat.isDigit_of_mem_toDigits (by decide) (by decide) member
  constructor
  · exact List.count_eq_zero.mpr fun point => absurd (digits point) (by decide)
  · exact List.count_eq_zero.mpr fun colon => absurd (digits colon) (by decide)

/-- An integer is shown without marks. -/
theorem isUnmarked_decimal (number : Int) : IsUnmarked (decimal number).toList := by
  cases number with
  | ofNat magnitude =>
    rw [decimal, String.toList_ofList]
    exact isUnmarked_digits magnitude
  | negSucc predecessor =>
    obtain ⟨points, colons⟩ := isUnmarked_digits (predecessor + 1)
    simp [IsUnmarked, decimal, points, colons]

end Text

namespace Decimal

variable {digits : List Char}

theorem withoutTrailingZeros_sublist (digits : List Char) :
    (withoutTrailingZeros digits).Sublist digits := by
  have shorter := (List.dropWhile_sublist (l := digits.reverse) fun c => decide (c = '0')).reverse
  rwa [List.reverse_reverse] at shorter

/-- A number that is written positionally has one point. -/
theorem count_positional (unmarked : IsUnmarked digits) (leading : Int) :
    (positional digits leading).count '.' = 1 ∧ (positional digits leading).count ':' = 0 := by
  cases leading with
  | ofNat power =>
    obtain ⟨points, colons⟩ := unmarked.of_sublist (List.take_sublist (power + 1) digits)
    obtain ⟨laterPoints, laterColons⟩ := unmarked.of_sublist (List.drop_sublist (power + 1) digits)
    simp only [positional, List.count_append, List.count_cons, points, colons]
    split <;> simp [List.count_replicate, laterPoints, laterColons]
  | negSucc zeros =>
    simp [positional, List.count_append, List.count_replicate, unmarked.1, unmarked.2]

/-- A number that is written with an exponent has one point at most. -/
theorem count_scientific (unmarked : IsUnmarked digits) (leading : Int) :
    (scientific digits leading).count '.' ≤ 1 ∧ (scientific digits leading).count ':' = 0 := by
  obtain ⟨points, colons⟩ := unmarked.of_sublist (List.take_sublist 1 digits)
  obtain ⟨laterPoints, laterColons⟩ := unmarked.of_sublist (List.tail_sublist digits)
  obtain ⟨power, powerColons⟩ := isUnmarked_digits leading.natAbs
  simp only [scientific, zeroPadded, String.toList_ofList, List.count_append, points, colons,
    List.count_replicate, power, powerColons, List.drop_one]
  split <;> split <;> simp [laterPoints, laterColons]

/-- A number is shown without colons and with one point at most. -/
theorem count_text (number : Binary64) :
    number.text.toList.count '.' ≤ 1 ∧ number.text.toList.count ':' = 0 := by
  cases number with
  | notANumber => decide
  | infinite negative => cases negative <;> decide
  | finite negative significand exponent =>
    unfold Binary64.text
    dsimp only
    split
    · cases negative <;> decide
    · have digits := isUnmarked_digits (shortest significand exponent).digits
      have kept := digits.of_sublist (withoutTrailingZeros_sublist _)
      have sign : IsUnmarked (if negative then ['-'] else []) := by
        cases negative <;> exact ⟨rfl, rfl⟩
      simp only [String.toList_ofList, List.count_append, sign.1, sign.2, Nat.zero_add]
      split
      · exact ⟨Nat.le_of_eq (count_positional kept _).1, (count_positional kept _).2⟩
      · exact count_scientific kept _

end Decimal

/-- Only a text is shown like an address. -/
theorem Net.Address.text_of_display {value : Value} {address : Address}
    (read : ofText? value.display.toList = some address) : ∃ text, value = .text text := by
  cases value with
  | text text => exact ⟨text, rfl⟩
  | null => cases read
  | bool flag => cases flag <;> cases read
  | integer number =>
    have shown := isUnmarked_decimal number
    obtain points | colons := marks_of_ofText? read
    · exact absurd (shown.1 ▸ points) (by decide)
    · exact absurd (shown.2 ▸ colons) (by decide)
  | number number =>
    have shown := count_text number
    obtain points | colons := marks_of_ofText? read
    · exact absurd (Nat.le_trans points shown.1) (by decide)
    · exact absurd (shown.2 ▸ colons) (by decide)
  | list items =>
    have start : ∃ rest, (Value.list items).display.toList = '[' :: rest := by
      simp [Value.display, Value.quoted]
    obtain ⟨rest, start⟩ := start
    rw [start] at read
    exact absurd (first_of_ofText? read) (by decide)
  | object fields =>
    have start : ∃ rest, (Value.object fields).display.toList = '{' :: rest := by
      simp [Value.display, Value.quoted]
    obtain ⟨rest, start⟩ := start
    rw [start] at read
    exact absurd (first_of_ofText? read) (by decide)

end NodeConsole
