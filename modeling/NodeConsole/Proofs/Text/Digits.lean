import Mathlib.Algebra.Group.Nat.Defs
import NodeConsole.Proofs.Input.Grammar
import NodeConsole.Proofs.Text.Parts
import NodeConsole.Text.Blank

/-!
# Digits read back

A number is written in decimal digits, most significant first, and with zeros before them where a
width is asked for. It is read back from either: as an integer in text (`integer?_decimalNat`), and
as the value of its digits (`writes_zeroPadded`). Where no digit follows, the number can be told
from what follows (`toDigits_append_inj`, `zeroPadded_append_inj`).
-/

namespace NodeConsole.Text

section Ends

/-!
## Ends of texts

What surrounds a text is taken off and the text itself is kept, unless its own ends are of the same
class: `trim_between`.
-/

variable {drops : Char → Bool} {text before after : List Char}

/-- A text keeps its end if the last character is of another class. -/
theorem dropLastWhile_of_keeps (keeps : ∀ c ∈ text.getLast?, drops c = false) :
    dropLastWhile drops text = text := by
  rw [dropLastWhile]
  cases reversed : text.reverse with
  | nil => simpa using reversed.symm
  | cons last others =>
    rw [← List.head?_reverse, reversed] at keeps
    rw [List.dropWhile_cons_of_neg (Bool.eq_false_iff.mp (keeps last rfl)), ← reversed,
      List.reverse_reverse]

theorem dropLastWhile_append (all : ∀ c ∈ after, drops c = true) :
    dropLastWhile drops (text ++ after) = dropLastWhile drops text := by
  have reversed : ∀ c ∈ after.reverse, drops c = true :=
    fun c member => all c (List.mem_reverse.mp member)
  rw [dropLastWhile, List.reverse_append, List.dropWhile_append_of_pos reversed, dropLastWhile]

/-- A text without characters of the class is what stays of it among such characters. -/
theorem trim_between (allBefore : ∀ c ∈ before, drops c = true)
    (keeps : ∀ c ∈ text, drops c = false) (allAfter : ∀ c ∈ after, drops c = true) :
    trim drops (before ++ text ++ after) = text := by
  have kept : dropLastWhile drops text = text :=
    dropLastWhile_of_keeps fun c last => keeps c (List.mem_of_getLast? last)
  rw [trim, List.append_assoc, List.dropWhile_append_of_pos allBefore]
  cases text with
  | nil =>
    rw [List.nil_append, ← List.append_nil after, List.dropWhile_append_of_pos allAfter]
    rfl
  | cons c rest =>
    rw [List.cons_append, List.dropWhile_cons_of_neg (by simp [keeps c]), ← List.cons_append,
      dropLastWhile_append allAfter, kept]

theorem trim_of_keeps (keeps : ∀ c ∈ text, drops c = false) : trim drops text = text := by
  simpa using trim_between (List.forall_mem_nil _) keeps (List.forall_mem_nil _)

theorem isBlank_of_visible {c : Char} (visible : 0x20 < c.toNat ∧ c.toNat < 0x7f) :
    isBlank c = false := by
  have codes : ∀ code < 0x7f, 0x20 < code → blankCodes.contains code = false := by decide
  exact codes c.toNat visible.2 visible.1

end Ends

variable {c : Char} {text : List Char} {number width : Nat}

/-! ## Values of digits -/

/-- A digit has its distance from zero as its value. -/
theorem decimalDigit?_of_isDigit (digit : c.isDigit = true) :
    decimalDigit? c = some (c.toNat - '0'.toNat) := by
  have bounds : 48 ≤ c.toNat ∧ c.toNat ≤ 57 := Char.isDigit_iff_toNat.mp digit
  have inFirst : (decide (48 ≤ c.toNat) && decide (c.toNat < 48 + 10)) = true := by
    simp only [Bool.and_eq_true, decide_eq_true_eq]
    omega
  have start : digitZeros = 48 :: digitZeros.tail := rfl
  rw [decimalDigit?, start]
  simp only [List.find?_cons, inFirst]
  rfl

theorem isAsciiDigit_of_isDigit (digit : c.isDigit = true) : isAsciiDigit c = true := by
  have bounds : 48 ≤ c.toNat ∧ c.toNat ≤ 57 := Char.isDigit_iff_toNat.mp digit
  simp [isAsciiDigit, bounds]

theorem isDecimalDigit_of_isDigit (digit : c.isDigit = true) : isDecimalDigit c = true := by
  rw [isDecimalDigit, decimalDigit?_of_isDigit digit]
  rfl

theorem isBlank_of_isDigit (digit : c.isDigit = true) : isBlank c = false := by
  have bounds : 48 ≤ c.toNat ∧ c.toNat ≤ 57 := Char.isDigit_iff_toNat.mp digit
  exact isBlank_of_visible (by omega)

/-- Every digit has a value. -/
theorem filterMap_decimalDigit? (digits : ∀ c ∈ text, c.isDigit = true) :
    text.filterMap decimalDigit? = text.map Input.digitValue := by
  induction text with
  | nil => rfl
  | cons c rest inductionHypothesis =>
    obtain ⟨digit, others⟩ := List.forall_mem_cons.mp digits
    have value := decimalDigit?_of_isDigit digit
    rw [List.filterMap_cons_some value, inductionHypothesis others, List.map_cons,
      Input.digitValue, value, Option.getD_some]

/-- The values of some digits write their number. -/
theorem numberOf_eq (digits : ∀ c ∈ text, c.isDigit = true) :
    Input.numberOf text = Nat.ofDigitChars 10 text 0 := by
  have value : ∀ c ∈ text, Input.digitValue c = c.toNat - '0'.toNat := by
    intro c member
    rw [Input.digitValue, decimalDigit?_of_isDigit (digits c member), Option.getD_some]
  rw [Input.numberOf, List.map_congr_left value, ofDigits, List.foldl_map,
    Nat.ofDigitChars_eq_foldl]

theorem ofDigits_filterMap (digits : ∀ c ∈ text, c.isDigit = true) :
    ofDigits 10 (text.filterMap decimalDigit?) = Nat.ofDigitChars 10 text 0 := by
  rw [filterMap_decimalDigit? digits, ← Input.numberOf, numberOf_eq digits]

/-! ## Fields of a width -/

theorem isDigit_of_mem_toDigits (member : c ∈ Nat.toDigits 10 number) : c.isDigit = true :=
  Nat.isDigit_of_mem_toDigits (by decide) (by decide) member

/-- As many digits as a width write a number. -/
structure Writes (width number : Nat) (text : List Char) : Prop where
  length_eq : text.length = width
  digits : ∀ c ∈ text, c.isDigit = true
  value : Nat.ofDigitChars 10 text 0 = number

/-- Padded numbers are written in digits. -/
theorem isDigit_of_mem_zeroPadded (member : c ∈ (zeroPadded width number).toList) :
    c.isDigit = true := by
  rw [zeroPadded, String.toList_ofList] at member
  obtain padding | digit := List.mem_append.mp member
  · rw [List.eq_of_mem_replicate padding]
    rfl
  · exact isDigit_of_mem_toDigits digit

theorem ofDigitChars_zeroPadded (width number : Nat) :
    Nat.ofDigitChars 10 (zeroPadded width number).toList 0 = number := by
  rw [zeroPadded, String.toList_ofList, Nat.ofDigitChars_append, Nat.ofDigitChars_replicate_zero,
    Nat.mul_zero, Nat.ofDigitChars_ten_toDigits]

/-- A number is padded to a width that holds it. -/
theorem writes_zeroPadded (some : 0 < width) (fits : number < 10 ^ width) :
    Writes width number (zeroPadded width number).toList := by
  have short : (Nat.toDigits 10 number).length ≤ width :=
    (Nat.length_toDigits_le_iff (by decide) some).mpr fits
  refine ⟨?_, fun _ => isDigit_of_mem_zeroPadded, ofDigitChars_zeroPadded width number⟩
  rw [zeroPadded, String.toList_ofList, List.length_append, List.length_replicate,
    Nat.sub_add_cancel short]

/-! ## Digits and what follows -/

/-- No digit comes first in a text, so that a number before it is at its end. -/
def EndsNumber (text : List Char) : Prop :=
  ∀ c ∈ text.head?, c.isDigit = false

/-- Digits have a value that can be told from what follows them. -/
theorem digits_append_inj {digits others rest more : List Char}
    (areDigits : ∀ c ∈ digits, c.isDigit = true) (otherDigits : ∀ c ∈ others, c.isDigit = true)
    (ends : EndsNumber rest) (moreEnds : EndsNumber more) (same : digits ++ rest = others ++ more) :
    Nat.ofDigitChars 10 digits 0 = Nat.ofDigitChars 10 others 0 ∧ rest = more := by
  obtain ⟨rfl, sameRest⟩ := front_append_inj areDigits otherDigits ends moreEnds same
  exact ⟨rfl, sameRest⟩

/-- A number can be told from what follows its digits. -/
theorem toDigits_append_inj {other : Nat} {rest more : List Char} (ends : EndsNumber rest)
    (moreEnds : EndsNumber more)
    (same : Nat.toDigits 10 number ++ rest = Nat.toDigits 10 other ++ more) :
    number = other ∧ rest = more := by
  have told := digits_append_inj (fun _ => isDigit_of_mem_toDigits)
    (fun _ => isDigit_of_mem_toDigits) ends moreEnds same
  rwa [Nat.ofDigitChars_ten_toDigits, Nat.ofDigitChars_ten_toDigits] at told

/-- A padded number can be told from what follows its digits. -/
theorem zeroPadded_append_inj {other : Nat} {rest more : List Char} (ends : EndsNumber rest)
    (moreEnds : EndsNumber more)
    (same : (zeroPadded width number).toList ++ rest = (zeroPadded width other).toList ++ more) :
    number = other ∧ rest = more := by
  have told := digits_append_inj (fun _ => isDigit_of_mem_zeroPadded)
    (fun _ => isDigit_of_mem_zeroPadded) ends moreEnds same
  rwa [ofDigitChars_zeroPadded, ofDigitChars_zeroPadded] at told

/-! ## Integers -/

theorem isDigit_of_mem_decimalNat (member : c ∈ (decimalNat number).toList) : c.isDigit = true := by
  rw [decimalNat, String.toList_ofList] at member
  exact isDigit_of_mem_toDigits member

theorem decimalNat_injective : Function.Injective decimalNat := by
  intro number other same
  have values := congrArg (fun text => Nat.ofDigitChars 10 text.toList 0) same
  simpa only [decimalNat, String.toList_ofList, Nat.ofDigitChars_ten_toDigits] using values

theorem not_mem_decimalNat {separator : Char} (noDigit : separator.isDigit = false) (number : Nat) :
    separator ∉ (decimalNat number).toList := by
  intro member
  simp [isDigit_of_mem_decimalNat member] at noDigit

/-- Digits alone are an integer without sign. -/
theorem integer?_of_digits (filled : text ≠ []) (digits : ∀ c ∈ text, c.isDigit = true)
    (short : text.length ≤ decimalDigitLimit) :
    integer? text = some (Nat.ofDigitChars 10 text 0 : Int) := by
  have noBlanks : ∀ c ∈ text, isNumberBlank c = false := by
    intro c member
    rw [isNumberBlank, isBlank_of_isDigit (digits c member), Bool.false_and]
  have isNumber : Input.IsNumber text := by
    refine ⟨filled, List.all_eq_true.mpr fun c member => ?_⟩
    exact isDecimalDigit_of_isDigit (digits c member)
  have magnitude : decimalMagnitude? text = some (Nat.ofDigitChars 10 text 0) := by
    rw [Input.decimalMagnitude_eq isNumber, if_pos short, numberOf_eq digits]
  rw [integer?, trim_of_keeps noBlanks]
  unfold signed?
  split
  · exact absurd (digits '-' List.mem_cons_self) (by decide)
  · exact absurd (digits '+' List.mem_cons_self) (by decide)
  · rw [magnitude]
    rfl

/-- A number that is short enough is read back. -/
theorem integer?_decimalNat (short : (decimalNat number).length ≤ decimalDigitLimit) :
    integer? (decimalNat number).toList = some (number : Int) := by
  rw [decimalNat, String.length_ofList] at short
  rw [decimalNat, String.toList_ofList,
    integer?_of_digits Nat.toDigits_ne_nil (fun _ => isDigit_of_mem_toDigits) short,
    Nat.ofDigitChars_ten_toDigits]

end NodeConsole.Text
