import Mathlib.Algebra.Group.Nat.Defs
import NodeConsole.Text.Hex

/-!
# Hexadecimal digits read back

A number is written in its shortest hexadecimal digits or in as many as a width asks for. It is read
back from either: `hexNumber?_hexText`, `hexNumber?_hexDigits`.
-/

namespace NodeConsole.Text

variable {number width value : Nat} {c : Char}

/-! ## Shortest digits -/

theorem hexValue?_digitChar (fits : value < 16) :
    hexValue? value.digitChar = some value := by
  have all : ∀ value < 16, hexValue? value.digitChar = some value := by decide
  exact all value fits

theorem hexNumber?_concat (digits : List Char) (digit : Char) :
    hexNumber? (digits ++ [digit]) =
      (hexNumber? digits).bind fun value => (hexValue? digit).map (16 * value + ·) := by
  rw [hexNumber?, List.foldlM_append]
  simp only [List.foldlM_cons, List.foldlM_nil, bind_pure]
  rfl

/-- A written hexadecimal number is read back. -/
theorem hexNumber?_hexText (number : Nat) : hexNumber? (hexText number) = some number := by
  induction number using Nat.strongRecOn with
  | ind number inductionHypothesis =>
    rw [hexText, Nat.toDigits_eq_if (by decide)]
    split
    · next single => simp [hexNumber?, hexValue?_digitChar single]
    · next several =>
      have before := inductionHypothesis (number / 16) (by omega)
      rw [hexText] at before
      rw [hexNumber?_concat, before, hexValue?_digitChar (by omega)]
      simp [Nat.div_add_mod]

/-- Hexadecimal numbers are written in hexadecimal digits. -/
theorem isSome_hexValue?_of_mem (member : c ∈ hexText number) : (hexValue? c).isSome := by
  have digit {value : Nat} (fits : value < 16) : (hexValue? value.digitChar).isSome := by
    rw [hexValue?_digitChar fits]
    rfl
  induction number using Nat.strongRecOn with
  | ind number inductionHypothesis =>
    rw [hexText, Nat.toDigits_eq_if (by decide)] at member
    split at member
    · next single =>
      rw [List.mem_singleton.mp member]
      exact digit single
    · next several =>
      obtain before | last := List.mem_append.mp member
      · exact inductionHypothesis (number / 16) (by omega) before
      · rw [List.mem_singleton.mp last]
        exact digit (by omega)

/-! ## Digits of a width -/

theorem length_hexDigits (width value : Nat) : (hexDigits width value).length = width := by
  induction width generalizing value with
  | zero => rfl
  | succ width inductionHypothesis =>
    rw [hexDigits, List.length_append, inductionHypothesis, List.length_singleton]

theorem hexValue?_hexDigit (fits : value < 16) :
    hexValue? (hexDigit value) = some value := by
  have all : ∀ value < 16, hexValue? (hexDigit value) = some value := by decide
  exact all value fits

/-- The digits of a number that fits into their width are read back. -/
theorem hexNumber?_hexDigits (fits : value < 16 ^ width) :
    hexNumber? (hexDigits width value) = some value := by
  induction width generalizing value with
  | zero =>
    obtain rfl : value = 0 := by omega
    rfl
  | succ width inductionHypothesis =>
    have before := inductionHypothesis (Nat.div_lt_of_lt_mul (by rwa [Nat.pow_succ'] at fits))
    have last := hexValue?_hexDigit (Nat.mod_lt value (by decide))
    rw [hexDigits, hexNumber?_concat, before, Option.bind_some, last, Option.map_some,
      Nat.div_add_mod]

/-- Digits of a width are small ones. -/
theorem isSmall_of_mem_hexDigits (member : c ∈ hexDigits width value) :
    c ∈ "0123456789abcdef".toList := by
  have small : ∀ value < 16, "0123456789abcdef".toList.contains (hexDigit value) := by decide
  induction width generalizing value with
  | zero => cases member
  | succ width inductionHypothesis =>
    rw [hexDigits] at member
    obtain before | last := List.mem_append.mp member
    · exact inductionHypothesis before
    · rw [List.mem_singleton.mp last]
      exact List.contains_iff_mem.mp (small _ (Nat.mod_lt value (by decide)))

end NodeConsole.Text
