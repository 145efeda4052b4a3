import Mathlib.Algebra.Group.Nat.Defs
import NodeConsole.Json.Parser
import NodeConsole.Json.Printer
import NodeConsole.Proofs.Text.Hex

/-!
# Strings read back

A string is written between quotes, with some of its characters escaped, and the reader gives it
back, whatever follows its last quote: `string_flatMap`. So what starts with a written string starts
with one only: `stringText_append_inj`.
-/

namespace NodeConsole.Json

open NodeConsole.Text

variable {c : Char} {rest : List Char}

/-! ## Units -/

/-- A unit is read back. -/
theorem unit?_hexDigits {unit : Nat} (fits : unit < 0x10000) (rest : List Char) :
    unit? (hexDigits 4 unit ++ rest) = some (unit, rest) := by
  obtain ⟨a, b, c, d, digits⟩ : ∃ a b c d, hexDigits 4 unit = [a, b, c, d] := ⟨_, _, _, _, rfl⟩
  have read : hexNumber? (hexDigits 4 unit) = some unit := hexNumber?_hexDigits fits
  rw [digits] at read ⊢
  simp only [List.cons_append, List.nil_append, unit?, read]
  rfl

theorem not_surrogate (c : Char) : c.toNat < 0xd800 ∨ 0xe000 ≤ c.toNat := by
  obtain low | ⟨high, -⟩ := c.valid
  · exact .inl low
  · exact .inr high

theorem toNat_lt (c : Char) : c.toNat < 0x110000 := by
  obtain low | ⟨-, high⟩ := c.valid
  · exact Nat.lt_trans low (by decide)
  · exact high

theorem loneUnit_toNat (c : Char) : loneUnit c.toNat = c := by
  have whole := not_surrogate c
  rw [loneUnit, if_neg (by omega), Char.ofNat_toNat]

theorem pair?_toNat (c : Char) (low : Nat) : pair? c.toNat low = none := by
  have whole := not_surrogate c
  exact if_neg (by omega)

/-- A character of one unit is read back. -/
theorem escapedUnit?_unit (short : c.toNat < 0x10000) (rest : List Char) :
    escapedUnit? (hexDigits 4 c.toNat ++ rest) = some (c, rest) := by
  rw [escapedUnit?, unit?_hexDigits short, Option.bind_eq_bind, Option.bind_some]
  dsimp only
  split
  · split
    · rw [pair?_toNat, loneUnit_toNat]
      rfl
    · rw [loneUnit_toNat]
      rfl
  · rw [loneUnit_toNat]
    rfl

theorem escapedUnit?_pair {high low : Nat} (highFits : high < 0x10000) (lowFits : low < 0x10000)
    (pair : pair? high low = some c) (rest : List Char) :
    escapedUnit? (hexDigits 4 high ++ (unitText low ++ rest)) = some (c, rest) := by
  rw [escapedUnit?, unit?_hexDigits highFits, Option.bind_eq_bind, Option.bind_some]
  simp only [unitText, List.cons_append, unit?_hexDigits lowFits, pair]
  rfl

theorem pair?_units (long : 0x10000 ≤ c.toNat) :
    pair? (0xd800 + (c.toNat - 0x10000) / 1024) (0xdc00 + (c.toNat - 0x10000) % 1024) = some c := by
  have below := toNat_lt c
  have whole : 0x10000 + (0xd800 + (c.toNat - 0x10000) / 1024 - 0xd800) * 1024 +
      (0xdc00 + (c.toNat - 0x10000) % 1024 - 0xdc00) = c.toNat := by omega
  rw [pair?, if_pos (by omega), whole, Char.ofNat_toNat]

/-! ## Strings -/

/-- A character with an escape of one letter is read back. -/
theorem stringBody_letter {letter : Char} (read : escapedLetter? letter = some c) (fuel : Nat)
    (rest : List Char) :
    stringBody (fuel + 1) ('\\' :: letter :: rest) =
      (stringBody fuel rest).map fun (body, last) => (c :: body, last) := by
  have noUnit : letter ≠ 'u' := by
    rintro rfl
    cases read
  rw [stringBody, if_neg (by decide), if_pos rfl]
  · simp only [read]
  · exact noUnit

theorem stringBody_units {digits : List Char} (read : escapedUnit? digits = some (c, rest))
    (fuel : Nat) :
    stringBody (fuel + 1) ('\\' :: 'u' :: digits) =
      (stringBody fuel rest).map fun (body, last) => (c :: body, last) := by
  rw [stringBody, if_neg (by decide), if_pos rfl]
  simp only [read]

theorem stringBody_plain (noQuote : c ≠ '"') (noEscape : c ≠ '\\') (visible : 32 ≤ c.toNat)
    (fuel : Nat) (rest : List Char) :
    stringBody (fuel + 1) (c :: rest) =
      (stringBody fuel rest).map fun (body, last) => (c :: body, last) := by
  rw [stringBody.eq_def]
  dsimp only
  rw [if_neg noQuote, if_neg noEscape, if_neg (Nat.not_lt.mpr visible)]

/-- A character is read back, however it is written. -/
theorem stringBody_stringChar (fuel : Nat) (c : Char) (rest : List Char) :
    stringBody (fuel + 1) (stringChar c ++ rest) =
      (stringBody fuel rest).map fun (body, last) => (c :: body, last) := by
  -- Seven characters have an escape of one letter. Of the others those of ASCII that can be seen
  -- are written as they are, and the rest as one unit or as a pair of units.
  fun_cases stringChar c with
  | case1 | case2 | case3 | case4 | case5 | case6 | case7 =>
    subst c
    exact stringBody_letter rfl fuel rest
  | case8 noQuote noEscape _ _ _ _ _ plain =>
    exact stringBody_plain noQuote noEscape plain.1 fuel rest
  | case9 _ _ _ _ _ _ _ _ short => exact stringBody_units (escapedUnit?_unit short rest) fuel
  | case10 _ _ _ _ _ _ _ _ long above =>
    have below := toNat_lt c
    have read := escapedUnit?_pair (by omega) (by omega) (pair?_units (Nat.not_lt.mp long)) rest
    rw [List.append_assoc]
    exact stringBody_units read fuel

/-- The characters of a string are read back, up to its last quote. -/
theorem stringBody_flatMap {fuel : Nat} {text : List Char} (enough : text.length < fuel)
    (rest : List Char) :
    stringBody fuel (text.flatMap stringChar ++ '"' :: rest) = .ok (text, rest) := by
  induction text generalizing fuel with
  | nil =>
    cases fuel with
    | zero => cases enough
    | succ fuel => rfl
  | cons c text inductionHypothesis =>
    cases fuel with
    | zero => cases enough
    | succ fuel =>
      rw [List.flatMap_cons, List.append_assoc, stringBody_stringChar,
        inductionHypothesis (Nat.lt_of_succ_lt_succ enough)]
      rfl

theorem stringChar_ne_nil (c : Char) : stringChar c ≠ [] := by
  fun_cases stringChar c <;> nofun

/-- A string is written in no fewer characters than it has. -/
theorem length_le_flatMap (text : List Char) : text.length ≤ (text.flatMap stringChar).length := by
  induction text with
  | nil => exact Nat.le_refl 0
  | cons c rest inductionHypothesis =>
    have filled := List.length_pos_iff.mpr (stringChar_ne_nil c)
    rw [List.flatMap_cons, List.length_append, List.length_cons]
    omega

/-- A written string is read back behind its first quote. -/
theorem string_flatMap (text : String) (rest : List Char) :
    string (text.toList.flatMap stringChar ++ '"' :: rest) = .ok (text, rest) := by
  have enough := length_le_flatMap text.toList
  rw [string, stringBody_flatMap (by rw [List.length_append]; omega)]
  exact congrArg (fun read => Except.ok (read, rest)) (String.ofList_toList)

/-- What starts with a written string starts with one only, and the same follows it. -/
theorem stringText_append_inj {text other : String} {rest others : List Char}
    (same : (stringText text).toList ++ rest = (stringText other).toList ++ others) :
    text = other ∧ rest = others := by
  have read := string_flatMap text rest
  simp only [stringText, String.toList_ofList, List.cons_append, List.append_assoc,
    List.nil_append] at same
  rw [(List.cons.inj same).2, string_flatMap other others] at read
  cases read
  exact ⟨rfl, rfl⟩

end NodeConsole.Json
