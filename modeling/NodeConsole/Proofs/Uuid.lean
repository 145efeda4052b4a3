import Mathlib.Algebra.Group.Nat.Defs
import NodeConsole.Proofs.Text.Hex
import NodeConsole.Uuid

/-!
# Identifiers told apart

The text of an identifier holds the digits of its bits in five groups of fixed widths, so two
identifiers have different texts: `Uuid.text_injective`.
-/

namespace NodeConsole

open NodeConsole.Text

namespace Uuid

/-- Digits that are the same in all groups are the same. -/
theorem eq_of_groups {digits others : List Char} (length : digits.length = others.length)
    (same : digits.take 8 ++ '-' :: (digits.drop 8).take 4 ++ '-' :: (digits.drop 12).take 4 ++
        '-' :: (digits.drop 16).take 4 ++ '-' :: digits.drop 20 =
      others.take 8 ++ '-' :: (others.drop 8).take 4 ++ '-' :: (others.drop 12).take 4 ++
        '-' :: (others.drop 16).take 4 ++ '-' :: others.drop 20) : digits = others := by
  have shorter (count : Nat) : (digits.drop count).length = (others.drop count).length := by
    rw [List.length_drop, List.length_drop, length]
  have group (count : Nat) :
      ('-' :: (digits.drop count).take 4).length = ('-' :: (others.drop count).take 4).length := by
    simp only [List.length_cons, List.length_take, shorter]
  obtain ⟨same, fifth⟩ := List.append_inj' same (congrArg (· + 1) (shorter 20))
  obtain ⟨same, fourth⟩ := List.append_inj' same (group 16)
  obtain ⟨same, third⟩ := List.append_inj' same (group 12)
  obtain ⟨front, second⟩ := List.append_inj' same (group 8)
  rw [List.cons.injEq] at fifth fourth third second
  have extend {count : Nat} (group : (digits.drop count).take 4 = (others.drop count).take 4)
      (rest : digits.drop (count + 4) = others.drop (count + 4)) :
      digits.drop count = others.drop count := by
    rw [← List.take_append_drop 4 (digits.drop count), List.drop_drop, group, rest,
      ← List.drop_drop, List.take_append_drop]
  have sixteen := extend fourth.2 fifth.2
  have twelve := extend third.2 sixteen
  have eight := extend second.2 twelve
  rw [← List.take_append_drop 8 digits, front, eight, List.take_append_drop]

/-- Identifiers differ in their texts. -/
theorem text_injective : Function.Injective text := by
  intro first second same
  have digits : hexDigits 32 first.bits.toNat = hexDigits 32 second.bits.toNat :=
    eq_of_groups (by rw [length_hexDigits, length_hexDigits]) (String.ofList_injective same)
  have fits (uuid : Uuid) : uuid.bits.toNat < 16 ^ 32 := uuid.bits.isLt
  have read := hexNumber?_hexDigits (fits first)
  rw [digits, hexNumber?_hexDigits (fits second)] at read
  have bits := BitVec.eq_of_toNat_eq (Option.some.inj read)
  cases first
  cases second
  exact congrArg Uuid.mk bits.symm

end Uuid

end NodeConsole
