import Mathlib.Data.List.Forall2
import NodeConsole.Proofs.Base64
import NodeConsole.Proofs.Text.Hex
import NodeConsole.Proofs.Text.Parts
import NodeConsole.Proofs.Wire.Reading

/-!
# Hardware addresses read back

A hardware address is read from the letters of its bytes and shown as pairs of small hexadecimal
digits. The bytes can be read back from what is shown: `hardwareAddress_ofBytes`.
-/

namespace NodeConsole

open NodeConsole.Text

namespace Text

/-- Two small hexadecimal digits write a byte. -/
structure WritesByte (byte : UInt8) (pair : List Char) : Prop where
  length : pair.length = 2
  small : ∀ digit ∈ pair, digit ∈ "0123456789abcdef".toList
  value : hexNumber? pair = some byte.toNat

theorem writesByte_hexDigits (byte : UInt8) : WritesByte byte (hexDigits 2 byte.toNat) where
  length := length_hexDigits 2 byte.toNat
  small _ := isSmall_of_mem_hexDigits
  value := hexNumber?_hexDigits byte.toNat_lt

theorem WritesByte.not_mem_colon {byte : UInt8} {pair : List Char} (writes : WritesByte byte pair) :
    ':' ∉ pair :=
  fun member => absurd (writes.small ':' member) (by decide)

end Text

namespace Wire

open Reading

/-- The bytes that pairs of digits between colons write. -/
def hardwareBytes? (text : String) : Option (List UInt8) :=
  (splitOn ':' text.toList).mapM fun pair => (hexNumber? pair).map UInt8.ofNat

variable {bytes : List UInt8}

/-- The pairs of digits in a shown address are those of its bytes. -/
theorem splitOn_hardwareText (filled : bytes ≠ []) :
    splitOn ':' (hardwareText bytes).toList = bytes.map fun byte => hexDigits 2 byte.toNat := by
  have clean : ∀ pair ∈ bytes.map fun byte => String.ofList (hexDigits 2 byte.toNat),
      ':' ∉ pair.toList := by
    refine List.forall_mem_map.mpr fun byte _ => ?_
    rw [String.toList_ofList]
    exact (writesByte_hexDigits byte).not_mem_colon
  have pairs := splitOn_joinWith (mt List.map_eq_nil_iff.mp filled) clean
  rw [List.map_map] at pairs
  rw [hardwareText, pairs]
  exact List.map_congr_left fun byte _ => String.toList_ofList

example : hardwareText [0, 26, 255, 7, 160, 10] = "00:1a:ff:07:a0:0a" := by decide

/-- The bytes of a shown address are read back. -/
theorem hardwareBytes?_hardwareText (filled : bytes ≠ []) :
    hardwareBytes? (hardwareText bytes) = some bytes := by
  rw [hardwareBytes?, splitOn_hardwareText filled]
  clear filled
  induction bytes with
  | nil => rfl
  | cons byte rest inductionHypothesis =>
    rw [List.map_cons, List.mapM_cons, inductionHypothesis, (writesByte_hexDigits byte).value]
    simp

/-- Bytes are an address when there are six or eight of them. -/
theorem hardwareAddress_eq (bytes : List UInt8) :
    hardwareAddress (.ofBytes bytes) =
      if bytes = [] then pure none
      else if bytes.length = 6 ∨ bytes.length = 8 then pure (some (hardwareText bytes))
      else .refuse (.macLength bytes.length) := by
  unfold hardwareAddress
  rw [Value.isTruthy_ofBytes]
  cases bytes with
  | nil => rfl
  | cons byte rest =>
    rw [if_neg (List.cons_ne_nil byte rest), Value.ofBytes]
    dsimp only
    rw [String.toList_ofList, Base64.decode_encode]
    rfl

/-- Bytes that are read as an address are shown by it. -/
theorem shown_of_hardwareAddress {text : String}
    (read : hardwareAddress (.ofBytes bytes) = pure (some text)) :
    bytes ≠ [] ∧ hardwareText bytes = text := by
  have outcome := congrArg Reading.outcome read
  rw [hardwareAddress_eq] at outcome
  split at outcome
  · cases outcome
  · next filled =>
    split at outcome
    · exact ⟨filled, Option.some.inj (Except.ok.inj outcome)⟩
    · cases outcome

/-- No bytes are read as no address; bytes of another number than six or eight are refused for their
number; and six or eight are shown as pairs of small hexadecimal digits between colons, from which
they are read back. So other bytes are shown differently. -/
theorem hardwareAddress_ofBytes (bytes : List UInt8) :
    (bytes = [] → hardwareAddress (.ofBytes bytes) = pure none) ∧
      (bytes.length ∉ [0, 6, 8] →
        hardwareAddress (.ofBytes bytes) = .refuse (.macLength bytes.length)) ∧
      (bytes.length ∈ [6, 8] → ∃ text,
        hardwareAddress (.ofBytes bytes) = pure (some text) ∧
          List.Forall₂ WritesByte bytes (splitOn ':' text.toList) ∧
          hardwareBytes? text = some bytes ∧
          ∀ others : List UInt8,
            hardwareAddress (.ofBytes others) = pure (some text) → others = bytes) := by
  simp only [List.mem_cons, List.not_mem_nil, or_false, not_or, List.length_eq_zero_iff]
  refine ⟨fun empty => ?_, fun ⟨filled, notSix, notEight⟩ => ?_, fun known => ?_⟩
  · rw [hardwareAddress_eq, if_pos empty]
  · rw [hardwareAddress_eq, if_neg filled, if_neg (not_or.mpr ⟨notSix, notEight⟩)]
  · have filled : bytes ≠ [] := by
      rintro rfl
      simp at known
    refine ⟨hardwareText bytes, ?_, ?_, hardwareBytes?_hardwareText filled, fun others same => ?_⟩
    · rw [hardwareAddress_eq, if_neg filled, if_pos known]
    · rw [splitOn_hardwareText filled, List.forall₂_map_right_iff, List.forall₂_same]
      exact fun byte _ => writesByte_hexDigits byte
    · obtain ⟨othersFilled, shown⟩ := shown_of_hardwareAddress same
      have readBack := hardwareBytes?_hardwareText othersFilled
      rw [shown, hardwareBytes?_hardwareText filled] at readBack
      exact (Option.some.inj readBack).symm

/-- Six bytes are shown so that they can be read back, and three are refused. -/
theorem hardwareAddress_ofBytes_six :
    let bytes : List UInt8 := [0, 26, 255, 7, 160, 10]
    (∃ text, hardwareAddress (.ofBytes bytes) = pure (some text) ∧
      hardwareBytes? text = some bytes) ∧
      hardwareAddress (.ofBytes [1, 2, 3]) = .refuse (.macLength 3) := by
  obtain ⟨-, -, shown⟩ := hardwareAddress_ofBytes [0, 26, 255, 7, 160, 10]
  obtain ⟨text, read, -, readBack, -⟩ := shown (by decide)
  exact ⟨⟨text, read, readBack⟩, (hardwareAddress_ofBytes [1, 2, 3]).2.1 (by decide)⟩

end Wire

end NodeConsole
