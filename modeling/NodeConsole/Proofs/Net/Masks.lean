import Mathlib.Algebra.Group.Nat.Defs
import Mathlib.Data.List.GetD
import NodeConsole.Proofs.Net.Groups
import NodeConsole.Proofs.Net.Membership

/-!
# Masks

A mask is a string of bytes, of which a network keeps only how many bits are set. Where those bits
come first and the mask is as long as an address, nothing is lost: the members of the network are
the addresses that agree in every byte once it has been taken together with that of the mask,
`contains_iff_and`.
-/

namespace NodeConsole.Net

/-! ## Bits of bytes -/

/-- The bit of a string of bytes at a place, counted from the first bit of the first byte. -/
def bitAt (bytes : List UInt8) (place : Nat) : Bool :=
  (bytes.getD (place / 8) 0).toNat.testBit (7 - place % 8)

/-- How many bits of a string of bytes are set. -/
def setBits (bytes : List UInt8) : Nat :=
  (List.range (8 * bytes.length)).countP (bitAt bytes)

/-- The bits that are set come before all others. -/
def IsContiguous (mask : List UInt8) : Prop :=
  ∃ count, ∀ place < 8 * mask.length, bitAt mask place = decide (place < count)

variable {left right mask : List UInt8} {place : Nat}

/-- Of the numbers below a bound, those below another are as many as the smaller of both. -/
theorem countP_range_lt (bound count : Nat) :
    (List.range bound).countP (fun place => decide (place < count)) = min bound count := by
  induction bound with
  | zero => simp
  | succ bound inductionHypothesis =>
    rw [List.range_succ, List.countP_append, inductionHypothesis, List.countP_singleton]
    split <;> simp_all <;> omega

/-- The bits that are set in a contiguous mask are the first ones. -/
theorem IsContiguous.bitAt_eq (contiguous : IsContiguous mask) (inside : place < 8 * mask.length) :
    bitAt mask place = decide (place < setBits mask) := by
  obtain ⟨count, bits⟩ := contiguous
  have counted : setBits mask = min (8 * mask.length) count := by
    rw [setBits, ← countP_range_lt]
    refine List.countP_congr fun place member => ?_
    rw [bits place (List.mem_range.mp member)]
  rw [bits place inside, counted]
  exact decide_eq_decide.mpr (by omega)

/-- The bits of two bytes that are taken together. -/
theorem bitAt_zipWith_and (insideLeft : place < 8 * left.length)
    (insideRight : place < 8 * right.length) :
    bitAt (List.zipWith (· &&& ·) left right) place = (bitAt left place && bitAt right place) := by
  have inLeft : place / 8 < left.length := by omega
  have inRight : place / 8 < right.length := by omega
  have inBoth : place / 8 < (List.zipWith (· &&& ·) left right).length := by
    rw [List.length_zipWith]
    omega
  rw [bitAt, bitAt, bitAt, List.getD_eq_getElem _ _ inBoth, List.getD_eq_getElem _ _ inLeft,
    List.getD_eq_getElem _ _ inRight, List.getElem_zipWith, UInt8.toNat_and, Nat.testBit_and]

/-- Strings of bytes of one length are equal when their bits are. -/
theorem eq_of_bitAt (lengths : left.length = right.length)
    (same : ∀ place < 8 * left.length, bitAt left place = bitAt right place) : left = right := by
  refine List.ext_getElem lengths fun index inLeft inRight => ?_
  refine UInt8.toNat_inj.mp (Nat.eq_of_testBit_eq fun bit => ?_)
  by_cases low : bit < 8
  · have samePlace := same (8 * index + (7 - bit)) (by omega)
    have byte : (8 * index + (7 - bit)) / 8 = index := by omega
    have offset : 7 - (8 * index + (7 - bit)) % 8 = bit := by omega
    rw [bitAt, bitAt, byte, offset] at samePlace
    simpa [List.getD, inLeft, inRight] using samePlace
  · have high (value : UInt8) : value.toNat.testBit bit = false := by
      refine Nat.testBit_lt_two_pow (Nat.lt_of_lt_of_le value.toNat_lt ?_)
      exact Nat.pow_le_pow_right (by decide) (Nat.le_of_not_lt low)
    rw [high, high]

/-! ## Addresses and masks -/

namespace Address

/-- The bytes of a number, most significant first. -/
def bytesOf (count value : Nat) : List UInt8 :=
  (List.range count).map fun place => UInt8.ofNat (value / 256 ^ (count - 1 - place))

/-- The bytes of an address: four or sixteen of them. -/
def bytes : Address → List UInt8
  | v4 bits => bytesOf 4 bits.toNat
  | v6 bits _ => bytesOf 16 bits.toNat

/-- An address taken together with a mask, byte by byte. -/
def and (address : Address) (mask : List UInt8) : List UInt8 :=
  List.zipWith (· &&& ·) address.bytes mask

@[simp]
theorem length_bytesOf (count value : Nat) : (bytesOf count value).length = count := by
  simp [bytesOf]

/-- The bits of the bytes of a number are its own. -/
theorem bitAt_bytesOf {count place : Nat} (inside : place < 8 * count) (value : Nat) :
    bitAt (bytesOf count value) place = value.testBit (8 * count - 1 - place) := by
  have inBytes : place / 8 < count := by omega
  have power : 256 ^ (count - 1 - place / 8) = 2 ^ (8 * (count - 1 - place / 8)) := by
    rw [Nat.pow_mul]
  have offset : 7 - place % 8 < 8 := by omega
  have byte : (bytesOf count value).getD (place / 8) 0 =
      UInt8.ofNat (value / 256 ^ (count - 1 - place / 8)) := by
    simp [bytesOf, List.getD, inBytes]
  rw [bitAt, byte, UInt8.toNat_ofNat', Nat.testBit_mod_two_pow, power, Nat.testBit_div_two_pow]
  simp only [offset, decide_true, Bool.true_and]
  congr 1
  omega

/-- The bytes of an address have its bits. -/
theorem bitAt_bytes {address : Address} {place : Nat} (inside : place < address.width) :
    bitAt address.bytes place = address.bit place := by
  cases address with
  | v4 bits =>
    have inside : place < 32 := inside
    rw [bytes, bitAt_bytesOf (by omega), bit, BitVec.getMsbD_eq_getLsbD]
    simp [inside, BitVec.getLsbD]
  | v6 bits scope =>
    have inside : place < 128 := inside
    rw [bytes, bitAt_bytesOf (by omega), bit, BitVec.getMsbD_eq_getLsbD]
    simp [inside, BitVec.getLsbD]

example : bytes (.v4 0xC0A80207#32) = [192, 168, 2, 7] := by decide

theorem width_eq (address : Address) : address.width = 8 * address.bytes.length := by
  cases address <;> simp [width, bytes]

theorem width_eq_of_isV4 {left right : Address} (version : left.isV4 = right.isV4) :
    left.width = right.width := by
  cases left <;> cases right <;> first | rfl | cases version

/-- Of the bits of an address, those after the first `length` are cleared. -/
theorem bit_masked {address : Address} {length : Nat} (fits : length ≤ address.width)
    (place : Nat) :
    (address.masked length).bit place = (address.bit place && decide (place < length)) := by
  cases address with
  | v4 bits => simp [masked, bit, getMsbD_ones (show length ≤ 32 from fits)]
  | v6 bits scope => simp [masked, bit, getMsbD_ones (show length ≤ 128 from fits)]

/-- Under a contiguous mask that is as long as an address, the bits after those that are set are
cleared. -/
theorem bitAt_and {address : Address} {mask : List UInt8} (contiguous : IsContiguous mask)
    (whole : 8 * mask.length = address.width) {place : Nat} (inside : place < address.width) :
    bitAt (address.and mask) place = (address.bit place && decide (place < setBits mask)) := by
  have bytes := width_eq address
  rw [and, bitAt_zipWith_and (by omega) (by omega), bitAt_bytes inside,
    contiguous.bitAt_eq (by omega)]

theorem length_and {address : Address} {mask : List UInt8}
    (whole : 8 * mask.length = address.width) :
    8 * (address.and mask).length = address.width := by
  have bytes := width_eq address
  rw [and, List.length_zipWith]
  omega

end Address

theorem setBits_le (mask : List UInt8) : setBits mask ≤ 8 * mask.length :=
  Nat.le_trans List.countP_le_length (Nat.le_of_eq List.length_range)

/-- Under a contiguous mask that is as long as an address, the network of the bits that are set has
the addresses that agree with that address once both are taken together with the mask. -/
theorem contains_iff_and {address : Address} {mask : List UInt8} (contiguous : IsContiguous mask)
    (whole : 8 * mask.length = address.width) (other : Address) :
    (Interface.network ⟨address, setBits mask⟩).contains other = true ↔
      other.isV4 = address.isV4 ∧ other.and mask = address.and mask := by
  have fits : setBits mask ≤ address.width := whole ▸ setBits_le mask
  rw [Interface.contains_network_iff fits, Address.AgreesIn, eq_comm (a := address.isV4)]
  refine and_congr_right fun version => ?_
  have width : other.width = address.width := Address.width_eq_of_isV4 version
  have wholeOther : 8 * mask.length = other.width := whole.trans width.symm
  have lengths := Address.length_and whole
  have lengthsOther := Address.length_and wholeOther
  constructor
  · intro agree
    refine eq_of_bitAt (by omega) fun place inside => ?_
    rw [Address.bitAt_and contiguous wholeOther (by omega),
      Address.bitAt_and contiguous whole (by omega)]
    by_cases kept : place < setBits mask
    · rw [agree place kept]
    · simp [kept]
  · intro same place kept
    have kept : place < setBits mask := kept
    have inside : place < address.width := Nat.lt_of_lt_of_le kept fits
    have here := Address.bitAt_and contiguous whole inside
    have there := Address.bitAt_and contiguous wholeOther (width ▸ inside)
    rw [same, here] at there
    simpa [kept] using there

end NodeConsole.Net
