import NodeConsole.Proofs.Base64
import NodeConsole.Proofs.Net.Masks
import NodeConsole.Proofs.Wire.Reading

/-!
# Subnets of masks

A subnet is the text of an address and a mask of any number of bytes. It is read as the network of
the address in which as many first bits count as the mask has set, or as none with a remark if the
address has fewer bits: `subnet_ofMask`. For a contiguous mask of the length of the address the
members are those that the mask itself tells.
-/

namespace NodeConsole

open NodeConsole.Net NodeConsole.Text

namespace Wire

variable {address : Address} {mask : List UInt8}

/-! ## Counting bits -/

theorem countP_bits (byte : UInt8) :
    (List.range 8).countP (fun place => byte.toNat.testBit (7 - place % 8)) = bitCount byte := by
  have all : ∀ value < 256, (List.range 8).countP (fun place => value.testBit (7 - place % 8)) =
      ((List.range 8).filter fun place => value.testBit place).length := by
    decide +kernel
  exact all byte.toNat byte.toNat_lt

/-- A byte adds its bits to those of the bytes after it. -/
theorem setBits_cons (byte : UInt8) (rest : List UInt8) :
    setBits (byte :: rest) = bitCount byte + setBits rest := by
  have split : 8 * (byte :: rest).length = 8 + 8 * rest.length := by
    rw [List.length_cons]
    omega
  have here : (List.range 8).countP (bitAt (byte :: rest)) = bitCount byte := by
    rw [← countP_bits]
    refine List.countP_congr fun place member => ?_
    have first : place / 8 = 0 := Nat.div_eq_of_lt (List.mem_range.mp member)
    rw [bitAt, first, List.getD_cons_zero]
  have after (place : Nat) : bitAt (byte :: rest) (8 + place) = bitAt rest place := by
    have next : (8 + place) / 8 = place / 8 + 1 := by omega
    have offset : (8 + place) % 8 = place % 8 := by omega
    rw [bitAt, bitAt, next, offset, List.getD_cons_succ]
  rw [setBits, split, List.range_add, List.countP_append, List.countP_map, here]
  exact congrArg (bitCount byte + ·) (List.countP_congr fun place _ => by rw [Function.comp, after])

/-- Counting byte by byte gives how many bits are set. -/
theorem total_bitCount (mask : List UInt8) : total (mask.map bitCount) = setBits mask := by
  induction mask with
  | nil => rfl
  | cons byte rest inductionHypothesis =>
    rw [setBits_cons, ← inductionHypothesis]
    rfl

/-! ## Reading subnets -/

/-- The value of a subnet: an address and a mask. -/
def subnetValue (address : Address) (mask : List UInt8) : Value :=
  .object [("IP", .text address.text), ("Mask", .ofBytes mask)]

/-- The network of an address in which the first `length` bits count: all bits after them are
cleared. -/
structure IsNetworkOf (address : Address) (length : Nat) (network : Network) : Prop where
  length_eq : network.length = length
  isV4_eq : network.address.isV4 = address.isV4
  unscoped : network.address.IsUnscoped
  bit_eq : ∀ place < address.width,
    network.address.bit place = (address.bit place && decide (place < length))

/-- A made network is that of the address. -/
theorem isNetworkOf_network {length : Nat} (unscoped : address.IsUnscoped)
    (fits : length ≤ address.width) :
    IsNetworkOf address length (Interface.network ⟨address, length⟩) where
  length_eq := rfl
  isV4_eq := by cases address <;> rfl
  unscoped := by
    cases address with
    | v4 bits => trivial
    | v6 bits scope =>
      obtain rfl : scope = none := unscoped
      exact ite_self none
  bit_eq := fun place _ => Address.bit_masked fits place

/-- The text of an address is not empty. -/
theorem isTruthy_text (unscoped : address.IsUnscoped) :
    (Value.text address.text).isTruthy = true := by
  refine decide_eq_true fun empty => ?_
  have read := Address.ofText?_text_of_unscoped unscoped
  rw [empty] at read
  have unread : Address.ofText? [] = none := by decide
  exact absurd (unread.symm.trans read) (Option.some_ne_none address).symm

/-- A subnet is read as the network of its address, unless that has fewer bits than the mask has
set. -/
theorem subnet_eq (unscoped : address.IsUnscoped) (filled : mask ≠ []) :
    subnet (subnetValue address mask) =
      if setBits mask ≤ address.width then
        pure (some (Interface.network ⟨address, setBits mask⟩))
      else ⟨[.maskTooLong (setBits mask) address], .ok none⟩ := by
  have start : fieldOrNull [("IP", .text address.text), ("Mask", .ofBytes mask)] "IP" =
      .text address.text := rfl
  have bytes : fieldOrNull [("IP", .text address.text), ("Mask", .ofBytes mask)] "Mask" =
      .ofBytes mask := rfl
  have someMask : (Value.ofBytes mask).isTruthy = true := by
    rw [Value.isTruthy_ofBytes]
    simpa using filled
  have read : subnetAddress? (.text address.text) = some address :=
    Address.ofText?_text_of_unscoped unscoped
  unfold subnet subnetValue
  simp only [objectFields, pure_bind, start, bytes, isTruthy_text unscoped, someMask, read,
    Bool.not_true, Bool.or_self, Bool.false_eq_true, ↓reduceIte]
  simp only [Value.ofBytes, String.toList_ofList, Base64.decode_encode, total_bitCount, Network.of?]
  by_cases fits : setBits mask ≤ address.width
  · rw [if_pos fits, if_pos fits]
    rfl
  · rw [if_neg fits, if_neg fits]
    rfl

/-- A mask with more bits set than the address has gives no network and one remark. Any other mask
gives, without a remark, the network of the address in which as many bits count as are set. The
address is a member of it; and if the mask is contiguous and as long as the address, the members are
all addresses of its version that agree with it once both are taken together with the mask. -/
theorem subnet_ofMask (unscoped : address.IsUnscoped) (filled : mask ≠ []) :
    (address.width < setBits mask →
      subnet (subnetValue address mask) = ⟨[.maskTooLong (setBits mask) address], .ok none⟩) ∧
    (setBits mask ≤ address.width → ∃ network,
      subnet (subnetValue address mask) = pure (some network) ∧
        IsNetworkOf address (setBits mask) network ∧
        network.contains address = true ∧
        (IsContiguous mask → 8 * mask.length = address.width →
          ∀ other, network.contains other = true ↔
            other.isV4 = address.isV4 ∧ other.and mask = address.and mask)) := by
  rw [subnet_eq unscoped filled]
  refine ⟨fun tooLong => if_neg (Nat.not_le.mpr tooLong), fun fits => ?_⟩
  have member : (Interface.network ⟨address, setBits mask⟩).contains address = true :=
    (Interface.contains_network_iff fits address).mpr ⟨rfl, fun _ _ => rfl⟩
  exact ⟨Interface.network ⟨address, setBits mask⟩, if_pos fits, isNetworkOf_network unscoped fits,
    member, contains_iff_and⟩

/-- A mask of three full bytes and an empty one gives a network with the addresses that share the
first three bytes, and sixteen full bytes are too many for an address of version 4. -/
theorem subnet_ofMask_threeBytes :
    let address : Address := .v4 0xC0A80207#32
    (∃ network, subnet (subnetValue address [255, 255, 255, 0]) = pure (some network) ∧
      network.length = 24 ∧ network.contains (.v4 0xC0A802FA#32) = true ∧
      network.contains (.v4 0xC0A80307#32) = false) ∧
    subnet (subnetValue address (List.replicate 16 255)) =
      ⟨[.maskTooLong 128 address], .ok none⟩ := by
  intro address
  have unscoped : address.IsUnscoped := trivial
  have bits : setBits [255, 255, 255, 0] = 24 := by decide +kernel
  have manyBits : setBits (List.replicate 16 255) = 128 := by decide +kernel
  have contiguous : IsContiguous [255, 255, 255, 0] := ⟨24, by decide +kernel⟩
  have someMask : ([255, 255, 255, 0] : List UInt8) ≠ [] := by decide
  have someMany : List.replicate 16 (255 : UInt8) ≠ [] := by decide
  obtain ⟨network, read, isNetwork, -, members⟩ :=
    (subnet_ofMask unscoped someMask).2 (by rw [bits]; decide)
  have members := members contiguous rfl
  refine ⟨⟨network, read, isNetwork.length_eq.trans bits, ?_, ?_⟩, ?_⟩
  · exact (members _).mpr (by decide +kernel)
  · exact Bool.eq_false_iff.mpr (mt (members _).mp (by decide +kernel))
  · have remarked := (subnet_ofMask unscoped someMany).1
    rw [manyBits] at remarked
    exact remarked (by decide)

end Wire

end NodeConsole
