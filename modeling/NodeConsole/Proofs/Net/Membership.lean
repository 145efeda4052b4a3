import NodeConsole.Net.Network

/-!
# Membership in networks

An address lies in the network of an interface address exactly when both are of one version and
agree in the bits that the length counts: `contains_network_iff`. An interface address that is read
from a text has no more such bits than the address has: `length_le_width`.
-/

namespace NodeConsole.Net

/-- Of a vector of ones, the first `length` bits are set. -/
theorem getMsbD_ones {width length : Nat} (fits : length ≤ width) (place : Nat) :
    (ones width length).getMsbD place = decide (place < length) := by
  rw [ones, BitVec.getMsbD_shiftLeft, BitVec.getMsbD_allOnes]
  exact decide_eq_decide.mpr (by omega)

/-- The first `length` bits of two vectors agree exactly when the vectors agree after all other bits
have been cleared. -/
theorem and_ones_eq_iff {width length : Nat} (fits : length ≤ width) (left right : BitVec width) :
    left &&& ones width length = right &&& ones width length ↔
      ∀ place < length, left.getMsbD place = right.getMsbD place := by
  have counted := getMsbD_ones fits
  constructor
  · intro same place inside
    have samePlace := congrArg (fun bits => bits.getMsbD place) same
    simpa [BitVec.getMsbD_and, counted, inside] using samePlace
  · intro agree
    refine BitVec.eq_of_getMsbD_eq fun place _ => ?_
    rw [BitVec.getMsbD_and, BitVec.getMsbD_and, counted]
    by_cases inside : place < length
    · rw [agree place inside]
    · simp [inside]

namespace Address

/-- The bit of an address at a place, counted from the first. -/
def bit : Address → Nat → Bool
  | v4 bits, place => bits.getMsbD place
  | v6 bits _, place => bits.getMsbD place

/-- Two addresses are of one version and agree in their first `length` bits. -/
def AgreesIn (length : Nat) (left right : Address) : Prop :=
  left.isV4 = right.isV4 ∧ ∀ place < length, left.bit place = right.bit place

end Address

namespace Interface

/-- The network of an interface address has the addresses that agree with it in the bits that its
length counts. -/
theorem contains_network_iff {interface : Interface}
    (fits : interface.length ≤ interface.address.width) (address : Address) :
    interface.network.contains address = true ↔
      interface.address.AgreesIn interface.length address := by
  rcases interface with ⟨start | ⟨start, scope⟩, length⟩ <;> rcases address with bits | ⟨bits, _⟩
  · have fits : length ≤ 32 := fits
    simpa [network, Network.contains, Address.masked, Address.AgreesIn, Address.isV4, Address.bit,
      eq_comm] using and_ones_eq_iff fits bits start
  · simp [network, Network.contains, Address.masked, Address.AgreesIn, Address.isV4]
  · simp [network, Network.contains, Address.masked, Address.AgreesIn, Address.isV4]
  · have fits : length ≤ 128 := fits
    simpa [network, Network.contains, Address.masked, Address.AgreesIn, Address.isV4, Address.bit,
      eq_comm] using and_ones_eq_iff fits bits start

/-! ## Lengths that are read -/

/-- Digits write a length within the width. -/
theorem length?_le {width : Nat} {text : List Char} {length : Nat}
    (read : length? width text = some length) : length ≤ width := by
  obtain ⟨-, -, read⟩ := Option.bind_eq_some_iff.mp read
  obtain ⟨_, guarded, made⟩ := Option.bind_eq_some_iff.mp read
  obtain rfl := Option.some.inj made
  unfold guard at guarded
  split at guarded
  · assumption
  · contradiction

theorem maskLength?_le {mask : BitVec 32} {length : Nat}
    (counted : maskLength? mask = some length) : length ≤ 32 := by
  have inRange := List.mem_range.mp (List.mem_of_find?_eq_some counted)
  omega

/-- The length of a version 4 mask is within the width. -/
theorem v4Length?_le {text : List Char} {length : Nat} (read : v4Length? text = some length) :
    length ≤ 32 := by
  obtain digits | ⟨-, dotted⟩ := Option.or_eq_some_iff.mp read
  · exact length?_le digits
  · obtain ⟨mask, -, counted⟩ := Option.bind_eq_some_iff.mp dotted
    obtain plain | ⟨-, complement⟩ := Option.or_eq_some_iff.mp counted
    · exact maskLength?_le plain
    · exact maskLength?_le complement

/-- An interface address of one version counts bits within the width, if its lengths are. -/
theorem withLength?_le {address? : List Char → Option Address} {length? : List Char → Option Nat}
    {width : Nat} {text : List Char} {interface : Interface}
    (version : ∀ text address, address? text = some address → address.width = width)
    (within : ∀ text length, length? text = some length → length ≤ width)
    (read : withLength? address? length? text = some interface) :
    interface.length ≤ interface.address.width := by
  unfold withLength? at read
  split at read
  · obtain ⟨address, -, made⟩ := Option.bind_eq_some_iff.mp read
    obtain rfl := Option.some.inj made
    exact Nat.le_refl _
  · next addressText lengthText _ =>
    obtain ⟨address, addressRead, rest⟩ := Option.bind_eq_some_iff.mp read
    obtain ⟨length, lengthRead, made⟩ := Option.bind_eq_some_iff.mp rest
    obtain rfl := Option.some.inj made
    exact (version _ _ addressRead).symm ▸ within _ _ lengthRead
  · simp at read

theorem width_of_v4? (text : List Char) (address : Address)
    (read : Address.v4? text = some address) : address.width = 32 := by
  obtain ⟨bits, -, rfl⟩ := Option.map_eq_some_iff.mp read
  rfl

/-- A text of groups is read as an address of version 6. -/
theorem width_of_v6? (text : List Char) (address : Address)
    (read : Address.v6? text = some address) : address.width = 128 := by
  unfold Address.v6? at read
  obtain ⟨-, -, read⟩ := Option.bind_eq_some_iff.mp read
  obtain ⟨bits, -, read⟩ := Option.bind_eq_some_iff.mp read
  split at read
  · obtain rfl := Option.some.inj read
    rfl
  · obtain ⟨-, -, made⟩ := Option.bind_eq_some_iff.mp read
    obtain rfl := Option.some.inj made
    rfl

/-- An interface address that is read from a text counts no more bits than the address has. -/
theorem length_le_width {text : List Char} {interface : Interface}
    (read : ofText? text = some interface) : interface.length ≤ interface.address.width := by
  obtain v4 | ⟨-, v6⟩ := Option.or_eq_some_iff.mp read
  · exact withLength?_le width_of_v4? (fun _ _ => v4Length?_le) v4
  · exact withLength?_le width_of_v6? (fun _ _ => length?_le) v6

end Interface

end NodeConsole.Net
