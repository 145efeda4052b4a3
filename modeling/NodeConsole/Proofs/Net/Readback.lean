import NodeConsole.Net.Network
import NodeConsole.Proofs.Text.Digits
import NodeConsole.Proofs.Text.Parts

/-!
# Reading back what is written

The dotted text of a version 4 address is read as that address, and with the length of a network
behind a slash as an interface address: `ofText?_text` and `Interface.ofText?_text`. If the address
lies in a network, that interface address has this very network: `Interface.network_of_contains`.
-/

namespace NodeConsole

open NodeConsole.Text

namespace Net

namespace Address

/-! ## Dotted texts -/

/-- A digit or a point, as dotted texts have them. -/
def IsDotted (c : Char) : Prop :=
  c.isDigit = true ∨ c = '.'

/-- The four numbers of a dotted text. -/
def octets (bits : BitVec 32) : List Nat :=
  let value := bits.toNat
  [value / 16777216, value / 65536 % 256, value / 256 % 256, value % 256]

/-- The parts of a dotted text are the four numbers. -/
theorem splitOn_dottedText (bits : BitVec 32) :
    splitOn '.' (dottedText bits).toList =
      (octets bits).map fun number => (decimalNat number).toList := by
  have filled : (octets bits).map decimalNat ≠ [] := by simp [octets]
  have clean : ∀ part ∈ (octets bits).map decimalNat, '.' ∉ part.toList :=
    List.forall_mem_map.mpr fun number _ => not_mem_decimalNat (by decide) number
  have parts := splitOn_joinWith filled clean
  rw [List.map_map] at parts
  exact parts

theorem isDotted_of_mem {bits : BitVec 32} {c : Char} (member : c ∈ (v4 bits).text.toList) :
    IsDotted c := by
  obtain point | ⟨part, isPart, digit⟩ := mem_joinWith member
  · exact .inr (List.mem_singleton.mp point)
  · obtain ⟨number, -, rfl⟩ := List.mem_map.mp isPart
    exact .inl (isDigit_of_mem_decimalNat digit)

theorem IsDotted.isBlank_eq_false {c : Char} (dotted : IsDotted c) : isBlank c = false := by
  obtain digit | rfl := dotted
  · exact isBlank_of_isDigit digit
  · decide

theorem octet?_decimalNat {number : Nat} (small : number < 256) :
    octet? (decimalNat number).toList = some number := by
  have all : ∀ number < 256, octet? (Nat.toDigits 10 number) = some number := by decide +kernel
  rw [decimalNat, String.toList_ofList]
  exact all number small

/-- A dotted text is read back. -/
theorem dotted?_dottedText (bits : BitVec 32) : dotted? (dottedText bits).toList = some bits := by
  have below : bits.toNat < 4294967296 := bits.isLt
  unfold dotted?
  rw [splitOn_dottedText]
  simp only [octets, List.map_cons, List.map_nil, Option.bind_eq_bind,
    octet?_decimalNat (show bits.toNat / 16777216 < 256 by omega),
    octet?_decimalNat (show bits.toNat / 65536 % 256 < 256 by omega),
    octet?_decimalNat (show bits.toNat / 256 % 256 < 256 by omega),
    octet?_decimalNat (show bits.toNat % 256 < 256 by omega), Option.bind_some]
  have value : ((bits.toNat / 16777216 * 256 + bits.toNat / 65536 % 256) * 256 +
      bits.toNat / 256 % 256) * 256 + bits.toNat % 256 = bits.toNat := by omega
  rw [value, BitVec.ofNat_toNat, BitVec.setWidth_eq]
  rfl

/-- A written address of version 4 is read back. -/
theorem ofText?_text (bits : BitVec 32) : ofText? (v4 bits).text.toList = some (v4 bits) := by
  rw [ofText?, v4?, text, dotted?_dottedText]
  rfl

theorem strip_text (bits : BitVec 32) : strip (v4 bits).text.toList = (v4 bits).text.toList :=
  trim_of_keeps fun _ member => (isDotted_of_mem member).isBlank_eq_false

/-- A written address of version 4 is not empty. -/
theorem text_ne_nil (bits : BitVec 32) : (v4 bits).text.toList ≠ [] := by
  have unread : ofText? [] = none := by decide
  intro empty
  have read := ofText?_text bits
  rw [empty, unread] at read
  contradiction

end Address

/-! ## Interface addresses -/

/-- Networks as they are made: the part that the addresses share is no longer than an address. -/
def Network.IsMade (network : Network) : Prop :=
  ∃ address length, Network.of? address length = some network

/-- The part that the addresses of a network share is no longer than an address. -/
theorem Network.IsMade.length_le {network : Network} (made : network.IsMade) :
    network.length ≤ network.address.width := by
  obtain ⟨address, length, made⟩ := made
  unfold Network.of? at made
  split at made
  · next fits =>
    obtain rfl := Option.some.inj made
    cases address <;> exact fits
  · contradiction

theorem Network.IsMade.length_le_of_contains {network : Network} (made : network.IsMade)
    {bits : BitVec 32} (inside : network.contains (.v4 bits) = true) : network.length ≤ 32 := by
  have fits := made.length_le
  obtain ⟨start | ⟨start, scope⟩, length⟩ := network
  · exact fits
  · simp [Network.contains] at inside

namespace Interface

theorem v4Length?_decimalNat {length : Nat} (fits : length ≤ 32) :
    v4Length? (decimalNat length).toList = some length := by
  have all : ∀ length < 33, length? 32 (Nat.toDigits 10 length) = some length := by decide +kernel
  rw [v4Length?, decimalNat, String.toList_ofList, all length (by omega)]
  rfl

/-- A written interface address of version 4 is read back. -/
theorem ofText?_text (bits : BitVec 32) {length : Nat} (fits : length ≤ 32) :
    ofText? (text ⟨.v4 bits, length⟩).toList = some ⟨.v4 bits, length⟩ := by
  have noSlash : '/' ∉ (Address.v4 bits).text.toList := by
    intro member
    obtain digit | point := Address.isDotted_of_mem member
    · exact absurd digit (by decide)
    · exact absurd point (by decide)
  have split : splitOn '/' (text ⟨.v4 bits, length⟩).toList =
      [(Address.v4 bits).text.toList, (decimalNat length).toList] := by
    have clean : ∀ part ∈ [(Address.v4 bits).text, decimalNat length], '/' ∉ part.toList := by
      intro part member
      obtain rfl | last := List.mem_cons.mp member
      · exact noSlash
      · obtain rfl := List.mem_singleton.mp last
        exact not_mem_decimalNat (by decide) length
    have parts := splitOn_joinWith (List.cons_ne_nil _ _) clean
    exact parts
  have address : Address.v4? (Address.v4 bits).text.toList = some (.v4 bits) := by
    rw [Address.v4?, Address.text, Address.dotted?_dottedText]
    rfl
  unfold ofText? withLength?
  rw [split]
  simp only [address, v4Length?_decimalNat fits, Option.bind_eq_bind, Option.bind_some]
  rfl

/-- There are no blanks around a written interface address of version 4. -/
theorem strip_text (bits : BitVec 32) (length : Nat) :
    strip (text ⟨.v4 bits, length⟩).toList = (text ⟨.v4 bits, length⟩).toList := by
  refine trim_of_keeps fun c member => ?_
  simp only [text, String.toList_append, List.mem_append, String.reduceToList,
    List.mem_singleton] at member
  obtain (dotted | rfl) | digit := member
  · exact (Address.isDotted_of_mem dotted).isBlank_eq_false
  · decide
  · exact Address.IsDotted.isBlank_eq_false (.inl (isDigit_of_mem_decimalNat digit))

/-- An address in a network, with the length of that network, has that network. -/
theorem network_of_contains {network : Network} {bits : BitVec 32}
    (inside : network.contains (.v4 bits) = true) :
    Interface.network ⟨.v4 bits, network.length⟩ = network := by
  obtain ⟨start | ⟨start, scope⟩, length⟩ := network
  · have same : bits &&& ones 32 length = start := by simpa [Network.contains] using inside
    rw [← same]
    rfl
  · simp [Network.contains] at inside

end Interface

end Net

end NodeConsole
