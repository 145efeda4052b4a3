import NodeConsole.Net.Address

/-!
# Networks and interface addresses

A network is the set of the addresses that agree in their first bits. An interface address is an
address together with the length of its network's common part.
-/

namespace NodeConsole.Net

open NodeConsole.Text

/-- A vector whose first `length` bits are ones. -/
def ones (width length : Nat) : BitVec width :=
  BitVec.allOnes width <<< (width - length)

namespace Address

/-- An address with all bits after the first `length` cleared. A scope stays only if nothing had to
be cleared. -/
def masked (length : Nat) : Address → Address
  | v4 bits => v4 (bits &&& ones 32 length)
  | v6 bits scope =>
    let kept := bits &&& ones 128 length
    v6 kept (if kept = bits then scope else none)

end Address

/-- The addresses that agree with `address` in their first `length` bits. -/
structure Network where
  address : Address
  length : Nat
  deriving DecidableEq, Repr

namespace Network

/-- The network of an address; the common part cannot be longer than the address. -/
def of? (address : Address) (length : Nat) : Option Network :=
  if length ≤ address.width then some ⟨address.masked length, length⟩ else none

/-- Membership: the same version and the same first bits. A scope does not count. -/
def contains (network : Network) (address : Address) : Bool :=
  match network.address, address with
  | .v4 start, .v4 bits => bits &&& ones 32 network.length = start
  | .v6 start _, .v6 bits _ => bits &&& ones 128 network.length = start
  | _, _ => false

/-- The text of a network. -/
def text (network : Network) : String :=
  network.address.text ++ "/" ++ decimalNat network.length

end Network

/-- An address with the length of its network's common part. -/
structure Interface where
  address : Address
  length : Nat
  deriving DecidableEq, Repr

namespace Interface

/-- The network of an interface address. -/
def network (interface : Interface) : Network :=
  ⟨interface.address.masked interface.length, interface.length⟩

/-- The text of an interface address. -/
def text (interface : Interface) : String :=
  interface.address.text ++ "/" ++ decimalNat interface.length

/-- A length in decimal digits, within a width. -/
def length? (width : Nat) (text : List Char) : Option Nat := do
  guard (text ≠ [] ∧ text.all isAsciiDigit ∧ text.length ≤ decimalDigitLimit)
  let value := ofDigits 10 (text.filterMap decimalDigit?)
  guard (value ≤ width)
  pure value

/-- The length of a mask whose ones all come first. -/
def maskLength? (mask : BitVec 32) : Option Nat :=
  (List.range 33).find? fun length => ones 32 length = mask

/-- The length of a version 4 mask: digits, a dotted mask, or the complement of one. -/
def v4Length? (text : List Char) : Option Nat :=
  (length? 32 text).or do
    let mask ← Address.dotted? text
    (maskLength? mask).or (maskLength? (~~~mask))

/-- An address of one version, whose length is read by `length?`. -/
def withLength? (address? : List Char → Option Address) (length? : List Char → Option Nat)
    (text : List Char) : Option Interface := do
  match splitOn '/' text with
  | [address] =>
    let address ← address? address
    pure ⟨address, address.width⟩
  | [address, length] =>
    let address ← address? address
    let length ← length? length
    pure ⟨address, length⟩
  | _ => none

/-- Reads an interface address; without a length, the network holds the address alone. -/
def ofText? (text : List Char) : Option Interface :=
  (withLength? Address.v4? v4Length? text).or (withLength? Address.v6? (length? 128) text)

end Interface

/-!
## Port configurations

What an operator asks for: an address by DHCP, or a given one.
-/

/-- The configuration asked for a port. -/
structure PortConfig where
  dhcp : Bool
  address : Option Interface := none
  gateway : Option Address := none
  dnsServers : List Address := []
  deriving DecidableEq, Repr

/-- The text of a configuration. -/
def PortConfig.describe (config : PortConfig) : String :=
  if config.dhcp then "DHCP"
  else
    let address := (config.address.map Interface.text).getD "None"
    let gateway := (config.gateway.map fun gateway => ["gw " ++ gateway.text]).getD []
    let dns := if config.dnsServers.isEmpty then []
      else ["dns " ++ joinWith "," (config.dnsServers.map Address.text)]
    joinWith " " (("static " ++ address) :: gateway ++ dns)

end NodeConsole.Net
