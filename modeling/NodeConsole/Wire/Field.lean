import NodeConsole.Base64
import NodeConsole.Net.Network
import NodeConsole.Time.Reading
import NodeConsole.Uuid
import NodeConsole.Wire.Code
import NodeConsole.Wire.Fault

/-!
# Fields of messages

Readers for the kinds of field a status message has. A field that is null counts as absent, and an
absent field has the zero value of its kind.
-/

namespace NodeConsole.Wire

open NodeConsole.Text NodeConsole.Net NodeConsole.Time

/-- The fields of an object. -/
def objectFields (what : String) : Value → Reading Fields
  | .object fields => pure fields
  | found => .refuse (.notObject what found)

/-- A field, null if it is absent. -/
def fieldOrNull (fields : Fields) (name : String) : Value :=
  (fields.get? name).getD .null

/-- A text; empty if absent. -/
def textField (fields : Fields) (name : String) : Reading String :=
  match fieldOrNull fields name with
  | .null => pure ""
  | .text found => pure found
  | found => .refuse (.notText name found)

/-- A flag: anything that counts as true; false if absent. -/
def flagField (fields : Fields) (name : String) : Bool :=
  (fieldOrNull fields name).isTruthy

/-- An integer; zero if absent. -/
def integerField (fields : Fields) (name : String) : Reading Int :=
  match fieldOrNull fields name with
  | .null => pure 0
  | .integer found => pure found
  | found => .refuse (.notInteger name found)

/-- A timestamp that has been read. -/
def instantOf : Timestamp → Reading (Option Instant)
  | .none => pure none
  | .at instant => pure (some instant)
  | .outOfRange => .fail .timeOutOfRange

/-- A time; none if absent or not readable as one. -/
def timeField (fields : Fields) (name : String) : Reading (Option Instant) :=
  match fieldOrNull fields name with
  | .null => pure none
  | .text found => instantOf (timestamp found.toList)
  | found => .refuse (.notTimestamp name found)

/-- A coded state; null counts as zero. A number without a name is remarked. -/
def codedState (State : Type) [Codes State] (found : Value) : Reading (Coded State) :=
  match found with
  | .null => numbered 0
  | .integer code => numbered code
  | found => .refuse (.notInteger (Codes.setName State) found)
where
  /-- The state of a number. -/
  numbered (code : Int) : Reading (Coded State) :=
    match Coded.member? code with
    | some state => pure (.known state)
    | none => do
      .remark (.unknownCode (Codes.setName State) code)
      pure (.other code)

/-- An identifier. -/
def uuidOf (found : Value) (field : String) : Reading Uuid :=
  match Uuid.ofText? found.display.toList with
  | some uuid => pure uuid
  | none => .refuse (.invalidUuid field found)

/-- An address. -/
def addressOf (field : String) (found : Value) : Reading Address :=
  match Address.ofText? found.display.toList with
  | some address => pure address
  | none => .refuse (.invalidAddress field found)

/-- A list of addresses, if present. -/
def addressListField (fields : Fields) (name : String) : Reading (Option (List Address)) :=
  match fieldOrNull fields name with
  | .null => pure none
  | .list found => do
    let addresses ← Reading.each (addressOf name) found
    pure (some addresses)
  | found => .refuse (.notAddressList name found)

/-- Bytes as pairs of hexadecimal digits between colons. -/
def hardwareText (bytes : List UInt8) : String :=
  joinWith ":" (bytes.map fun byte => String.ofList (hexDigits 2 byte.toNat))

/-- A hardware address: six or eight bytes in base 64; none if empty. -/
def hardwareAddress (found : Value) : Reading (Option String) :=
  if !found.isTruthy then pure none
  else
    match found with
    | .text text =>
      match Base64.decode text.toList with
      | none => .refuse (.invalidMac found)
      | some bytes =>
        if bytes.length = 6 ∨ bytes.length = 8 then pure (some (hardwareText bytes))
        else .refuse (.macLength bytes.length)
    | _ => .fail .bytesNotText

/-- How many bits of a byte are set. -/
def bitCount (byte : UInt8) : Nat :=
  ((List.range 8).filter fun place => byte.toNat.testBit place).length

/-- The address of a subnet: a text, or the number of the address. -/
def subnetAddress? : Value → Option Address
  | .integer number => Address.ofInt? number
  | .bool flag => Address.ofInt? (if flag then 1 else 0)
  | found => Address.ofText? found.display.toList

/-- A subnet: an address and a mask in base 64, of which only the number of ones counts. None if
either is empty, or if the mask has more ones than the address has bits, which is remarked. -/
def subnet (found : Value) : Reading (Option Network) :=
  match found with
  | .null => pure none
  | found => do
    let fields ← objectFields "Subnet" found
    let start := fieldOrNull fields "IP"
    let mask := fieldOrNull fields "Mask"
    if !start.isTruthy || !mask.isTruthy then pure none
    else
      let text ← match mask with
        | .text text => pure text
        | _ => .fail .bytesNotText
      let bytes ← match Base64.decode text.toList with
        | some bytes => pure bytes
        | none => .refuse (.invalidMask mask)
      let length := total (bytes.map bitCount)
      let address ← match subnetAddress? start with
        | some address => pure address
        | none => .refuse (.invalidSubnet start)
      match Network.of? address length with
      | some network => pure (some network)
      | none => do
        .remark (.maskTooLong length address)
        pure none

end NodeConsole.Wire
