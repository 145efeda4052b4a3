import NodeConsole.Net.Address
import NodeConsole.Value

/-!
# Refused messages

Why a status message is refused, and what is remarked about a message that is accepted.
-/

namespace NodeConsole.Wire

open NodeConsole.Text NodeConsole.Net

/-- Why a message is refused. -/
inductive Fault where
  | notInteger (what : String) (found : Value)
  | notObject (what : String) (found : Value)
  | notText (field : String) (found : Value)
  | notTimestamp (field : String) (found : Value)
  | notAddressList (field : String) (found : Value)
  | invalidUuid (field : String) (found : Value)
  | invalidAddress (field : String) (found : Value)
  | invalidMac (found : Value)
  | macLength (length : Nat)
  | invalidMask (found : Value)
  | invalidSubnet (found : Value)
  | missingAppUuid
  | missingDeviceUuid
  | appsNotList
  | addressesNotList
  | portsNotList
  | registersNotIntegers
  deriving Repr

/-- The text of a fault. -/
def Fault.message : Fault → String
  | notInteger what found => what ++ ": expected integer, got " ++ found.quoted
  | notObject what found => what ++ ": expected JSON object, got " ++ found.kindName
  | notText field found => field ++ ": expected string, got " ++ found.quoted
  | notTimestamp field found => field ++ ": expected timestamp string, got " ++ found.quoted
  | notAddressList field found => field ++ ": expected list, got " ++ found.quoted
  | invalidUuid field found => field ++ ": invalid UUID " ++ found.quoted
  | invalidAddress field found => field ++ ": invalid IP address " ++ found.quoted
  | invalidMac found => "MacAddr: invalid base64 " ++ found.quoted
  | macLength length => "MacAddr: invalid MAC address length " ++ decimalNat length
  | invalidMask found => "Subnet: invalid mask " ++ found.quoted
  | invalidSubnet found => "Subnet: invalid IP " ++ found.quoted
  | missingAppUuid => "AppInstanceStatus: missing UUIDandVersion.UUID"
  | missingDeviceUuid => "OnboardingStatus: missing DeviceUUID"
  | appsNotList => "AppsList: apps must be a list"
  | addressesNotList => "AddrInfoList: expected list"
  | portsNotList => "DeviceNetworkStatus: Ports must be a list"
  | registersNotIntegers => "MismatchingPCRs: expected list of integers"

/-- How reading a message fails: it is refused for a fault; or it holds what no reader of fields
expects: something other than text where bytes are written as text, a time that its zone moves out
of the calendar, no fields at all. -/
inductive Failure where
  | refused (fault : Fault)
  | bytesNotText
  | timeOutOfRange
  | noFields
  deriving Repr

/-- What is remarked about a message that is read all the same. -/
inductive Remark where
  | unknownCode (setName : String) (code : Int)
  | maskTooLong (length : Nat) (address : Address)
  deriving DecidableEq, Repr

/-- The text of a remark. -/
def Remark.message : Remark → String
  | unknownCode setName code => "unknown " ++ setName ++ " value " ++ decimal code
  | maskTooLong length address =>
    "Subnet: prefix /" ++ decimalNat length ++ " does not fit " ++ address.text ++ ", ignored"

/-- A result with the remarks made on the way to it. Remarks made before a failure are kept. -/
structure Reading (α : Type) where
  remarks : List Remark
  outcome : Except Failure α

namespace Reading

variable {α β : Type}

/-- A result without remarks. -/
protected def pure (result : α) : Reading α :=
  ⟨[], .ok result⟩

/-- Continues with a result; remarks follow one another. -/
protected def bind (first : Reading α) (next : α → Reading β) : Reading β :=
  match first.outcome with
  | .error failure => ⟨first.remarks, .error failure⟩
  | .ok result =>
    let second := next result
    ⟨first.remarks ++ second.remarks, second.outcome⟩

instance : Monad Reading where
  pure := Reading.pure
  bind := Reading.bind

/-- Ends reading for a fault. -/
def refuse (fault : Fault) : Reading α :=
  ⟨[], .error (.refused fault)⟩

/-- Ends reading. -/
def fail (failure : Failure) : Reading α :=
  ⟨[], .error failure⟩

/-- Makes a remark. -/
def remark (remark : Remark) : Reading Unit :=
  ⟨[remark], .ok ()⟩

/-- Reads the items of a list in order. -/
def each (read : α → Reading β) : List α → Reading (List β)
  | [] => Reading.pure []
  | item :: rest => do
    let first ← read item
    let others ← each read rest
    Reading.pure (first :: others)

end Reading

end NodeConsole.Wire
