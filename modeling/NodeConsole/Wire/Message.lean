import NodeConsole.Wire.Field

/-!
# Status messages

The messages that the services of a node publish, one type for each, and their readers. Fields that
a reader does not name have no effect.
-/

namespace NodeConsole.Wire

open NodeConsole.Net NodeConsole.Time

/-- An error as its sender describes it. There is none if the text is empty. -/
structure ErrorDescription where
  error : String := ""
  time : Option Instant := none
  severity : Coded Severity := .known .unspecified
  deriving DecidableEq, Repr

/-- There is an error. -/
def ErrorDescription.isError (description : ErrorDescription) : Bool :=
  description.error ≠ ""

/-- The error among the fields of a message. -/
def errorDescription (fields : Fields) : Reading ErrorDescription := do
  let error ← textField fields "Error"
  let time ← timeField fields "ErrorTime"
  let severity ← codedState Severity (fieldOrNull fields "ErrorSeverity")
  pure ⟨error, time, severity⟩

/-- An error that is a value of its own. -/
def errorValue : Value → Reading ErrorDescription
  | .object fields => errorDescription fields
  | _ => .fail .noFields

/-- The status of one application. -/
structure AppStatus where
  uuid : Uuid
  version : String
  displayName : String
  state : Coded SoftwareState
  error : ErrorDescription
  activated : Bool
  bootTime : Option Instant
  deriving DecidableEq, Repr

/-- Reads the status of an application. -/
def appStatus (payload : Value) : Reading AppStatus := do
  let fields ← objectFields "AppInstanceStatus" payload
  let identity : Fields ← match fieldOrNull fields "UUIDandVersion" with
    | .null => pure []
    | found => objectFields "UUIDandVersion" found
  let written ← match identity.get? "UUID" with
    | some written => pure written
    | none => .refuse .missingAppUuid
  let uuid ← uuidOf written "UUIDandVersion.UUID"
  let version ← textField identity "Version"
  let displayName ← textField fields "DisplayName"
  let state ← codedState SoftwareState (fieldOrNull fields "State")
  let error ← errorDescription fields
  let activated := flagField fields "Activated"
  let bootTime ← timeField fields "BootTime"
  pure ⟨uuid, version, displayName, state, error, activated, bootTime⟩

/-- The statuses of all applications. -/
structure AppList where
  apps : List AppStatus
  deriving DecidableEq, Repr

/-- Reads the statuses of all applications. -/
def appList (payload : Value) : Reading AppList := do
  let fields ← objectFields "AppsList" payload
  match fieldOrNull fields "apps" with
  | .null => pure ⟨[]⟩
  | .list found => do
    let apps ← Reading.each appStatus found
    pure ⟨apps⟩
  | _ => .refuse .appsNotList

/-- The status of one network port. -/
structure PortStatus where
  name : String
  isManagement : Bool
  dhcp : Coded DhcpMode
  isUp : Bool
  subnet : Option Network
  dnsServers : Option (List Address)
  addresses : List Address
  mac : Option String
  routers : Option (List Address)
  mtu : Int
  lastError : String
  deriving DecidableEq, Repr

/-- An entry of a port's list of addresses. -/
def portAddress (entry : Value) : Reading Address := do
  let fields ← objectFields "AddrInfo" entry
  addressOf "AddrInfo.Addr" (fieldOrNull fields "Addr")

/-- Reads the status of a port. -/
def portStatus (payload : Value) : Reading PortStatus := do
  let fields ← objectFields "NetworkPortStatus" payload
  let entries ← match fieldOrNull fields "AddrInfoList" with
    | .null => pure []
    | .list found => pure found
    | _ => .refuse .addressesNotList
  let addresses ← Reading.each portAddress entries
  let subnetName := if fields.has "IPv4Subnet" then "IPv4Subnet" else "Subnet"
  let name ← textField fields "IfName"
  let isManagement := flagField fields "IsMgmt"
  let dhcp ← codedState DhcpMode (fieldOrNull fields "Dhcp")
  let isUp := flagField fields "Up"
  let subnet ← subnet (fieldOrNull fields subnetName)
  let dnsServers ← addressListField fields "DNSServers"
  let mac ← hardwareAddress (fieldOrNull fields "MacAddr")
  let routers ← addressListField fields "DefaultRouters"
  let mtu ← integerField fields "MTU"
  let lastError ← textField fields "LastError"
  pure ⟨name, isManagement, dhcp, isUp, subnet, dnsServers, addresses, mac, routers, mtu, lastError⟩

/-- The status of the network. -/
structure NetworkStatus where
  key : String
  ports : Option (List PortStatus)
  deriving DecidableEq, Repr

/-- Reads the status of the network. -/
def networkStatus (payload : Value) : Reading NetworkStatus := do
  let fields ← objectFields "DeviceNetworkStatus" payload
  let found ← match fieldOrNull fields "Ports" with
    | .null => pure none
    | .list found => pure (some found)
    | _ => .refuse .portsNotList
  let key ← textField fields "DPCKey"
  match found with
  | none => pure ⟨key, none⟩
  | some found => do
    let ports ← Reading.each portStatus found
    pure ⟨key, some ports⟩

/-- A register that did not match: its number, or a flag in place of one. -/
inductive Register where
  | index (number : Int)
  | flag (value : Bool)
  deriving DecidableEq, Repr

/-- A register as a value. -/
def Register.toValue : Register → Value
  | index number => .integer number
  | flag value => .bool value

/-- The register of a value. -/
def Register.ofValue? : Value → Option Register
  | .integer number => some (index number)
  | .bool value => some (flag value)
  | _ => none

/-- The status of the vault. -/
structure VaultReport where
  name : String
  status : Coded DataProtection
  registerUse : Coded RegisterUse
  conversionComplete : Bool
  mismatches : Option (List Register)
  error : ErrorDescription
  deriving DecidableEq, Repr

/-- Reads the status of the vault. -/
def vaultReport (payload : Value) : Reading VaultReport := do
  let fields ← objectFields "VaultStatus" payload
  let mismatches ← match fieldOrNull fields "MismatchingPCRs" with
    | .null => pure none
    | .list found =>
      match found.mapM Register.ofValue? with
      | some registers => pure (some registers)
      | none => .refuse .registersNotIntegers
    | _ => .refuse .registersNotIntegers
  let name ← textField fields "Name"
  let status ← codedState DataProtection (fieldOrNull fields "Status")
  let registerUse ← codedState RegisterUse (fieldOrNull fields "PCRStatus")
  let conversionComplete := flagField fields "ConversionComplete"
  let error ← errorDescription fields
  pure ⟨name, status, registerUse, conversionComplete, mismatches, error⟩

/-- The status of the downloader. -/
structure DownloadStatus where
  name : String
  imageSha256 : String
  state : Coded SoftwareState
  progress : Int
  totalSize : Int
  currentSize : Int
  lastUse : Option Instant
  modTime : Option Instant
  error : ErrorDescription
  deriving DecidableEq, Repr

/-- Reads the status of the downloader. An absent state is the number zero, without a remark. -/
def downloadStatus (payload : Value) : Reading DownloadStatus := do
  let fields ← objectFields "DownloaderStatus" payload
  let name ← textField fields "Name"
  let imageSha256 ← textField fields "ImageSha256"
  let state ← match fieldOrNull fields "State" with
    | .null => pure (.other 0)
    | found => codedState SoftwareState found
  let progress ← integerField fields "Progress"
  let totalSize ← integerField fields "TotalSize"
  let currentSize ← integerField fields "CurrentSize"
  let lastUse ← timeField fields "LastUse"
  let modTime ← timeField fields "ModTime"
  let error ← errorDescription fields
  pure ⟨name, imageSha256, state, progress, totalSize, currentSize, lastUse, modTime, error⟩

/-- How many applications are in which phase. -/
structure SummaryReport where
  starting : Int
  running : Int
  stopping : Int
  error : Int
  deriving DecidableEq, Repr

/-- Reads the summary of the applications. -/
def summaryReport (payload : Value) : Reading SummaryReport := do
  let fields ← objectFields "AppInstanceSummary" payload
  let starting ← integerField fields "TotalStarting"
  let running ← integerField fields "TotalRunning"
  let stopping ← integerField fields "TotalStopping"
  let error ← integerField fields "TotalError"
  pure ⟨starting, running, stopping, error⟩

/-- The status of the node. -/
structure NodeReport where
  server : Option String
  nodeUuid : Option Uuid
  onboarded : Bool
  summary : Option SummaryReport
  deriving DecidableEq, Repr

/-- Reads the status of the node. -/
def nodeReport (payload : Value) : Reading NodeReport := do
  let fields ← objectFields "NodeStatus" payload
  let written := fieldOrNull fields "node_uuid"
  let nodeUuid ←
    if written.isTruthy && written.display ≠ Uuid.nilText then do
      let uuid ← uuidOf written "node_uuid"
      pure (some uuid)
    else pure none
  let server := fieldOrNull fields "server"
  let onboarded := flagField fields "onboarded"
  let summary ← match fieldOrNull fields "app_instance_summary" with
    | .null => pure none
    | found => do
      let summary ← summaryReport found
      pure (some summary)
  pure ⟨if server.isTruthy then some server.display else none, nodeUuid, onboarded, summary⟩

/-- The status of onboarding. -/
structure OnboardingReport where
  deviceUuid : Uuid
  hardwareModel : String
  deriving DecidableEq, Repr

/-- Reads the status of onboarding. -/
def onboardingReport (payload : Value) : Reading OnboardingReport := do
  let fields ← objectFields "OnboardingStatus" payload
  let written := fieldOrNull fields "DeviceUUID"
  if written.isTruthy then do
    let deviceUuid ← uuidOf written "DeviceUUID"
    let hardwareModel ← textField fields "HardwareModel"
    pure ⟨deviceUuid, hardwareModel⟩
  else .refuse .missingDeviceUuid

end NodeConsole.Wire
