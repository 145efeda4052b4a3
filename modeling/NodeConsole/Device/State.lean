import NodeConsole.Wire.Message

/-!
# Device state

What is known about a node, in the fragments that its services report, and how each message changes
its fragment.
-/

namespace NodeConsole.Device

open NodeConsole.Net NodeConsole.Time NodeConsole.Wire

/-- Why something failed, and when. -/
structure Reason where
  error : String
  time : Option Instant
  deriving DecidableEq, Repr

/-- The reason an error description gives. -/
def Reason.of (description : ErrorDescription) : Reason :=
  ⟨description.error, description.time⟩

/-- How far onboarding has come. -/
inductive Onboarding where
  | unknown
  | ongoing
  | done (device : Uuid)
  | failed (reason : String)
  deriving DecidableEq, Repr

/-- The state of an application: its code, with the error text if there is an error. -/
inductive AppState where
  | normal (code : Coded SoftwareState)
  | error (code : Coded SoftwareState) (reason : String)
  deriving DecidableEq, Repr

/-- The state is an error. -/
def AppState.isError : AppState → Bool
  | normal _ => false
  | error .. => true

/-- The state of the vault. -/
inductive Vault where
  | unknown
  | encryptionDisabled (reason : Reason) (tpmUsed : Bool)
  | unlocked (tpmUsed : Bool)
  | locked (reason : Reason) (mismatches : Option (List Register))
  deriving DecidableEq, Repr

/-- How many applications are in which phase. -/
structure AppSummary where
  starting : Int := 0
  running : Int := 0
  stopping : Int := 0
  error : Int := 0
  deriving DecidableEq, Repr

/-- All applications of a summary. -/
def AppSummary.total (summary : AppSummary) : Int :=
  summary.starting + summary.running + summary.stopping + summary.error

/-- What is known about the node itself. -/
structure Node where
  server : Option String := none
  summary : AppSummary := {}
  onboarding : Onboarding := .unknown
  deriving DecidableEq, Repr

/-- An application. -/
structure App where
  uuid : Uuid
  name : String
  version : String
  state : AppState
  deriving DecidableEq, Repr

/-- A network port. -/
structure Port where
  name : String
  isManagement : Bool
  addresses : List Address
  gateways : Option (List Address)
  mac : Option String
  dhcp : Coded DhcpMode
  isUp : Bool
  subnet : Option Network
  dnsServers : List Address
  lastError : String
  deriving DecidableEq, Repr

/-- A record of the kernel log. -/
structure KernelRecord where
  level : Int
  sequence : Int
  micros : Int
  message : String
  deriving DecidableEq, Repr

/-- The state that a status gives an application: an error if the error text is not empty. -/
def AppState.of (status : AppStatus) : AppState :=
  if status.error.isError then .error status.state status.error.error else .normal status.state

/-- The application of a status. -/
def App.of (status : AppStatus) : App :=
  ⟨status.uuid, status.displayName, status.version, .of status⟩

/-- The summary of a report. -/
def AppSummary.of (report : SummaryReport) : AppSummary :=
  ⟨report.starting, report.running, report.stopping, report.error⟩

/-- The port of a status. -/
def Port.of (status : PortStatus) : Port where
  name := status.name
  isManagement := status.isManagement
  addresses := status.addresses
  gateways := status.routers
  mac := status.mac
  dhcp := status.dhcp
  isUp := status.isUp
  subnet := status.subnet
  dnsServers := status.dnsServers.getD []
  lastError := status.lastError

/-- A node that says it is onboarded must name itself. -/
def Onboarding.of (report : NodeReport) : Onboarding :=
  if report.onboarded then
    match report.nodeUuid with
    | some uuid => .done uuid
    | none => .failed "Node UUID is missing"
  else .ongoing

/-- A node report replaces all that is known about the node. -/
def Node.of (report : NodeReport) : Node where
  server := report.server
  summary := (report.summary.map AppSummary.of).getD {}
  onboarding := .of report

/-- The part of an error text that tells that the key of the vault is missing. -/
def keyUnavailable : String := "Vault key unavailable"

/-- The vault of a report. Registers are kept only if the key is missing. -/
def Vault.of (report : VaultReport) : Vault :=
  let tpmUsed : Bool := report.registerUse = .known .enabled
  let reason := Reason.of report.error
  match report.status with
  | .known .disabled => .encryptionDisabled reason tpmUsed
  | .known .enabled => .unlocked tpmUsed
  | .known .error =>
    .locked reason
      (if Text.occursIn keyUnavailable.toList reason.error.toList then report.mismatches else none)
  | .known .unknown => .unknown
  | .other _ => .unknown

/-- The ports of a network status. -/
def portsOf (status : NetworkStatus) : List Port :=
  (status.ports.getD []).map Port.of

/-- The known applications by identifier, in the order in which they were first reported. -/
structure AppMap where
  entries : List (Uuid × App) := []
  deriving DecidableEq, Repr

namespace AppMap

/-- The application of an identifier. -/
def find? (apps : AppMap) (uuid : Uuid) : Option App :=
  (apps.entries.find? (·.1 = uuid)).map (·.2)

/-- Sets an application: in place if its identifier is known, at the end otherwise. -/
def insert (apps : AppMap) (uuid : Uuid) (app : App) : AppMap :=
  if apps.entries.any (·.1 = uuid) then
    ⟨apps.entries.map fun entry => if entry.1 = uuid then (uuid, app) else entry⟩
  else ⟨apps.entries ++ [(uuid, app)]⟩

/-- Takes over the status of one application. -/
def update (apps : AppMap) (status : AppStatus) : AppMap :=
  apps.insert status.uuid (.of status)

/-- The applications of a list of statuses, later ones in place of earlier ones. -/
def ofList (list : AppList) : AppMap :=
  list.apps.foldl AppMap.update {}

/-- The applications in order. -/
def values (apps : AppMap) : List App :=
  apps.entries.map (·.2)

end AppMap

/-- How many kernel records are kept. -/
def kernelLogCapacity : Nat := 1000

/-- Adds records to the kept ones and keeps the last of them. -/
def appendRecords (kept added : List KernelRecord) : List KernelRecord :=
  let all := kept ++ added
  all.drop (all.length - kernelLogCapacity)

end NodeConsole.Device
