import NodeConsole.Device.Model

/-!
# The model as data

The model as one value, for programs that read it. A state with several forms names its form in the
field `kind`; times and addresses are texts, coded states are numbers. Of the kernel log only the
number of records is given.
-/

namespace NodeConsole.Device

open NodeConsole.Net NodeConsole.Time NodeConsole.Wire

namespace Dump

/-- A value, or nothing. -/
def optional {α : Type} (dump : α → Value) : Option α → Value
  | some found => dump found
  | none => .null

/-- A time. -/
def instant (found : Instant) : Value :=
  .text found.spacedText

/-- An address. -/
def address (found : Address) : Value :=
  .text found.text

/-- A coded state by its number. -/
def coded {State : Type} [Codes State] (found : Coded State) : Value :=
  .integer found.number

/-- A list. -/
def list {α : Type} (dump : α → Value) (found : List α) : Value :=
  .list (found.map dump)

/-- A form of a state, with its fields. -/
def kind (name : String) (fields : Fields) : Value :=
  .object (("kind", .text name) :: fields)

/-- A reason. -/
def reason (found : Reason) : Value :=
  .object [("error", .text found.error), ("time", optional instant found.time)]

/-- The state of onboarding. -/
def onboarding : Onboarding → Value
  | .unknown => kind "OnboardingUnknown" []
  | .ongoing => kind "Onboarding" []
  | .done device => kind "Onboarded" [("device_id", .text device.text)]
  | .failed reason => kind "OnboardingError" [("reason", .text reason)]

/-- The state of an application. -/
def appState : AppState → Value
  | .normal code => kind "AppNormal" [("code", coded code)]
  | .error code reason => kind "AppError" [("code", coded code), ("reason", .text reason)]

/-- The state of the vault. -/
def vault : Vault → Value
  | .unknown => kind "VaultUnknown" []
  | .encryptionDisabled found tpmUsed =>
    kind "EncryptionDisabled" [("reason", reason found), ("tpm_used", .bool tpmUsed)]
  | .unlocked tpmUsed => kind "Unlocked" [("tpm_used", .bool tpmUsed)]
  | .locked found mismatches =>
    kind "Locked"
      [("reason", reason found),
       ("mismatching_pcrs", optional (list Register.toValue) mismatches)]

/-- A summary of applications. -/
def summary (found : AppSummary) : Value :=
  .object
    [("starting", .integer found.starting), ("running", .integer found.running),
     ("stopping", .integer found.stopping), ("error", .integer found.error)]

/-- The node. -/
def node (found : Node) : Value :=
  .object
    [("server", .ofText? found.server), ("app_summary", summary found.summary),
     ("onboarding", onboarding found.onboarding)]

/-- An application. -/
def app (found : App) : Value :=
  .object
    [("uuid", .text found.uuid.text), ("name", .text found.name),
     ("version", .text found.version), ("state", appState found.state)]

/-- The applications by identifier. -/
def apps (found : AppMap) : Value :=
  .object (found.entries.map fun entry => (entry.1.text, app entry.2))

/-- A port. -/
def port (found : Port) : Value :=
  .object
    [("name", .text found.name), ("is_mgmt", .bool found.isManagement),
     ("addresses", list address found.addresses),
     ("gateways", optional (list address) found.gateways), ("mac", .ofText? found.mac),
     ("dhcp", coded found.dhcp), ("up", .bool found.isUp),
     ("subnet", optional (fun subnet => .text subnet.text) found.subnet),
     ("dns_servers", list address found.dnsServers), ("last_error", .text found.lastError)]

/-- An error description. -/
def errorDescription (found : ErrorDescription) : Value :=
  .object
    [("error", .text found.error), ("error_time", optional instant found.time),
     ("severity", coded found.severity)]

/-- The downloader. -/
def downloader (found : DownloadStatus) : Value :=
  .object
    [("name", .text found.name), ("image_sha256", .text found.imageSha256),
     ("state", coded found.state), ("progress", .integer found.progress),
     ("total_size", .integer found.totalSize), ("current_size", .integer found.currentSize),
     ("last_use", optional instant found.lastUse), ("mod_time", optional instant found.modTime),
     ("error", errorDescription found.error)]

end Dump

/-- The model as data. -/
def Model.dump (model : Model) : Value :=
  .object
    [("generation", .ofNat model.generation), ("node_status", Dump.node model.node),
     ("apps", Dump.apps model.apps), ("network", Dump.list Dump.port model.network),
     ("vault_status", Dump.vault model.vault),
     ("downloader", Dump.optional Dump.downloader model.downloader),
     ("dmesg", .ofNat model.kernelLog.length)]

end NodeConsole.Device
