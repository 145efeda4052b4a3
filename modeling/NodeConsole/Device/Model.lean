import NodeConsole.Device.State

/-!
# The device model

All fragments together. Every message changes one fragment and counts one generation, so a model is
a value that two readers can compare.
-/

namespace NodeConsole.Device

open NodeConsole.Wire

/-- The state of a device after a number of updates. -/
structure Model where
  generation : Nat := 0
  node : Node := {}
  apps : AppMap := {}
  network : List Port := []
  vault : Vault := .unknown
  downloader : Option DownloadStatus := none
  kernelLog : List KernelRecord := []
  deriving DecidableEq, Repr

/-- A change of the model: one message of one kind, or new kernel records. -/
inductive Update where
  | node (report : NodeReport)
  | onboarding (report : OnboardingReport)
  | summary (report : SummaryReport)
  | app (status : AppStatus)
  | appList (list : AppList)
  | network (status : NetworkStatus)
  | vault (report : VaultReport)
  | downloader (status : DownloadStatus)
  | kernelLog (records : List KernelRecord)
  deriving DecidableEq, Repr

namespace Update

/-- The name under which an update is logged. -/
def logName : Update → String
  | node _ => "reduce_node_status"
  | onboarding _ => "reduce_onboarding_status"
  | summary _ => "reduce_app_summary"
  | app _ => "reduce_app_status"
  | appList _ => "reduce_app_list"
  | network _ => "reduce_network_status"
  | vault _ => "reduce_vault_status"
  | downloader _ => "reduce_downloader_status"
  | kernelLog _ => "reduce_dmesg"

end Update

namespace Model

/-- The model with one fragment changed. -/
def change (model : Model) : Update → Model
  | .node report => { model with node := .of report }
  | .onboarding report =>
    { model with node := { model.node with onboarding := .done report.deviceUuid } }
  | .summary report => { model with node := { model.node with summary := .of report } }
  | .app status => { model with apps := model.apps.update status }
  | .appList list => { model with apps := .ofList list }
  | .network status => { model with network := portsOf status }
  | .vault report => { model with vault := .of report }
  | .downloader status => { model with downloader := some status }
  | .kernelLog records => { model with kernelLog := appendRecords model.kernelLog records }

/-- Applies an update. -/
def apply (model : Model) (update : Update) : Model :=
  { model.change update with generation := model.generation + 1 }

/-- Applies updates one after another. -/
def applyAll (model : Model) (updates : List Update) : Model :=
  updates.foldl apply model

/-- The first port of a name. -/
def port? (model : Model) (name : String) : Option Port :=
  model.network.find? (·.name = name)

end Model

end NodeConsole.Device
