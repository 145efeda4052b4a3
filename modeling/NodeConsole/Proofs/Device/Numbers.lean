import NodeConsole.Collector.Topic
import NodeConsole.KernelLog.Record
import NodeConsole.Proofs.Device.Accumulation
import NodeConsole.Proofs.Wire.Numbers

/-!
# Numbers of the device

A model that has been told only of messages read from JSON texts, and of kernel records read from
lines, has only numbers that can be written in digits: `Model.IsTold.isWritable`. The sizes of the
download are not among them; they are shown in units.
-/

namespace NodeConsole.Device

open NodeConsole.Collector (StatusTopic)
open NodeConsole.Text NodeConsole.Wire

/-! ## Updates that are read -/

/-- The value has been read from a JSON text. -/
def IsParsed (payload : Value) : Prop :=
  ∃ depth text, Json.parse depth text = .ok payload

/-- The status of an application has been read from a JSON text. -/
def IsReported (status : AppStatus) : Prop :=
  ∃ payload, IsParsed payload ∧ (appStatus payload).outcome = .ok status

/-- The updates that are made of what has been read: of the message of a status topic, of the status
of an application, of all statuses at once, read together or one by one, or of kernel records. -/
inductive Update.IsDecoded : Update → Prop where
  | status (topic : StatusTopic) {payload : Value} {update : Update} (parsed : IsParsed payload)
      (read : (topic.update payload).outcome = .ok update) : IsDecoded update
  | app {status : AppStatus} (reported : IsReported status) : IsDecoded (.app status)
  | appList {payload : Value} {list : AppList} (parsed : IsParsed payload)
      (read : (Wire.appList payload).outcome = .ok list) : IsDecoded (.appList list)
  | apps {statuses : List AppStatus} (reported : ∀ status ∈ statuses, IsReported status) :
      IsDecoded (.appList ⟨statuses⟩)
  | kernelLog {records : List KernelRecord}
      (read : ∀ record ∈ records, ∃ line, KernelLog.record line = .ok (some record)) :
      IsDecoded (.kernelLog records)

/-! ## Numbers of updates -/

/-- The time of a kernel record can be written. -/
def KernelRecord.IsWritable (record : KernelRecord) : Prop :=
  Text.IsWritable record.micros

/-- The numbers that an update brings can be written. -/
def Update.IsWritable : Update → Prop
  | node report => report.IsWritable
  | onboarding _ => True
  | summary report => report.IsWritable
  | app status => status.IsWritable
  | appList list => ∀ status ∈ list.apps, status.IsWritable
  | network status => status.IsWritable
  | vault report => report.IsWritable
  | downloader status => status.IsWritable
  | kernelLog records => ∀ record ∈ records, record.IsWritable

/-- What has been read from a JSON text can be written. -/
theorem IsParsed.isWritable {payload : Value} (parsed : IsParsed payload) :
    payload.IsWritable := by
  obtain ⟨depth, text, read⟩ := parsed
  exact Json.parse_isWritable read

/-- The status of an application that has been read can be written. -/
theorem IsReported.isWritable {status : AppStatus} (reported : IsReported status) :
    status.IsWritable := by
  obtain ⟨payload, parsed, read⟩ := reported
  exact appStatus_gives parsed.isWritable status read

/-- The time of a kernel record that has been read can be written. -/
theorem isWritable_of_record {line : List Char} {record : KernelRecord}
    (read : KernelLog.record line = .ok (some record)) : record.IsWritable := by
  unfold KernelLog.record at read
  split at read
  · cases read
  · dsimp only at read
    split at read
    · cases read
    · obtain ⟨found, read, same⟩ := map_eq_ok.mp read
      cases same
      unfold KernelLog.ofHeader at read
      split at read
      · split at read
        · next readMicros =>
          cases read
          exact integer_isWritable readMicros
        · cases read
      · cases read

/-- The message of a status topic that has been read makes an update that can be written. -/
theorem update_gives (topic : StatusTopic) {payload : Value} (writable : payload.IsWritable) :
    (topic.update payload).Gives Update.IsWritable := by
  cases topic with
  | node => exact Reading.gives_map (nodeReport_gives writable)
  | onboarding => exact Reading.gives_map fun _ _ => trivial
  | summary => exact Reading.gives_map (summaryReport_gives writable)
  | network => exact Reading.gives_map (networkStatus_gives writable)
  | vault => exact Reading.gives_map (vaultReport_gives writable)
  | downloader => exact Reading.gives_map (downloadStatus_gives writable)

/-- An update that is made of what has been read can be written. -/
theorem Update.IsDecoded.isWritable {update : Update} (decoded : update.IsDecoded) :
    update.IsWritable := by
  cases decoded with
  | status topic parsed read => exact update_gives topic parsed.isWritable update read
  | app reported => exact reported.isWritable
  | appList parsed read => exact appList_gives parsed.isWritable _ read
  | apps reported => exact fun status member => (reported status member).isWritable
  | kernelLog read =>
    intro record member
    obtain ⟨line, read⟩ := read record member
    exact isWritable_of_record read

/-! ## Numbers of the model -/

/-- The code of the state of an application, in error or not. -/
def AppState.code : AppState → Coded SoftwareState
  | normal code => code
  | error code _ => code

/-- The counts of a summary can be written. -/
structure AppSummary.IsWritable (summary : AppSummary) : Prop where
  starting : Text.IsWritable summary.starting
  running : Text.IsWritable summary.running
  stopping : Text.IsWritable summary.stopping
  error : Text.IsWritable summary.error

/-- The registers that a vault keeps can be written. -/
def Vault.IsWritable (vault : Vault) : Prop :=
  ∀ reason registers, vault = .locked reason (some registers) →
    ∀ number, .index number ∈ registers → Text.IsWritable number

/-- The numbers of a model that are shown in digits can be written; of kernel records, no more are
kept than there is room for. -/
structure Model.IsWritable (model : Model) : Prop where
  summary : model.node.summary.IsWritable
  apps : ∀ app ∈ model.apps.values, app.state.code.IsWritable
  network : ∀ port ∈ model.network, port.dhcp.IsWritable
  vault : model.vault.IsWritable
  downloader : ∀ status, model.downloader = some status → status.IsWritable
  kernelLog : ∀ record ∈ model.kernelLog, record.IsWritable
  capacity : model.kernelLog.length ≤ kernelLogCapacity

theorem isWritable_summary {report : SummaryReport} (writable : report.IsWritable) :
    (AppSummary.of report).IsWritable :=
  ⟨writable.starting, writable.running, writable.stopping, writable.error⟩

theorem isWritable_noApps : ({} : AppSummary).IsWritable :=
  ⟨isWritable_zero, isWritable_zero, isWritable_zero, isWritable_zero⟩

theorem isWritable_node {report : NodeReport} (writable : report.IsWritable) :
    (Node.of report).summary.IsWritable := by
  unfold Node.of
  cases present : report.summary with
  | none => exact isWritable_noApps
  | some summary => exact isWritable_summary (writable summary present)

theorem code_appOf (status : AppStatus) : (App.of status).state.code = status.state := by
  unfold App.of AppState.of
  dsimp only
  split <;> rfl

/-- All applications have a property when those from before and the one that is reported have it. -/
theorem forall_values_update {property : App → Prop} {apps : AppMap} {status : AppStatus}
    (before : ∀ app ∈ apps.values, property app) (new : property (.of status)) :
    ∀ app ∈ (apps.update status).values, property app := by
  intro app member
  obtain ⟨entry, found, rfl⟩ := List.mem_map.mp member
  rw [AppMap.entries_update] at found
  obtain rfl | ⟨earlier, -⟩ := mem_put.mp found
  · exact new
  · exact before entry.2 (List.mem_map_of_mem earlier)

/-- All applications of a list of statuses have a property when each of them has it. -/
theorem forall_values_ofList {property : App → Prop} {list : AppList}
    (all : ∀ status ∈ list.apps, property (.of status)) :
    ∀ app ∈ (AppMap.ofList list).values, property app := by
  have continued (apps : AppMap) (statuses : List AppStatus)
      (before : ∀ app ∈ apps.values, property app)
      (all : ∀ status ∈ statuses, property (.of status)) :
      ∀ app ∈ (statuses.foldl AppMap.update apps).values, property app := by
    induction statuses generalizing apps with
    | nil => exact before
    | cons status rest inductionHypothesis =>
      rw [List.forall_mem_cons] at all
      exact inductionHypothesis _ (forall_values_update before all.1) all.2
  exact continued {} list.apps (List.forall_mem_nil _) all

/-- The ports of a status of the network have a property when each port that it reports has it. -/
theorem forall_portsOf {property : Port → Prop} {status : NetworkStatus}
    (all : ∀ ports, status.ports = some ports → ∀ port ∈ ports, property (.of port)) :
    ∀ port ∈ portsOf status, property port := by
  intro port member
  obtain ⟨found, foundMember, rfl⟩ := List.mem_map.mp member
  cases present : status.ports with
  | none =>
    rw [present] at foundMember
    cases foundMember
  | some ports =>
    rw [present] at foundMember
    exact all ports present found foundMember

/-- The vault of a report that can be written can be. -/
theorem isWritable_vault {report : VaultReport} (writable : report.IsWritable) :
    (Vault.of report).IsWritable := by
  intro reason registers locked
  unfold Vault.of at locked
  dsimp only at locked
  -- Registers are kept of a vault with an error alone.
  split at locked
  · cases locked
  · cases locked
  · rw [Vault.locked.injEq] at locked
    have kept := locked.2
    split at kept
    · exact writable registers kept
    · cases kept
  · cases locked
  · cases locked

theorem isWritable_appendRecords {kept added : List KernelRecord}
    (before : ∀ record ∈ kept, record.IsWritable) (writable : ∀ record ∈ added, record.IsWritable) :
    ∀ record ∈ appendRecords kept added, record.IsWritable := by
  intro record member
  obtain earlier | new := List.mem_append.mp (List.mem_of_mem_drop member)
  · exact before record earlier
  · exact writable record new

theorem length_appendRecords_le (kept added : List KernelRecord) :
    (appendRecords kept added).length ≤ kernelLogCapacity := by
  unfold appendRecords
  dsimp only
  rw [List.length_drop]
  omega

namespace Model

variable {model : Model}

/-- A model that knows nothing can be written. -/
theorem isWritable_empty : ({} : Model).IsWritable where
  summary := isWritable_noApps
  apps := List.forall_mem_nil _
  network := List.forall_mem_nil _
  vault := fun _ _ locked => nomatch locked
  downloader := fun _ told => nomatch told
  kernelLog := List.forall_mem_nil _
  capacity := Nat.zero_le _

/-- An update that can be written leaves a model that can be. -/
theorem IsWritable.apply (before : model.IsWritable) {update : Update}
    (writable : update.IsWritable) : (model.apply update).IsWritable := by
  cases update with
  | node report => exact { before with summary := isWritable_node writable }
  | onboarding report => exact { before with }
  | summary report => exact { before with summary := isWritable_summary writable }
  | app status =>
    have new : (App.of status).state.code.IsWritable := code_appOf status ▸ writable
    exact { before with apps := forall_values_update before.apps new }
  | appList list =>
    have each (status : AppStatus) (member : status ∈ list.apps) :
        (App.of status).state.code.IsWritable := code_appOf status ▸ writable status member
    exact { before with apps := forall_values_ofList each }
  | network status => exact { before with network := forall_portsOf writable }
  | vault report => exact { before with vault := isWritable_vault writable }
  | downloader status =>
    refine { before with downloader := ?_ }
    rintro _ ⟨⟩
    exact writable
  | kernelLog records =>
    rw [Model.apply, Model.change]
    refine { before with kernelLog := ?_, capacity := ?_ } <;> dsimp only
    · exact isWritable_appendRecords before.kernelLog writable
    · exact length_appendRecords_le model.kernelLog records

/-- The model that has been told of updates that are made of what has been read. -/
def IsTold (model : Model) : Prop :=
  ∃ updates, (∀ update ∈ updates, update.IsDecoded) ∧ model = ({} : Model).applyAll updates

/-- What holds at first, and stays with each update that is made of what has been read, holds of a
model that has been told of such updates. -/
theorem IsTold.invariant {property : Model → Prop} (start : property {})
    (step : ∀ model update, property model → update.IsDecoded → property (model.apply update))
    (told : model.IsTold) : property model := by
  obtain ⟨updates, decoded, rfl⟩ := told
  have continued (model : Model) (updates : List Update) (before : property model)
      (decoded : ∀ update ∈ updates, update.IsDecoded) : property (model.applyAll updates) := by
    induction updates generalizing model with
    | nil => exact before
    | cons update rest inductionHypothesis =>
      rw [List.forall_mem_cons] at decoded
      exact inductionHypothesis _ (step model update before decoded.1) decoded.2
  exact continued {} updates start decoded

/-- A model that has been told of what has been read can be written. -/
theorem IsTold.isWritable (told : model.IsTold) : model.IsWritable :=
  told.invariant isWritable_empty fun _ _ before decoded => before.apply decoded.isWritable

end Model

/-!
## Codes of the device

A model that has been told only of messages that were read keeps the number of a state only if no
state has it: `Model.IsTold.isResolved`. So its states can be told apart by their numbers.
-/

/-- The numbers of the downloader without names are the numbers of no states. -/
structure DownloadStatus.IsResolved (status : DownloadStatus) : Prop where
  state : status.state.IsResolved
  severity : status.error.severity.IsResolved

/-- The numbers without names that an update brings, of those that a model keeps, are the numbers of
no states. -/
def Update.IsResolved : Update → Prop
  | app status => status.state.IsResolved
  | appList list => ∀ status ∈ list.apps, status.state.IsResolved
  | network status => ∀ ports, status.ports = some ports → ∀ port ∈ ports, port.dhcp.IsResolved
  | downloader status => DownloadStatus.IsResolved status
  | _ => True

theorem appStatus_isResolved (payload : Value) :
    (appStatus payload).Gives fun status => status.state.IsResolved :=
  fun status read => (appStatus_state payload status read).isResolved

/-- The message of a status topic makes an update with resolved states. -/
theorem update_isResolved (topic : StatusTopic) (payload : Value) :
    (topic.update payload).Gives Update.IsResolved := by
  cases topic with
  | node => exact Reading.gives_map fun _ _ => trivial
  | onboarding => exact Reading.gives_map fun _ _ => trivial
  | summary => exact Reading.gives_map fun _ _ => trivial
  | network =>
    refine Reading.gives_map (networkStatus_gives_all fun _ _ _ _ item _ => ?_)
    exact fun status read => (portStatus_dhcp item status read).isResolved
  | vault => exact Reading.gives_map fun _ _ => trivial
  | downloader =>
    refine Reading.gives_map fun status read => ?_
    have fields := downloadStatus_reads payload status read
    exact ⟨fields.isResolved, fields.severity.isResolved⟩

/-- An update that is made of what has been read has resolved states. -/
theorem Update.IsDecoded.isResolved {update : Update} (decoded : update.IsDecoded) :
    update.IsResolved := by
  have reported {status : AppStatus} (reported : IsReported status) : status.state.IsResolved := by
    obtain ⟨payload, -, read⟩ := reported
    exact appStatus_isResolved payload status read
  cases decoded with
  | status topic parsed read => exact update_isResolved topic _ update read
  | app isReported => exact reported isReported
  | appList parsed read =>
    exact appList_gives_all (fun _ _ _ _ item _ => appStatus_isResolved item) _ read
  | apps areReported => exact fun status member => reported (areReported status member)
  | kernelLog read => trivial

namespace Model

variable {model : Model}

/-- The numbers without names in a model are the numbers of no states. -/
structure IsResolved (model : Model) : Prop where
  apps : ∀ app ∈ model.apps.values, app.state.code.IsResolved
  network : ∀ port ∈ model.network, port.dhcp.IsResolved
  downloader : ∀ status, model.downloader = some status → DownloadStatus.IsResolved status

theorem isResolved_empty : ({} : Model).IsResolved where
  apps := List.forall_mem_nil _
  network := List.forall_mem_nil _
  downloader := fun _ told => nomatch told

/-- An update with resolved states leaves a model with such states. -/
theorem IsResolved.apply (before : model.IsResolved) {update : Update}
    (resolved : update.IsResolved) : (model.apply update).IsResolved := by
  cases update with
  | node report => exact { before with }
  | onboarding report => exact { before with }
  | summary report => exact { before with }
  | app status =>
    have new : (App.of status).state.code.IsResolved := code_appOf status ▸ resolved
    exact { before with apps := forall_values_update before.apps new }
  | appList list =>
    have each (status : AppStatus) (member : status ∈ list.apps) :
        (App.of status).state.code.IsResolved := code_appOf status ▸ resolved status member
    exact { before with apps := forall_values_ofList each }
  | network status => exact { before with network := forall_portsOf resolved }
  | vault report => exact { before with }
  | downloader status =>
    refine { before with downloader := ?_ }
    rintro _ ⟨⟩
    exact resolved
  | kernelLog records =>
    rw [Model.apply, Model.change]
    exact ⟨before.apps, before.network, before.downloader⟩

/-- A model that has been told of what has been read has resolved states. -/
theorem IsTold.isResolved (told : model.IsTold) : model.IsResolved :=
  told.invariant isResolved_empty fun _ _ before decoded => before.apply decoded.isResolved

end Model

end NodeConsole.Device
