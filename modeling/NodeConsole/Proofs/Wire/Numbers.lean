import NodeConsole.Proofs.Json.Integers
import NodeConsole.Proofs.Wire.Reading
import NodeConsole.Wire.Message

/-!
# Numbers in messages

What is read of a message whose integers can be written has only numbers that can be written. That
is said here of the numbers that are shown in digits: the codes of states, the registers of the
vault, the counts of applications and the progress of a download.
-/

namespace NodeConsole.Wire

open NodeConsole.Text

namespace Reading

variable {α β : Type} {property : β → Prop}

/-- Whatever a reading gives as its result has a property. -/
def Gives (property : α → Prop) (reading : Reading α) : Prop :=
  ∀ result, reading.outcome = .ok result → property result

theorem gives_pure {result : β} (holds : property result) :
    (pure result : Reading β).Gives property := by
  rintro _ ⟨⟩
  exact holds

theorem gives_refuse (fault : Fault) : (refuse fault : Reading β).Gives property := by
  nofun

/-- Two readings give what the second gives, after any result of the first. -/
theorem gives_bind {first : Reading α} {next : α → Reading β}
    (continued : ∀ found, first.outcome = .ok found → (next found).Gives property) :
    (first >>= next).Gives property := by
  intro result read
  cases outcome : first.outcome with
  | error failure =>
    rw [outcome_bind_of_error outcome] at read
    cases read
  | ok found =>
    rw [outcome_bind_of_ok outcome] at read
    exact continued found outcome result read

theorem gives_map {change : α → β} {first : Reading α}
    (gives : first.Gives fun found => property (change found)) :
    (change <$> first).Gives property := by
  rw [map_eq_pure_bind]
  exact gives_bind fun found read => gives_pure (gives found read)

/-- Reading the items of a list gives results of the property that each item gives. -/
theorem gives_each {read : α → Reading β} {items : List α}
    (each : ∀ item ∈ items, (read item).Gives property) :
    (Reading.each read items).Gives fun results => ∀ result ∈ results, property result := by
  induction items with
  | nil => exact gives_pure (List.forall_mem_nil _)
  | cons item rest inductionHypothesis =>
    rw [List.forall_mem_cons] at each
    refine gives_bind fun first readFirst => ?_
    refine gives_bind fun others readOthers => ?_
    have othersHold := inductionHypothesis each.2 others readOthers
    exact gives_pure (List.forall_mem_cons.mpr ⟨each.1 first readFirst, othersHold⟩)

end Reading

open Reading

/-! ## Fields -/

/-- The number of a state can be written. -/
def Coded.IsWritable {State : Type} (coded : Coded State) : Prop :=
  ∀ code, coded = .other code → Text.IsWritable code

variable {payload : Value} {fields : Fields}

theorem fields_of_objectFields {what : String} (writable : payload.IsWritable)
    (read : (objectFields what payload).outcome = .ok fields) (name : String) :
    (fieldOrNull fields name).IsWritable := by
  obtain rfl := (objectFields_outcome what payload fields).mp read
  exact writable.field name

/-- An integer can be written if its field can be. -/
theorem integerField_gives {name : String} (writable : (fieldOrNull fields name).IsWritable) :
    (integerField fields name).Gives Text.IsWritable := by
  unfold integerField
  split
  · exact gives_pure isWritable_zero
  · next number found =>
    rw [found] at writable
    exact gives_pure (writable number .integer)
  · exact gives_refuse _

/-- The number of a state can be written if its value can be. -/
theorem codedState_gives {State : Type} [Codes State] {found : Value}
    (writable : found.IsWritable) : (codedState State found).Gives Coded.IsWritable := by
  have numbered (code : Int) (writable : Text.IsWritable code) :
      (codedState.numbered State code).Gives Coded.IsWritable := by
    unfold codedState.numbered
    split
    · exact gives_pure nofun
    · refine gives_bind fun _ _ => gives_pure ?_
      rintro _ ⟨⟩
      exact writable
  unfold codedState
  split
  · exact numbered 0 isWritable_zero
  · next code => exact numbered code (writable code .integer)
  · exact gives_refuse _

/-- A state has been read from the number in a field of a message. -/
def Coded.IsReadFrom {State : Type} [Codes State] (coded : Coded State) (payload : Value)
    (name : String) : Prop :=
  ∃ fields, payload = .object fields ∧
    (codedState State (fieldOrNull fields name)).outcome = .ok coded

theorem Coded.IsReadFrom.isWritable {State : Type} [Codes State] {coded : Coded State}
    {name : String} (read : coded.IsReadFrom payload name) (writable : payload.IsWritable) :
    coded.IsWritable := by
  obtain ⟨fields, rfl, read⟩ := read
  exact codedState_gives (writable.field name) coded read

theorem errorDescription_severity (fields : Fields) :
    (errorDescription fields).Gives fun error =>
      error.severity.IsReadFrom (.object fields) "ErrorSeverity" := by
  refine gives_bind fun text _ => gives_bind fun time _ => ?_
  exact gives_bind fun severity read => gives_pure ⟨fields, rfl, read⟩

/-! ## Messages -/

/-- The state of an application is read from its field. -/
theorem appStatus_state (payload : Value) :
    (appStatus payload).Gives fun status => status.state.IsReadFrom payload "State" := by
  refine gives_bind fun fields read => ?_
  obtain rfl := (objectFields_outcome _ payload fields).mp read
  dsimp only
  -- However the identifier is found, what follows is the same.
  split <;> refine gives_bind fun identity _ => ?_
  all_goals
    split <;> refine gives_bind fun written _ => ?_
  all_goals
    refine gives_bind fun uuid _ => gives_bind fun version _ => gives_bind fun displayName _ => ?_
    refine gives_bind fun state readState => gives_bind fun error _ => ?_
    exact gives_bind fun bootTime _ => gives_pure ⟨fields, rfl, readState⟩

/-- The numbers of an application that are shown can be written. -/
def AppStatus.IsWritable (status : AppStatus) : Prop :=
  status.state.IsWritable

theorem appStatus_gives (writable : payload.IsWritable) :
    (appStatus payload).Gives AppStatus.IsWritable :=
  fun status read => (appStatus_state payload status read).isWritable writable

/-- The statuses of all applications have the property that each of them has. -/
theorem appList_gives_all {property : AppStatus → Prop}
    (each : ∀ fields items, payload = .object fields → fieldOrNull fields "apps" = .list items →
      ∀ item ∈ items, (appStatus item).Gives property) :
    (appList payload).Gives fun list => ∀ status ∈ list.apps, property status := by
  refine gives_bind fun fields read => ?_
  have isObject := (objectFields_outcome _ payload fields).mp read
  split
  · exact gives_pure (List.forall_mem_nil _)
  · next found isList =>
    refine gives_bind fun apps readApps => gives_pure ?_
    exact gives_each (each fields found isObject isList) apps readApps
  · exact gives_refuse _

/-- The statuses of all applications have states that can be written. -/
theorem appList_gives (writable : payload.IsWritable) :
    (appList payload).Gives fun list => ∀ status ∈ list.apps, status.IsWritable := by
  refine appList_gives_all fun fields items isObject isList item member => ?_
  rw [isObject] at writable
  have field : (fieldOrNull fields "apps").IsWritable := writable.field "apps"
  rw [isList] at field
  exact appStatus_gives (field.item member)

/-- The mode of a port is read from its field. -/
theorem portStatus_dhcp (payload : Value) :
    (portStatus payload).Gives fun status => status.dhcp.IsReadFrom payload "Dhcp" := by
  refine gives_bind fun fields read => ?_
  obtain rfl := (objectFields_outcome _ payload fields).mp read
  dsimp only
  split <;> refine gives_bind fun entries _ => ?_
  all_goals
    refine gives_bind fun addresses _ => gives_bind fun name _ => gives_bind fun dhcp readDhcp => ?_
    refine gives_bind fun subnet _ => gives_bind fun servers _ => gives_bind fun mac _ => ?_
    refine gives_bind fun routers _ => gives_bind fun mtu _ => gives_bind fun lastError _ => ?_
    exact gives_pure ⟨fields, rfl, readDhcp⟩

/-- The numbers of a port that are shown can be written. -/
def PortStatus.IsWritable (status : PortStatus) : Prop :=
  status.dhcp.IsWritable

theorem portStatus_gives (writable : payload.IsWritable) :
    (portStatus payload).Gives PortStatus.IsWritable :=
  fun status read => (portStatus_dhcp payload status read).isWritable writable

/-- All ports have the property that each of them has. -/
theorem networkStatus_gives_all {property : PortStatus → Prop}
    (each : ∀ fields items, payload = .object fields → fieldOrNull fields "Ports" = .list items →
      ∀ item ∈ items, (portStatus item).Gives property) :
    (networkStatus payload).Gives fun status =>
      ∀ ports, status.ports = some ports → ∀ port ∈ ports, property port := by
  refine gives_bind fun fields read => ?_
  have isObject := (objectFields_outcome _ payload fields).mp read
  dsimp only
  split
  · refine gives_bind fun entries readEntries => gives_bind fun key _ => ?_
    cases readEntries
    exact gives_pure nofun
  · next items isList =>
    refine gives_bind fun entries readEntries => gives_bind fun key _ => ?_
    cases readEntries
    refine gives_bind fun ports readPorts => gives_pure ?_
    rintro _ ⟨⟩
    exact gives_each (each fields items isObject isList) ports readPorts
  · refine gives_bind fun entries refused => ?_
    cases refused

/-- The numbers of all ports that are shown can be written. -/
def NetworkStatus.IsWritable (status : NetworkStatus) : Prop :=
  ∀ ports, status.ports = some ports → ∀ port ∈ ports, port.IsWritable

/-- The status of the network has ports with modes that can be written. -/
theorem networkStatus_gives (writable : payload.IsWritable) :
    (networkStatus payload).Gives NetworkStatus.IsWritable := by
  refine networkStatus_gives_all fun fields items isObject isList item member => ?_
  rw [isObject] at writable
  have field : (fieldOrNull fields "Ports").IsWritable := writable.field "Ports"
  rw [isList] at field
  exact portStatus_gives (field.item member)

/-- The registers of the vault that are shown can be written. -/
def VaultReport.IsWritable (report : VaultReport) : Prop :=
  ∀ registers, report.mismatches = some registers →
    ∀ number, .index number ∈ registers → Text.IsWritable number

/-- Registers that are read of a list which can be written can be. -/
theorem registers_isWritable {items : List Value} {registers : List Register}
    (writable : (Value.list items).IsWritable)
    (read : items.mapM Register.ofValue? = some registers) {number : Int}
    (member : .index number ∈ registers) : Text.IsWritable number := by
  induction items generalizing registers with
  | nil =>
    cases read
    cases member
  | cons item rest inductionHypothesis =>
    rw [List.mapM_cons] at read
    obtain ⟨first, readFirst, read⟩ := Option.bind_eq_some_iff.mp read
    obtain ⟨others, readOthers, read⟩ := Option.bind_eq_some_iff.mp read
    cases read
    obtain rfl | later := List.mem_cons.mp member
    · cases item with
      | integer found =>
        cases readFirst
        exact writable.item List.mem_cons_self number .integer
      | _ => cases readFirst
    · have restWritable : (Value.list rest).IsWritable :=
        Value.isWritable_list fun item member => writable.item (List.mem_cons_of_mem _ member)
      exact inductionHypothesis restWritable readOthers later

/-- A report on the vault has registers that can be written. -/
theorem vaultReport_gives (writable : payload.IsWritable) :
    (vaultReport payload).Gives VaultReport.IsWritable := by
  refine gives_bind fun fields read => ?_
  have field := fields_of_objectFields writable read "MismatchingPCRs"
  dsimp only
  split
  · refine gives_bind fun mismatches readMismatches => gives_bind fun name _ => ?_
    cases readMismatches
    refine gives_bind fun status _ => gives_bind fun registerUse _ => gives_bind fun error _ => ?_
    exact gives_pure nofun
  · next items isList =>
    rw [isList] at field
    split
    · next registers readRegisters =>
      refine gives_bind fun mismatches readMismatches => gives_bind fun name _ => ?_
      cases readMismatches
      refine gives_bind fun status _ => gives_bind fun registerUse _ => gives_bind fun error _ => ?_
      refine gives_pure ?_
      rintro _ ⟨⟩ number member
      exact registers_isWritable field readRegisters member
    · refine gives_bind fun mismatches refused => ?_
      cases refused
  · refine gives_bind fun mismatches refused => ?_
    cases refused

/-- The codes and the progress of the downloader have been read from their fields; an absent state
is the number zero. -/
structure DownloadStatus.IsReadFrom (status : DownloadStatus) (payload : Value) : Prop where
  state : status.state = .other 0 ∨ status.state.IsReadFrom payload "State"
  progress : ∃ fields, payload = .object fields ∧
    (integerField fields "Progress").outcome = .ok status.progress
  severity : status.error.severity.IsReadFrom payload "ErrorSeverity"

/-- The status of the downloader is read from its fields. -/
theorem downloadStatus_reads (payload : Value) :
    (downloadStatus payload).Gives fun status => status.IsReadFrom payload := by
  refine gives_bind fun fields read => ?_
  obtain rfl := (objectFields_outcome _ payload fields).mp read
  refine gives_bind fun name _ => gives_bind fun imageSha256 _ => ?_
  dsimp only
  split <;> refine gives_bind fun state readState => ?_
  all_goals
    have stateRead : state = .other 0 ∨ state.IsReadFrom (.object fields) "State" := by
      first
      | exact .inr ⟨fields, rfl, readState⟩
      | cases readState
        exact .inl rfl
    refine gives_bind fun progress readProgress => gives_bind fun totalSize _ => ?_
    refine gives_bind fun currentSize _ => gives_bind fun lastUse _ => ?_
    refine gives_bind fun modTime _ => gives_bind fun error readError => gives_pure ?_
    exact ⟨stateRead, ⟨fields, rfl, readProgress⟩, errorDescription_severity fields error readError⟩

/-- The numbers of the downloader that are shown as they are can be written. -/
structure DownloadStatus.IsWritable (status : DownloadStatus) : Prop where
  state : status.state.IsWritable
  progress : Text.IsWritable status.progress

/-- The status of the downloader has a state and a progress that can be written. -/
theorem downloadStatus_gives (writable : payload.IsWritable) :
    (downloadStatus payload).Gives DownloadStatus.IsWritable := by
  intro status read
  obtain ⟨state, ⟨fields, isObject, progress⟩, -⟩ := downloadStatus_reads payload status read
  refine ⟨?_, ?_⟩
  · obtain absent | read := state
    · rw [absent]
      rintro _ ⟨⟩
      exact isWritable_zero
    · exact read.isWritable writable
  · rw [isObject] at writable
    exact integerField_gives (writable.field "Progress") status.progress progress

/-- The counts of a summary can be written. -/
structure SummaryReport.IsWritable (report : SummaryReport) : Prop where
  starting : Text.IsWritable report.starting
  running : Text.IsWritable report.running
  stopping : Text.IsWritable report.stopping
  error : Text.IsWritable report.error

/-- A summary has counts that can be written. -/
theorem summaryReport_gives (writable : payload.IsWritable) :
    (summaryReport payload).Gives SummaryReport.IsWritable := by
  refine gives_bind fun fields read => ?_
  have field (name : String) := integerField_gives (fields_of_objectFields writable read name)
  refine gives_bind fun starting readStarting => gives_bind fun running readRunning => ?_
  refine gives_bind fun stopping readStopping => gives_bind fun error readError => gives_pure ?_
  exact ⟨field _ _ readStarting, field _ _ readRunning, field _ _ readStopping,
    field _ _ readError⟩

/-- The counts of the summary in a report on the node, if there is one, can be written. -/
def NodeReport.IsWritable (report : NodeReport) : Prop :=
  ∀ summary, report.summary = some summary → summary.IsWritable

/-- A report on the node has a summary whose counts can be written, or none. -/
theorem nodeReport_gives (writable : payload.IsWritable) :
    (nodeReport payload).Gives NodeReport.IsWritable := by
  refine gives_bind fun fields read => ?_
  have field := fields_of_objectFields writable read "app_instance_summary"
  dsimp only
  split
  case' isTrue => refine gives_bind fun uuid _ => ?_
  all_goals
    refine gives_bind fun nodeUuid _ => ?_
    split
    · refine gives_bind fun summary absent => ?_
      cases absent
      exact gives_pure nofun
    · refine gives_bind fun summary readSummary => gives_bind fun present same => ?_
      cases same
      refine gives_pure ?_
      rintro _ ⟨⟩
      exact summaryReport_gives field summary readSummary

/-!
## Codes told apart

A number is kept without a name only if no state of its set has it. So states that have been read
differ in their numbers, known ones from each other and from those without a name:
`Coded.IsResolved.number_inj`.
-/

/-- Every state of a set is found by its number. -/
class LawfulCodes (State : Type) [Codes State] : Prop where
  member?_code : ∀ state : State, Coded.member? (Codes.code state : Int) = some state

instance : LawfulCodes SoftwareState where
  member?_code state := by cases state <;> rfl

instance : LawfulCodes DhcpMode where
  member?_code state := by cases state <;> rfl

instance : LawfulCodes Severity where
  member?_code state := by cases state <;> rfl

namespace Coded

variable {State : Type} [Codes State] {coded other : Coded State}

/-- A number without a name is the number of no state. -/
def IsResolved (coded : Coded State) : Prop :=
  ∀ code, coded = .other code → (member? code : Option State) = none

theorem IsResolved.ne_code [LawfulCodes State] {code : Int}
    (resolved : (Coded.other code : Coded State).IsResolved) (state : State) :
    code ≠ Codes.code state := by
  rintro rfl
  have noState := resolved _ rfl
  rw [LawfulCodes.member?_code] at noState
  cases noState

/-- States differ in their numbers. -/
theorem IsResolved.number_inj [LawfulCodes State] (resolved : coded.IsResolved)
    (otherResolved : other.IsResolved) (same : coded.number = other.number) : coded = other := by
  cases coded with
  | known state =>
    cases other with
    | known otherState =>
      have found := LawfulCodes.member?_code state
      have same : (Codes.code state : Int) = Codes.code otherState := same
      rw [same, LawfulCodes.member?_code, Option.some.injEq] at found
      rw [found]
    | other code => exact absurd same.symm (otherResolved.ne_code state)
  | other code =>
    cases other with
    | known state => exact absurd same (resolved.ne_code state)
    | other otherCode => exact congrArg Coded.other same

/-- A state that is read has a number of its own. -/
theorem codedState_isResolved (found : Value) : (codedState State found).Gives IsResolved := by
  have numbered (code : Int) : (codedState.numbered State code).Gives IsResolved := by
    unfold codedState.numbered
    split
    · exact gives_pure nofun
    · next noState =>
      refine gives_bind fun _ _ => gives_pure ?_
      rintro _ ⟨⟩
      exact noState
  unfold codedState
  split
  · exact numbered 0
  · next code => exact numbered code
  · exact gives_refuse _

theorem IsReadFrom.isResolved {payload : Value} {name : String}
    (read : coded.IsReadFrom payload name) : coded.IsResolved := by
  obtain ⟨fields, -, read⟩ := read
  exact codedState_isResolved _ coded read

end Coded

/-- The state of a download that has been read has a number of its own, also where it is absent. -/
theorem DownloadStatus.IsReadFrom.isResolved {status : DownloadStatus} {payload : Value}
    (read : status.IsReadFrom payload) : status.state.IsResolved := by
  obtain absent | state := read.state
  · rw [absent]
    rintro _ ⟨⟩
    rfl
  · exact state.isResolved

end NodeConsole.Wire
