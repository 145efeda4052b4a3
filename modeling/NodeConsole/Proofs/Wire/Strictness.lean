import NodeConsole.Proofs.Wire.Kinds

/-!
# Strict messages

Every field of a message that is read is the zero value of its kind, because the field was absent,
null or empty, or stems from a value of that kind. Only flags, identities, the registers of a vault,
the name of the server, and the hardware address and subnet of a port take other values as well, and
`ObjectKind.isFrom_iff` says for every message that is read that it is strict exactly when they do
not.
-/

namespace NodeConsole.Wire

open NodeConsole.Net

open Reading

/-! ## Messages -/

/-- An error stems from its fields. -/
structure ErrorDescription.IsFrom (payload : Value) (description : ErrorDescription) : Prop where
  error : TextFrom (fieldOf payload "Error") description.error
  time : TimeFrom (fieldOf payload "ErrorTime") description.time
  severity : IntegerFrom (fieldOf payload "ErrorSeverity") description.severity.number

/-- The status of an application stems from its fields and those of its identity. -/
structure AppStatus.IsFrom (payload : Value) (status : AppStatus) : Prop where
  uuid : UuidFrom (fieldOf (fieldOf payload "UUIDandVersion") "UUID") status.uuid
  version : TextFrom (fieldOf (fieldOf payload "UUIDandVersion") "Version") status.version
  displayName : TextFrom (fieldOf payload "DisplayName") status.displayName
  state : IntegerFrom (fieldOf payload "State") status.state.number
  error : status.error.IsFrom payload
  activated : FlagFrom (fieldOf payload "Activated") status.activated
  bootTime : TimeFrom (fieldOf payload "BootTime") status.bootTime

/-- The statuses of all applications stem from the items of a list. -/
def AppList.IsFrom (payload : Value) (list : AppList) : Prop :=
  fieldOf payload "apps" = .null ∧ list.apps = [] ∨
    ∃ items, fieldOf payload "apps" = .list items ∧
      List.Forall₂ AppStatus.IsFrom items list.apps

/-- The status of a port stems from its fields. -/
structure PortStatus.IsFrom (payload : Value) (status : PortStatus) : Prop where
  name : TextFrom (fieldOf payload "IfName") status.name
  isManagement : FlagFrom (fieldOf payload "IsMgmt") status.isManagement
  dhcp : IntegerFrom (fieldOf payload "Dhcp") status.dhcp.number
  isUp : FlagFrom (fieldOf payload "Up") status.isUp
  subnet : SubnetFrom (portSubnet (fieldsOf payload)) status.subnet
  dnsServers : ListFrom (fieldOf payload "DNSServers") AddressFrom status.dnsServers
  addresses : List.Forall₂ (fun entry => AddressFrom (fieldOf entry "Addr"))
    (itemsOf (fieldOf payload "AddrInfoList")) status.addresses
  mac : HardwareFrom (fieldOf payload "MacAddr") status.mac
  routers : ListFrom (fieldOf payload "DefaultRouters") AddressFrom status.routers
  mtu : IntegerFrom (fieldOf payload "MTU") status.mtu
  lastError : TextFrom (fieldOf payload "LastError") status.lastError

/-- The status of the network stems from its fields. -/
structure NetworkStatus.IsFrom (payload : Value) (status : NetworkStatus) : Prop where
  key : TextFrom (fieldOf payload "DPCKey") status.key
  ports : ListFrom (fieldOf payload "Ports") PortStatus.IsFrom status.ports

/-- The status of the vault stems from its fields. -/
structure VaultReport.IsFrom (payload : Value) (report : VaultReport) : Prop where
  name : TextFrom (fieldOf payload "Name") report.name
  status : IntegerFrom (fieldOf payload "Status") report.status.number
  registerUse : IntegerFrom (fieldOf payload "PCRStatus") report.registerUse.number
  conversionComplete : FlagFrom (fieldOf payload "ConversionComplete") report.conversionComplete
  mismatches : ListFrom (fieldOf payload "MismatchingPCRs") RegisterFrom report.mismatches
  error : report.error.IsFrom payload

/-- The status of the downloader stems from its fields. -/
structure DownloadStatus.IsFrom (payload : Value) (status : DownloadStatus) : Prop where
  name : TextFrom (fieldOf payload "Name") status.name
  imageSha256 : TextFrom (fieldOf payload "ImageSha256") status.imageSha256
  state : IntegerFrom (fieldOf payload "State") status.state.number
  progress : IntegerFrom (fieldOf payload "Progress") status.progress
  totalSize : IntegerFrom (fieldOf payload "TotalSize") status.totalSize
  currentSize : IntegerFrom (fieldOf payload "CurrentSize") status.currentSize
  lastUse : TimeFrom (fieldOf payload "LastUse") status.lastUse
  modTime : TimeFrom (fieldOf payload "ModTime") status.modTime
  error : status.error.IsFrom payload

/-- The summary of the applications stems from its fields. -/
structure SummaryReport.IsFrom (payload : Value) (report : SummaryReport) : Prop where
  starting : IntegerFrom (fieldOf payload "TotalStarting") report.starting
  running : IntegerFrom (fieldOf payload "TotalRunning") report.running
  stopping : IntegerFrom (fieldOf payload "TotalStopping") report.stopping
  error : IntegerFrom (fieldOf payload "TotalError") report.error

/-- The status of the node stems from its fields. -/
structure NodeReport.IsFrom (payload : Value) (report : NodeReport) : Prop where
  server : ServerFrom (fieldOf payload "server") report.server
  nodeUuid : NodeUuidFrom (fieldOf payload "node_uuid") report.nodeUuid
  onboarded : FlagFrom (fieldOf payload "onboarded") report.onboarded
  summary : fieldOf payload "app_instance_summary" = .null ∧ report.summary = none ∨
    ∃ summary, report.summary = some summary ∧
      SummaryReport.IsFrom (fieldOf payload "app_instance_summary") summary

/-- The status of onboarding stems from its fields. -/
structure OnboardingReport.IsFrom (payload : Value) (report : OnboardingReport) : Prop where
  deviceUuid : UuidFrom (fieldOf payload "DeviceUUID") report.deviceUuid
  hardwareModel : TextFrom (fieldOf payload "HardwareModel") report.hardwareModel

/-! ## Messages that keep to the kinds -/

/-- The identifier of an application is a text, and its flag is one or null. -/
def AppKeepsKinds (payload : Value) : Prop :=
  IsText (fieldOf (fieldOf payload "UUIDandVersion") "UUID") ∧
    IsFlagOrNull (fieldOf payload "Activated")

/-- The flags of a port are flags or null, its hardware address is a text or null, and its subnet
keeps to its kinds. -/
def PortKeepsKinds (payload : Value) : Prop :=
  IsFlagOrNull (fieldOf payload "IsMgmt") ∧ IsFlagOrNull (fieldOf payload "Up") ∧
    SubnetKeepsKinds (portSubnet (fieldsOf payload)) ∧
    IsTextOrNull (fieldOf payload "MacAddr")

/-- The fields that take values of other kinds as well have values of their own kinds. -/
def ObjectKind.KeepsKinds : ObjectKind → Value → Prop
  | .app, payload => AppKeepsKinds payload
  | .appList, payload => ∀ item ∈ itemsOf (fieldOf payload "apps"), AppKeepsKinds item
  | .port, payload => PortKeepsKinds payload
  | .network, payload => ∀ item ∈ itemsOf (fieldOf payload "Ports"), PortKeepsKinds item
  | .vault, payload =>
    IsFlagOrNull (fieldOf payload "ConversionComplete") ∧
      ∀ item ∈ itemsOf (fieldOf payload "MismatchingPCRs"), IsInteger item
  | .node, payload =>
    IsTextOrNull (fieldOf payload "server") ∧ IsTextOrNull (fieldOf payload "node_uuid") ∧
      IsFlagOrNull (fieldOf payload "onboarded")
  | .onboarding, payload => IsText (fieldOf payload "DeviceUUID")
  | .identity, payload => IsText (fieldOf payload "UUID")
  | .subnet, payload => SubnetKeepsKinds payload
  | .download, _ | .summary, _ | .address, _ | .error, _ => True

/-- What is read of an object stems from its fields. -/
def ObjectKind.IsFrom : (kind : ObjectKind) → Value → kind.Result → Prop
  | .app => AppStatus.IsFrom
  | .appList => AppList.IsFrom
  | .port => PortStatus.IsFrom
  | .network => NetworkStatus.IsFrom
  | .vault => VaultReport.IsFrom
  | .download => DownloadStatus.IsFrom
  | .summary => SummaryReport.IsFrom
  | .node => NodeReport.IsFrom
  | .onboarding => OnboardingReport.IsFrom
  | .identity => fun payload result =>
    UuidFrom (fieldOf payload "UUID") result.1 ∧ TextFrom (fieldOf payload "Version") result.2
  | .address => fun payload => AddressFrom (fieldOf payload "Addr")
  | .subnet => SubnetFrom
  | .error => ErrorDescription.IsFrom

/-! ## What is read of messages -/

theorem errorDescription_from (fields : Fields) :
    (errorDescription fields).Gives (ErrorDescription.IsFrom (.object fields)) := by
  unfold errorDescription
  refine gives_bind fun error readError => ?_
  refine gives_bind fun time readTime => ?_
  refine gives_bind fun severity readSeverity => gives_pure ?_
  exact ⟨textField_from _ _ _ readError, timeField_from _ _ _ readTime,
    codedState_from _ _ _ readSeverity⟩

/-- The version of an application stems from its field; its identifier does if that is a text. -/
theorem appIdentity_from (found : Value) :
    (appIdentity found).Gives fun identity =>
      (UuidFrom (fieldOf found "UUID") identity.1 ↔ IsText (fieldOf found "UUID")) ∧
        TextFrom (fieldOf found "Version") identity.2 := by
  cases found with
  | object fields =>
    simp only [appIdentity, objectFields, pure_bind, fieldOf, fieldsOf]
    cases present : Fields.get? fields "UUID" with
    | none => exact gives_refuse _
    | some written =>
      have isWritten : fieldOrNull fields "UUID" = written := by rw [fieldOrNull, present]; rfl
      rw [isWritten]
      refine gives_bind fun uuid readUuid => ?_
      refine gives_bind fun version readVersion => gives_pure ?_
      exact ⟨uuidOf_from_iff _ _ _ readUuid, textField_from _ _ _ readVersion⟩
  | _ => exact gives_refuse _

theorem appStatus_isFrom_iff (payload : Value) :
    (appStatus payload).Gives fun status => status.IsFrom payload ↔ AppKeepsKinds payload := by
  cases payload with
  | object fields =>
    rw [appStatus_object]
    refine gives_bind fun identity readIdentity => ?_
    obtain ⟨uuid, version⟩ := appIdentity_from _ _ readIdentity
    refine gives_bind fun displayName readName => ?_
    refine gives_bind fun state readState => ?_
    refine gives_bind fun error readError => ?_
    refine gives_bind fun bootTime readBootTime => gives_pure ?_
    have activated := flagField_from_iff fields "Activated"
    constructor
    · intro stems
      exact ⟨uuid.mp stems.uuid, activated.mp stems.activated⟩
    · rintro ⟨isText, isFlag⟩
      exact ⟨uuid.mpr isText, version, textField_from _ _ _ readName,
        codedState_from _ _ _ readState, errorDescription_from _ _ readError,
        activated.mpr isFlag, timeField_from _ _ _ readBootTime⟩
  | _ => exact gives_refuse _

theorem appList_isFrom_iff (payload : Value) :
    (appList payload).Gives fun list =>
      list.IsFrom payload ↔ ObjectKind.appList.KeepsKinds payload := by
  cases payload with
  | object fields =>
    simp only [appList, objectFields, pure_bind, AppList.IsFrom, ObjectKind.KeepsKinds, fieldOf,
      fieldsOf]
    cases fieldOrNull fields "apps" with
    | null => exact gives_pure (iff_of_true (.inl ⟨rfl, rfl⟩) (List.forall_mem_nil _))
    | list found =>
      refine gives_bind fun apps readApps => gives_pure ?_
      simpa [itemsOf] using gives_each_iff appStatus_isFrom_iff found apps readApps
    | _ => exact gives_refuse _
  | _ => exact gives_refuse _

theorem portAddress_from (entry : Value) :
    (portAddress entry).Gives (AddressFrom (fieldOf entry "Addr")) := by
  cases entry with
  | object fields => exact fun address read => addressOf_from _ _ address read
  | _ => exact gives_refuse _

/-- The addresses of a port stem from the items of their list. -/
theorem portAddresses_from (found : Value) :
    (portAddresses found).Gives
      (List.Forall₂ (fun entry => AddressFrom (fieldOf entry "Addr")) (itemsOf found)) := by
  cases found with
  | null => exact gives_pure .nil
  | list entries =>
    intro addresses read
    have each (entry : Value) : (portAddress entry).Gives fun address =>
        AddressFrom (fieldOf entry "Addr") address ↔ True := by
      intro address readAddress
      exact iff_true_intro (portAddress_from entry address readAddress)
    exact (gives_each_iff each entries addresses read).mpr fun _ _ => trivial
  | _ => exact gives_refuse _

theorem portStatus_isFrom_iff (payload : Value) :
    (portStatus payload).Gives fun status => status.IsFrom payload ↔ PortKeepsKinds payload := by
  cases payload with
  | object fields =>
    rw [portStatus_object]
    unfold portStatusAround portStatusAfter
    refine gives_bind fun addresses readAddresses => ?_
    refine gives_bind fun name readName => ?_
    refine gives_bind fun dhcp readDhcp => ?_
    refine gives_bind fun subnet readSubnet => ?_
    refine gives_bind fun dnsServers readDnsServers => ?_
    refine gives_bind fun mac readMac => ?_
    refine gives_bind fun routers readRouters => ?_
    refine gives_bind fun mtu readMtu => ?_
    refine gives_bind fun lastError readLastError => gives_pure ?_
    have isManagement := flagField_from_iff fields "IsMgmt"
    have isUp := flagField_from_iff fields "Up"
    have subnetIff := subnet_from_iff _ _ readSubnet
    have macIff := hardwareAddress_from_iff _ _ readMac
    constructor
    · intro stems
      exact ⟨isManagement.mp stems.isManagement, isUp.mp stems.isUp, subnetIff.mp stems.subnet,
        macIff.mp stems.mac⟩
    · rintro ⟨managementIsFlag, upIsFlag, subnetKeeps, macIsText⟩
      exact ⟨textField_from _ _ _ readName, isManagement.mpr managementIsFlag,
        codedState_from _ _ _ readDhcp, isUp.mpr upIsFlag, subnetIff.mpr subnetKeeps,
        addressListField_from _ _ _ readDnsServers, portAddresses_from _ _ readAddresses,
        macIff.mpr macIsText, addressListField_from _ _ _ readRouters,
        integerField_from _ _ _ readMtu, textField_from _ _ _ readLastError⟩
  | _ => exact gives_refuse _

theorem networkStatus_isFrom_iff (payload : Value) :
    (networkStatus payload).Gives fun status =>
      status.IsFrom payload ↔ ObjectKind.network.KeepsKinds payload := by
  cases payload with
  | object fields =>
    simp only [networkStatus, objectFields, pure_bind, ObjectKind.KeepsKinds, fieldOf, fieldsOf]
    cases ports : fieldOrNull fields "Ports" with
    | null =>
      refine gives_bind fun key readKey => gives_pure ?_
      refine iff_of_true ⟨textField_from _ _ _ readKey, .inl ⟨ports, rfl⟩⟩ (List.forall_mem_nil _)
    | list found =>
      refine gives_bind fun key readKey => ?_
      refine gives_bind fun statuses readPorts => gives_pure ?_
      have each := gives_each_iff portStatus_isFrom_iff found statuses readPorts
      refine ⟨fun stems => each.mp ?_, fun keeps => ⟨textField_from _ _ _ readKey, ?_⟩⟩
      · obtain ⟨null, -⟩ | ⟨items, results, isList, made, stems⟩ := stems.ports
        · cases ports.symm.trans null
        · cases ports.symm.trans isList
          cases made
          exact stems
      · exact .inr ⟨found, statuses, ports, rfl, each.mpr keeps⟩
    | _ => exact gives_refuse _
  | _ => exact gives_refuse _

theorem vaultReport_isFrom_iff (payload : Value) :
    (vaultReport payload).Gives fun report =>
      report.IsFrom payload ↔ ObjectKind.vault.KeepsKinds payload := by
  cases payload with
  | object fields =>
    rw [vaultReport_object]
    refine gives_bind fun mismatches readMismatches => ?_
    refine gives_bind fun name readName => ?_
    refine gives_bind fun status readStatus => ?_
    refine gives_bind fun registerUse readRegisterUse => ?_
    refine gives_bind fun error readError => gives_pure ?_
    have complete := flagField_from_iff fields "ConversionComplete"
    have registers := vaultRegisters_from_iff _ _ readMismatches
    constructor
    · intro stems
      exact ⟨complete.mp stems.conversionComplete, registers.mp stems.mismatches⟩
    · rintro ⟨isFlag, areIntegers⟩
      exact ⟨textField_from _ _ _ readName, codedState_from _ _ _ readStatus,
        codedState_from _ _ _ readRegisterUse, complete.mpr isFlag, registers.mpr areIntegers,
        errorDescription_from _ _ readError⟩
  | _ => exact gives_refuse _

theorem downloadState_from (found : Value) :
    (downloadState found).Gives fun state => IntegerFrom found state.number := by
  unfold downloadState
  split
  · exact gives_pure (.inl ⟨rfl, rfl⟩)
  · exact codedState_from SoftwareState found

theorem downloadStatus_isFrom (payload : Value) :
    (downloadStatus payload).Gives (DownloadStatus.IsFrom payload) := by
  cases payload with
  | object fields =>
    rw [downloadStatus_object]
    refine gives_bind fun name readName => ?_
    refine gives_bind fun imageSha256 readImageSha256 => ?_
    refine gives_bind fun state readState => ?_
    refine gives_bind fun progress readProgress => ?_
    refine gives_bind fun totalSize readTotalSize => ?_
    refine gives_bind fun currentSize readCurrentSize => ?_
    refine gives_bind fun lastUse readLastUse => ?_
    refine gives_bind fun modTime readModTime => ?_
    refine gives_bind fun error readError => gives_pure ?_
    exact ⟨textField_from _ _ _ readName, textField_from _ _ _ readImageSha256,
      downloadState_from _ _ readState, integerField_from _ _ _ readProgress,
      integerField_from _ _ _ readTotalSize, integerField_from _ _ _ readCurrentSize,
      timeField_from _ _ _ readLastUse, timeField_from _ _ _ readModTime,
      errorDescription_from _ _ readError⟩
  | _ => exact gives_refuse _

theorem summaryReport_isFrom (payload : Value) :
    (summaryReport payload).Gives (SummaryReport.IsFrom payload) := by
  cases payload with
  | object fields =>
    refine gives_bind fun found readFields => ?_
    cases readFields
    refine gives_bind fun starting readStarting => ?_
    refine gives_bind fun running readRunning => ?_
    refine gives_bind fun stopping readStopping => ?_
    refine gives_bind fun error readError => gives_pure ?_
    exact ⟨integerField_from _ _ _ readStarting, integerField_from _ _ _ readRunning,
      integerField_from _ _ _ readStopping, integerField_from _ _ _ readError⟩
  | _ => exact gives_refuse _

theorem nodeSummary_from (found : Value) :
    (nodeSummary found).Gives fun result => found = .null ∧ result = none ∨
      ∃ summary, result = some summary ∧ SummaryReport.IsFrom found summary := by
  unfold nodeSummary
  split
  · exact gives_pure (.inl ⟨rfl, rfl⟩)
  · exact gives_map fun summary read => .inr ⟨summary, rfl, summaryReport_isFrom _ _ read⟩

theorem nodeReport_isFrom_iff (payload : Value) :
    (nodeReport payload).Gives fun report =>
      report.IsFrom payload ↔ ObjectKind.node.KeepsKinds payload := by
  cases payload with
  | object fields =>
    rw [nodeReport_object]
    refine gives_bind fun uuid readUuid => ?_
    refine gives_bind fun summary readSummary => gives_pure ?_
    have server := server_from_iff (fieldOrNull fields "server")
    have nodeUuid := nodeUuid_from_iff _ _ readUuid
    have onboarded := flagField_from_iff fields "onboarded"
    constructor
    · intro stems
      exact ⟨server.mp stems.server, nodeUuid.mp stems.nodeUuid, onboarded.mp stems.onboarded⟩
    · rintro ⟨serverIsText, uuidIsText, isFlag⟩
      exact ⟨server.mpr serverIsText, nodeUuid.mpr uuidIsText, onboarded.mpr isFlag,
        nodeSummary_from _ _ readSummary⟩
  | _ => exact gives_refuse _

theorem onboardingReport_isFrom_iff (payload : Value) :
    (onboardingReport payload).Gives fun report =>
      report.IsFrom payload ↔ ObjectKind.onboarding.KeepsKinds payload := by
  cases payload with
  | object fields =>
    simp only [onboardingReport, objectFields, pure_bind]
    split
    · refine gives_bind fun uuid readUuid => ?_
      refine gives_bind fun model readModel => gives_pure ?_
      have deviceUuid := uuidOf_from_iff _ _ _ readUuid
      exact ⟨fun stems => deviceUuid.mp stems.deviceUuid,
        fun isText => ⟨deviceUuid.mpr isText, textField_from _ _ _ readModel⟩⟩
    · exact gives_refuse _
  | _ => exact gives_refuse _

/-- Every field of a message that is read is the zero value of its kind, for a field that is absent,
null or empty, or stems from a value of that kind, exactly when the flags of the message are flags,
its registers integers, and its server, its identifiers, its hardware address and the parts of its
subnet texts, each unless it is absent. -/
theorem ObjectKind.isFrom_iff (kind : ObjectKind) (payload : Value) :
    (kind.read payload).Gives fun result =>
      kind.IsFrom payload result ↔ kind.KeepsKinds payload := by
  cases kind with
  | app => exact appStatus_isFrom_iff payload
  | appList => exact appList_isFrom_iff payload
  | port => exact portStatus_isFrom_iff payload
  | network => exact networkStatus_isFrom_iff payload
  | vault => exact vaultReport_isFrom_iff payload
  | download =>
    exact fun status read => iff_true_intro (downloadStatus_isFrom payload status read)
  | summary => exact fun report read => iff_true_intro (summaryReport_isFrom payload report read)
  | node => exact nodeReport_isFrom_iff payload
  | onboarding => exact onboardingReport_isFrom_iff payload
  | identity =>
    intro identity read
    obtain ⟨uuid, version⟩ := appIdentity_from payload identity read
    exact ⟨fun stems => uuid.mp stems.1, fun isText => ⟨uuid.mpr isText, version⟩⟩
  | address => exact fun address read => iff_true_intro (portAddress_from payload address read)
  | subnet => exact subnet_from_iff payload
  | error =>
    intro description read
    cases payload with
    | object fields => exact iff_true_intro (errorDescription_from fields description read)
    | _ => cases read

/-- A vault with a flag and with an integer for a register is strict. -/
theorem ObjectKind.isFrom_vault :
    ∃ report,
      (vaultReport (.object [("ConversionComplete", .bool true),
        ("MismatchingPCRs", .list [.integer 7])])).outcome = .ok report ∧
      report.IsFrom (.object [("ConversionComplete", .bool true),
        ("MismatchingPCRs", .list [.integer 7])]) := by
  refine ⟨_, rfl, (ObjectKind.isFrom_iff .vault _ _ rfl).mpr ⟨.inr ⟨true, rfl⟩, ?_⟩⟩
  exact List.forall_mem_singleton.mpr ⟨7, rfl⟩

/-- A flag is read as a register. -/
theorem vaultReport_flag_not_strict :
    ∃ report,
      (vaultReport (.object [("MismatchingPCRs", .list [.bool true])])).outcome = .ok report ∧
      ¬report.IsFrom (.object [("MismatchingPCRs", .list [.bool true])]) := by
  refine ⟨_, rfl, fun stems => ?_⟩
  obtain ⟨null, -⟩ | ⟨items, registers, isList, made, each⟩ := stems.mismatches
  · cases null
  · cases isList
    cases made
    obtain _ | ⟨⟨number, isInteger, -⟩, -⟩ := each
    cases isInteger

end NodeConsole.Wire
