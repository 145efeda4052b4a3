import NodeConsole.Proofs.Json.Integers
import NodeConsole.Proofs.Wire.Agreement
import NodeConsole.Proofs.Wire.Containment

/-!
# Objects in messages

A message is an object with other objects as its fields and as the items of its lists. Each kind of
object is read by itself, from the fields its reader names, and what is read of it goes into what is
read of the object around it.
-/

namespace NodeConsole

namespace Fields

/-- The fields of an object but for one. -/
def without (fields : Fields) (name : String) : Fields :=
  fields.filter (·.1 ≠ name)

variable (fields : Fields) (name other : String) (value : Value)

theorem has_eq_isSome : fields.has name = (fields.get? name).isSome := by
  unfold has get?
  rw [Option.isSome_map, List.isSome_find?]

theorem get?_set :
    (fields.set name value).get? other =
      if other = name then some value else fields.get? other := by
  unfold get?
  rw [set_eq_put, find?_put]
  split <;> rfl

theorem has_set :
    (fields.set name value).has other = (decide (other = name) || fields.has other) := by
  rw [has_eq_isSome, has_eq_isSome, get?_set]
  by_cases same : other = name <;> simp [same]

/-- A field that is removed is gone, every other field has the value it had. -/
theorem get?_without :
    (fields.without name).get? other = if other = name then none else fields.get? other := by
  unfold get? without
  rw [List.find?_filter]
  split
  · next same =>
    have nowhere : fields.find? (fun field => decide (decide (field.1 ≠ name) = true ∧
        decide (field.1 = other) = true)) = none := by
      rw [List.find?_eq_none]
      simp [same]
    rw [nowhere]
    rfl
  · next distinct =>
    congr 2
    funext field
    by_cases here : field.1 = other <;> simp [here, distinct]

theorem has_without :
    (fields.without name).has other = (decide (other ≠ name) && fields.has other) := by
  rw [has_eq_isSome, has_eq_isSome, get?_without]
  by_cases same : other = name <;> simp [same]

end Fields

namespace Wire

open NodeConsole.Net

section Values

variable (fields : Fields) (name other : String) (value : Value)

theorem fieldOrNull_set :
    fieldOrNull (fields.set name value) other =
      if other = name then value else fieldOrNull fields other := by
  unfold fieldOrNull
  rw [Fields.get?_set]
  split <;> rfl

theorem fieldOrNull_without :
    fieldOrNull (fields.without name) other =
      if other = name then .null else fieldOrNull fields other := by
  unfold fieldOrNull
  rw [Fields.get?_without]
  split <;> rfl

theorem get?_eq_fieldOrNull :
    fields.get? name = if fields.has name then some (fieldOrNull fields name) else none := by
  rw [Fields.has_eq_isSome]
  unfold fieldOrNull
  cases fields.get? name <;> rfl

end Values

/-! ## Kinds of objects -/

/-- The kinds of objects: the nine messages, the three kinds that are only parts of others, and the
error whose fields stand among those of a message. -/
inductive ObjectKind where
  | app | appList | port | network | vault | download | summary | node | onboarding
  | identity | address | subnet | error
  deriving DecidableEq, Repr

namespace ObjectKind

/-- The fields of an error, which stand among those of the object that has it. -/
def errorNames : List String :=
  ["Error", "ErrorTime", "ErrorSeverity"]

/-- The fields that the reader of an object names. -/
def names : ObjectKind → List String
  | app => ["UUIDandVersion", "DisplayName", "State", "Activated", "BootTime"] ++ errorNames
  | appList => ["apps"]
  | port =>
    ["IfName", "IsMgmt", "Dhcp", "Up", "IPv4Subnet", "Subnet", "DNSServers", "AddrInfoList",
     "MacAddr", "DefaultRouters", "MTU", "LastError"]
  | network => ["DPCKey", "Ports"]
  | vault => ["Name", "Status", "PCRStatus", "ConversionComplete", "MismatchingPCRs"] ++ errorNames
  | download =>
    ["Name", "ImageSha256", "State", "Progress", "TotalSize", "CurrentSize", "LastUse",
     "ModTime"] ++ errorNames
  | summary => ["TotalStarting", "TotalRunning", "TotalStopping", "TotalError"]
  | node => ["server", "node_uuid", "onboarded", "app_instance_summary"]
  | onboarding => ["DeviceUUID", "HardwareModel"]
  | identity => ["UUID", "Version"]
  | address => ["Addr"]
  | subnet => ["IP", "Mask"]
  | error => errorNames

/-- The fields of which it matters whether they are there, whatever their value. -/
def namesTested : ObjectKind → List String
  | identity => ["UUID"]
  | port => ["IPv4Subnet"]
  | _ => []

theorem names_of_tested {kind : ObjectKind} {name : String} (tested : name ∈ kind.namesTested) :
    name ∈ kind.names := by
  cases kind <;> simp only [namesTested, List.mem_singleton, List.not_mem_nil] at tested <;>
    simp [names, tested]

/-- What is read of an object. -/
abbrev Result : ObjectKind → Type
  | app => AppStatus
  | appList => AppList
  | port => PortStatus
  | network => NetworkStatus
  | vault => VaultReport
  | download => DownloadStatus
  | summary => SummaryReport
  | node => NodeReport
  | onboarding => OnboardingReport
  | identity => Uuid × String
  | address => Address
  | subnet => Option Network
  | error => ErrorDescription

end ObjectKind

/-- Reads the identity of an application and its version. -/
def appIdentity (found : Value) : Reading (Uuid × String) := do
  let fields : Fields ← match found with
    | .null => pure []
    | found => objectFields "UUIDandVersion" found
  let written ← match fields.get? "UUID" with
    | some written => pure written
    | none => .refuse .missingAppUuid
  let uuid ← uuidOf written "UUIDandVersion.UUID"
  let version ← textField fields "Version"
  pure (uuid, version)

/-- Reads the status of an application whose identity is known. -/
def appStatusAfter (fields : Fields) (identity : Uuid × String) : Reading AppStatus := do
  let displayName ← textField fields "DisplayName"
  let state ← codedState SoftwareState (fieldOrNull fields "State")
  let error ← errorDescription fields
  let bootTime ← timeField fields "BootTime"
  pure ⟨identity.1, identity.2, displayName, state, error, flagField fields "Activated", bootTime⟩

theorem appStatusAfter_congr {first second : Fields}
    (same : ∀ name ∈ ["DisplayName", "State", "Activated", "BootTime"] ++ ObjectKind.errorNames,
      fieldOrNull first name = fieldOrNull second name) :
    appStatusAfter first = appStatusAfter second := by
  simp only [ObjectKind.errorNames, List.cons_append, List.nil_append, List.forall_mem_cons] at same
  funext identity
  simp only [appStatusAfter, textField, flagField, timeField, errorDescription, same]

/-- The status of an application is read after its identity. -/
theorem appStatus_object (fields : Fields) :
    appStatus (.object fields) =
      appIdentity (fieldOrNull fields "UUIDandVersion") >>= appStatusAfter fields := by
  unfold appStatus appIdentity appStatusAfter
  simp only [objectFields, pure_bind]
  cases fieldOrNull fields "UUIDandVersion" with
  | object identity =>
    simp only [pure_bind]
    cases Fields.get? identity "UUID" <;> simp only [pure_bind, bind_assoc, Reading.refuse_bind]
  | _ => rfl

/-- Reads the addresses of a port. -/
def portAddresses : Value → Reading (List Address)
  | .null => pure []
  | .list entries => Reading.each portAddress entries
  | _ => .refuse .addressesNotList

/-- Reads the status of a port after its subnet. -/
def portStatusAfter (fields : Fields) (addresses : List Address) (name : String)
    (dhcp : Coded DhcpMode) (subnet : Option Network) : Reading PortStatus := do
  let dnsServers ← addressListField fields "DNSServers"
  let mac ← hardwareAddress (fieldOrNull fields "MacAddr")
  let routers ← addressListField fields "DefaultRouters"
  let mtu ← integerField fields "MTU"
  let lastError ← textField fields "LastError"
  pure ⟨name, flagField fields "IsMgmt", dhcp, flagField fields "Up", subnet, dnsServers, addresses,
    mac, routers, mtu, lastError⟩

/-- Reads the status of a port around its addresses and its subnet. -/
def portStatusAround (fields : Fields) (addresses : Reading (List Address))
    (subnet : Reading (Option Network)) : Reading PortStatus := do
  let addresses ← addresses
  let name ← textField fields "IfName"
  let dhcp ← codedState DhcpMode (fieldOrNull fields "Dhcp")
  let subnet ← subnet
  portStatusAfter fields addresses name dhcp subnet

/-- The fields of a port but for its addresses and its subnet. -/
def portNamesAround : List String :=
  ["IfName", "IsMgmt", "Dhcp", "Up", "DNSServers", "MacAddr", "DefaultRouters", "MTU", "LastError"]

theorem portStatusAround_congr {first second : Fields}
    (same : ∀ name ∈ portNamesAround, fieldOrNull first name = fieldOrNull second name) :
    portStatusAround first = portStatusAround second := by
  simp only [portNamesAround, List.forall_mem_cons] at same
  funext addresses subnet
  simp only [portStatusAround, portStatusAfter, textField, flagField, integerField,
    addressListField, same]

theorem portStatusAround_set {fields : Fields} {name : String} (apart : name ∉ portNamesAround)
    (value : Value) : portStatusAround (fields.set name value) = portStatusAround fields := by
  refine portStatusAround_congr fun other member => ?_
  rw [fieldOrNull_set, if_neg (ne_of_mem_of_not_mem member apart)]

theorem portStatus_object (fields : Fields) :
    portStatus (.object fields) =
      portStatusAround fields (portAddresses (fieldOrNull fields "AddrInfoList"))
        (subnet (portSubnet fields)) := by
  unfold portStatus portStatusAround portAddresses portSubnet portStatusAfter
  simp only [objectFields, pure_bind]
  cases fieldOrNull fields "AddrInfoList" <;> rfl

/-- Reads the registers of the vault. -/
def vaultRegisters : Value → Reading (Option (List Register))
  | .null => pure none
  | .list found =>
    match found.mapM Register.ofValue? with
    | some registers => pure (some registers)
    | none => .refuse .registersNotIntegers
  | _ => .refuse .registersNotIntegers

/-- The status of the vault is its registers with five other fields. -/
theorem vaultReport_object (fields : Fields) :
    vaultReport (.object fields) = (do
      let mismatches ← vaultRegisters (fieldOrNull fields "MismatchingPCRs")
      let name ← textField fields "Name"
      let status ← codedState DataProtection (fieldOrNull fields "Status")
      let registerUse ← codedState RegisterUse (fieldOrNull fields "PCRStatus")
      let error ← errorDescription fields
      pure ⟨name, status, registerUse, flagField fields "ConversionComplete", mismatches,
        error⟩) := by
  unfold vaultReport vaultRegisters
  simp only [objectFields, pure_bind]
  cases fieldOrNull fields "MismatchingPCRs" with
  | list found =>
    dsimp only
    cases found.mapM Register.ofValue? <;> rfl
  | _ => rfl

/-- Reads the state of a download; null is the number zero. -/
def downloadState : Value → Reading (Coded SoftwareState)
  | .null => pure (.other 0)
  | found => codedState SoftwareState found

theorem downloadStatus_object (fields : Fields) :
    downloadStatus (.object fields) = (do
      let name ← textField fields "Name"
      let imageSha256 ← textField fields "ImageSha256"
      let state ← downloadState (fieldOrNull fields "State")
      let progress ← integerField fields "Progress"
      let totalSize ← integerField fields "TotalSize"
      let currentSize ← integerField fields "CurrentSize"
      let lastUse ← timeField fields "LastUse"
      let modTime ← timeField fields "ModTime"
      let error ← errorDescription fields
      pure ⟨name, imageSha256, state, progress, totalSize, currentSize, lastUse, modTime,
        error⟩) := by
  unfold downloadStatus downloadState
  simp only [objectFields, pure_bind]
  cases fieldOrNull fields "State" <;> rfl

/-- Reads the identifier of a node; a zero one counts as absent. -/
def nodeUuid (written : Value) : Reading (Option Uuid) :=
  if written.isTruthy && written.display ≠ Uuid.nilText then some <$> uuidOf written "node_uuid"
  else pure none

/-- Reads the summary of a node, if it has one. -/
def nodeSummary : Value → Reading (Option SummaryReport)
  | .null => pure none
  | found => some <$> summaryReport found

/-- The status of a node is its summary with three fields. -/
theorem nodeReport_object (fields : Fields) :
    nodeReport (.object fields) = (do
      let nodeUuid ← nodeUuid (fieldOrNull fields "node_uuid")
      let summary ← nodeSummary (fieldOrNull fields "app_instance_summary")
      let server := fieldOrNull fields "server"
      pure ⟨if server.isTruthy then some server.display else none, nodeUuid,
        flagField fields "onboarded", summary⟩) := by
  unfold nodeReport nodeUuid nodeSummary
  simp only [objectFields, pure_bind, bind_pure_comp]
  split <;> cases fieldOrNull fields "app_instance_summary" <;> simp

/-- Reads an object of a kind. -/
def ObjectKind.read : (kind : ObjectKind) → Value → Reading kind.Result
  | .app => appStatus
  | .appList => Wire.appList
  | .port => portStatus
  | .network => networkStatus
  | .vault => vaultReport
  | .download => downloadStatus
  | .summary => summaryReport
  | .node => nodeReport
  | .onboarding => onboardingReport
  | .identity => appIdentity
  | .address => portAddress
  | .subnet => Wire.subnet
  | .error => errorValue

/-- What is read of an object depends on the values of the fields that its reader names, and for few
of them on their being there. -/
theorem ObjectKind.read_congr (kind : ObjectKind) {first second : Fields}
    (values : ∀ name ∈ kind.names, fieldOrNull first name = fieldOrNull second name)
    (presence : ∀ name ∈ kind.namesTested, first.has name = second.has name) :
    kind.read (.object first) = kind.read (.object second) := by
  cases kind <;>
    simp only [names, errorNames, namesTested, List.cons_append, List.nil_append,
      List.forall_mem_cons, List.not_mem_nil, false_imp_iff, implies_true, and_true]
      at values presence
  case app =>
    have after : appStatusAfter first = appStatusAfter second :=
      appStatusAfter_congr (by simp [errorNames, values])
    simp only [read, appStatus_object, values, after]
  case appList => simp only [read, Wire.appList, objectFields, pure_bind, values]
  case port =>
    have around : portStatusAround first = portStatusAround second :=
      portStatusAround_congr (by simp [portNamesAround, values])
    have sameSubnet : portSubnet first = portSubnet second := by
      unfold portSubnet
      rw [presence]
      split <;> simp only [values]
    simp only [read, portStatus_object, values, around, sameSubnet]
  case network => simp only [read, networkStatus, objectFields, pure_bind, textField, values]
  case vault =>
    simp only [read, vaultReport_object, textField, flagField, timeField, errorDescription, values]
  case download =>
    simp only [read, downloadStatus_object, textField, integerField, timeField, errorDescription,
      values]
  case summary => simp only [read, summaryReport, objectFields, pure_bind, integerField, values]
  case node => simp only [read, nodeReport_object, flagField, values]
  case onboarding => simp only [read, onboardingReport, objectFields, pure_bind, textField, values]
  case identity =>
    simp only [read, appIdentity, objectFields, pure_bind, textField, get?_eq_fieldOrNull, values,
      presence]
  case address => simp only [read, portAddress, objectFields, pure_bind, values]
  case subnet => simp only [read, Wire.subnet, objectFields, pure_bind, values]
  case error => simp only [read, errorValue, errorDescription, textField, timeField, values]

/-! ## Objects around objects -/

/-- The fields of an object that are objects. -/
inductive HasPart : ObjectKind → String → ObjectKind → Prop
  | identity : HasPart .app "UUIDandVersion" .identity
  | subnet : HasPart .port "Subnet" .subnet
  | newerSubnet : HasPart .port "IPv4Subnet" .subnet
  | summary : HasPart .node "app_instance_summary" .summary

/-- The fields of an object that are lists of objects. -/
inductive HasParts : ObjectKind → String → ObjectKind → Prop
  | apps : HasParts .appList "apps" .app
  | addresses : HasParts .port "AddrInfoList" .address
  | ports : HasParts .network "Ports" .port

/-- `HoldsObject inner fields outer outside rebuild` says that an object of the kind `outer` with
the fields `outside` holds an object of the kind `inner` with `fields`, or is that object, and that
`rebuild` puts other fields in the place of `fields`. -/
inductive HoldsObject (inner : ObjectKind) (fields : Fields) :
    ObjectKind → Fields → (Fields → Fields) → Prop
  | whole : HoldsObject inner fields inner fields fun changed => changed
  | part {outer kind : ObjectKind} {name : String} {outside found : Fields}
      {rebuild : Fields → Fields} (hasPart : HasPart outer name kind)
      (present : outside.get? name = some (.object found))
      (inside : HoldsObject inner fields kind found rebuild) :
      HoldsObject inner fields outer outside fun changed =>
        outside.set name (.object (rebuild changed))
  | item {outer kind : ObjectKind} {name : String} {outside found : Fields}
      {before after : List Value} {rebuild : Fields → Fields} (hasParts : HasParts outer name kind)
      (present : outside.get? name = some (.list (before ++ .object found :: after)))
      (inside : HoldsObject inner fields kind found rebuild) :
      HoldsObject inner fields outer outside fun changed =>
        outside.set name (.list (before ++ .object (rebuild changed) :: after))

/-- Readings that end alike make what they are carried into end alike. -/
def Reading.Carries {α β : Type} (context : Reading α → Reading β) : Prop :=
  ∀ first second, first.EndAlike second → (context first).EndAlike (context second)

theorem portStatusAround_carries (fields : Fields) (addresses : Reading (List Address)) :
    Reading.Carries (portStatusAround fields addresses) :=
  fun _ _ alike => .after _ fun _ => .after _ fun _ => .after _ fun _ => alike.bind _

variable {inner outer kind : ObjectKind} {name : String} {fields outside : Fields}
  {rebuild : Fields → Fields}

/-- What is read of a part is carried into what is read of the whole. -/
theorem HasPart.exists_context (hasPart : HasPart outer name kind) (outside : Fields) :
    ∃ context : Reading kind.Result → Reading outer.Result, Reading.Carries context ∧
      ∀ found, outer.read (.object (outside.set name (.object found))) =
        context (kind.read (.object found)) := by
  cases hasPart with
  | identity =>
    refine ⟨fun reading => reading >>= appStatusAfter outside, ?_, ?_⟩
    · exact fun first second alike => alike.bind _
    · intro found
      have after : appStatusAfter (outside.set "UUIDandVersion" (.object found)) =
          appStatusAfter outside :=
        appStatusAfter_congr (by simp [ObjectKind.errorNames, fieldOrNull_set])
      simp only [ObjectKind.read, appStatus_object, fieldOrNull_set, ↓reduceIte, after]
  | subnet =>
    have apart : "Subnet" ∉ portNamesAround := by decide
    by_cases newer : outside.has "IPv4Subnet"
    · refine ⟨fun _ => portStatus (.object outside), ?_, ?_⟩
      · exact fun _ _ _ => .inl rfl
      · intro found
        simp [ObjectKind.read, portStatus_object, portSubnet, Fields.has_set, fieldOrNull_set,
          portStatusAround_set apart, newer]
    · refine ⟨_, portStatusAround_carries outside
        (portAddresses (fieldOrNull outside "AddrInfoList")), ?_⟩
      intro found
      simp [ObjectKind.read, portStatus_object, portSubnet, Fields.has_set, fieldOrNull_set,
        portStatusAround_set apart, newer]
  | newerSubnet =>
    have apart : "IPv4Subnet" ∉ portNamesAround := by decide
    refine ⟨_, portStatusAround_carries outside
      (portAddresses (fieldOrNull outside "AddrInfoList")), ?_⟩
    intro found
    simp [ObjectKind.read, portStatus_object, portSubnet, Fields.has_set, fieldOrNull_set,
      portStatusAround_set apart]
  | summary =>
    refine ⟨fun reading => do
      let nodeUuid ← nodeUuid (fieldOrNull outside "node_uuid")
      let summary ← some <$> reading
      let server := fieldOrNull outside "server"
      pure ⟨if server.isTruthy then some server.display else none, nodeUuid,
        flagField outside "onboarded", summary⟩, ?_, ?_⟩
    · exact fun first second alike => .after _ fun _ => (alike.map _).bind _
    · intro found
      simp [ObjectKind.read, nodeReport_object, nodeSummary, fieldOrNull_set, flagField]

/-- What is read of an item is carried into what is read of the object with the list. -/
theorem HasParts.exists_context (hasParts : HasParts outer name kind) (outside : Fields)
    (before after : List Value) :
    ∃ context : Reading kind.Result → Reading outer.Result, Reading.Carries context ∧
      ∀ found,
        outer.read (.object (outside.set name (.list (before ++ .object found :: after)))) =
          context (kind.read (.object found)) := by
  cases hasParts with
  | apps =>
    refine ⟨fun reading => do
      let earlier ← Reading.each appStatus before
      let found ← reading
      let later ← Reading.each appStatus after
      pure ⟨earlier ++ found :: later⟩, ?_, ?_⟩
    · exact fun first second alike => .after _ fun _ => alike.bind _
    · intro found
      simp [ObjectKind.read, appList, objectFields, fieldOrNull_set, Reading.each_item]
  | addresses =>
    refine ⟨fun reading => portStatusAround outside (do
      let earlier ← Reading.each portAddress before
      let found ← reading
      let later ← Reading.each portAddress after
      pure (earlier ++ found :: later)) (subnet (portSubnet outside)), ?_, ?_⟩
    · exact fun first second alike => .bind (.after _ fun _ => alike.bind _) _
    · intro found
      let changed := outside.set "AddrInfoList" (.list (before ++ .object found :: after))
      have around : portStatusAround changed = portStatusAround outside :=
        portStatusAround_set (by decide) _
      have sameSubnet : portSubnet changed = portSubnet outside := by
        cases newer : outside.has "IPv4Subnet" <;>
          simp [changed, portSubnet, Fields.has_set, fieldOrNull_set, newer]
      change portStatus (.object changed) = _
      rw [portStatus_object, around, sameSubnet]
      simp [changed, ObjectKind.read, portAddresses, fieldOrNull_set, Reading.each_item]
  | ports =>
    refine ⟨fun reading => do
      let key ← textField outside "DPCKey"
      let earlier ← Reading.each portStatus before
      let found ← reading
      let later ← Reading.each portStatus after
      pure ⟨key, some (earlier ++ found :: later)⟩, ?_, ?_⟩
    · exact fun first second alike => .after _ fun _ => .after _ fun _ => alike.bind _
    · intro found
      simp [ObjectKind.read, networkStatus, objectFields, textField, fieldOrNull_set,
        Reading.each_item]

/-- Setting a field to the value it has changes nothing that is read. -/
theorem ObjectKind.read_set_same {value : Value} (present : outside.get? name = some value) :
    outer.read (.object (outside.set name value)) = outer.read (.object outside) := by
  have same (other : String) : (outside.set name value).get? other = outside.get? other := by
    rw [Fields.get?_set]
    split
    · next here => rw [here, present]
    · rfl
  refine outer.read_congr (fun other _ => ?_) fun other _ => ?_
  · rw [fieldOrNull, same, fieldOrNull]
  · rw [Fields.has_eq_isSome, same, Fields.has_eq_isSome]

/-- What is read of an object is carried into what is read of the object around it. -/
theorem HoldsObject.exists_context (place : HoldsObject inner fields outer outside rebuild) :
    ∃ context : Reading inner.Result → Reading outer.Result, Reading.Carries context ∧
      outer.read (.object outside) = context (inner.read (.object fields)) ∧
      ∀ changed,
        outer.read (.object (rebuild changed)) = context (inner.read (.object changed)) := by
  induction place with
  | whole => exact ⟨id, fun _ _ => id, rfl, fun _ => rfl⟩
  | @part outer kind name outside found rebuild hasPart present inside inductionHypothesis =>
    obtain ⟨near, nearCarries, nearWhole, nearRebuilt⟩ := inductionHypothesis
    obtain ⟨far, farCarries, farRebuilt⟩ := hasPart.exists_context outside
    refine ⟨far ∘ near, ?_, ?_, ?_⟩
    · exact fun first second alike => farCarries _ _ (nearCarries _ _ alike)
    · rw [← ObjectKind.read_set_same present, farRebuilt, nearWhole]
      rfl
    · intro changed
      rw [farRebuilt, nearRebuilt]
      rfl
  | @item outer kind name outside found before after rebuild hasParts present inside
      inductionHypothesis =>
    obtain ⟨near, nearCarries, nearWhole, nearRebuilt⟩ := inductionHypothesis
    obtain ⟨far, farCarries, farRebuilt⟩ := hasParts.exists_context outside before after
    refine ⟨far ∘ near, ?_, ?_, ?_⟩
    · exact fun first second alike => farCarries _ _ (nearCarries _ _ alike)
    · rw [← ObjectKind.read_set_same present, farRebuilt, nearWhole]
      rfl
    · intro changed
      rw [farRebuilt, nearRebuilt]
      rfl

end Wire

end NodeConsole
