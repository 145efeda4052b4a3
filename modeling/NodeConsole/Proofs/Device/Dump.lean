import NodeConsole.Device.Dump
import NodeConsole.Proofs.Device.Numbers
import NodeConsole.Proofs.Json.Data
import NodeConsole.Proofs.Net.Groups
import NodeConsole.Proofs.Time.Calendar
import NodeConsole.Proofs.Uuid

/-!
# The dump of a model

The data that stand for a model tell everything of it but the texts of the kernel log and the order
of the applications: `Model.dump_tells_apart`. Each part of a model can be told apart by its own
data. Times, addresses, subnets and identifiers have texts of their own. States need numbers of
their own, which they have if they have been read.
-/

namespace NodeConsole

namespace Device

open NodeConsole.Net NodeConsole.Time NodeConsole.Wire

namespace Dump

/-! ## Plain data -/

section Plain

variable {α : Type} {dump : α → Value}

@[simp]
theorem isPlain_optional (plain : ∀ found, (dump found).IsPlain) (found? : Option α) :
    (optional dump found?).IsPlain := by
  cases found? with
  | none => exact .null
  | some found => exact plain found

@[simp]
theorem isPlain_list (plain : ∀ found, (dump found).IsPlain) (found : List α) :
    (list dump found).IsPlain :=
  .list (List.forall_mem_map.mpr fun item _ => plain item)

@[simp]
theorem isPlain_kind {name : String} {fields : Fields} :
    (kind name fields).IsPlain ↔ ∀ field ∈ fields, field.2.IsPlain := by
  simp [kind]

@[simp]
theorem isPlain_ofText? (found? : Option String) : (Value.ofText? found?).IsPlain := by
  cases found? with
  | none => exact .null
  | some found => exact .text found

@[simp]
theorem isPlain_instant (found : Instant) : (instant found).IsPlain :=
  .text _

@[simp]
theorem isPlain_address (found : Address) : (address found).IsPlain :=
  .text _

@[simp]
theorem isPlain_coded {State : Type} [Codes State] (found : Coded State) :
    (coded found).IsPlain :=
  .integer _

@[simp]
theorem isPlain_register (found : Register) : found.toValue.IsPlain := by
  cases found with
  | index number => exact .integer number
  | flag value => exact .bool value

@[simp]
theorem isPlain_reason (found : Reason) : (reason found).IsPlain := by
  simp [reason]

@[simp]
theorem isPlain_onboarding (found : Onboarding) : (onboarding found).IsPlain := by
  cases found <;> simp [onboarding]

@[simp]
theorem isPlain_appState (found : AppState) : (appState found).IsPlain := by
  cases found <;> simp [appState]

@[simp]
theorem isPlain_vault (found : Vault) : (vault found).IsPlain := by
  cases found <;> simp [vault]

@[simp]
theorem isPlain_node (found : Node) : (node found).IsPlain := by
  simp [node, summary]

@[simp]
theorem isPlain_app (found : App) : (app found).IsPlain := by
  simp [app]

@[simp]
theorem isPlain_apps (found : AppMap) : (apps found).IsPlain :=
  .object (List.forall_mem_map.mpr fun entry _ => isPlain_app entry.2)

@[simp]
theorem isPlain_port (found : Port) : (port found).IsPlain := by
  simp [port]

@[simp]
theorem isPlain_downloader (found : DownloadStatus) : (downloader found).IsPlain := by
  simp [downloader, errorDescription]

end Plain

/-! ## Parts -/

/-- What has a property can be told apart by the data that stand for it. -/
def TellsApart {α : Type} (dump : α → Value) (property : α → Prop) : Prop :=
  ∀ first second, property first → property second → (dump first).IsSameData (dump second) →
    first = second

section Parts

variable {α : Type} {dump : α → Value} {property : α → Prop}

theorem TellsApart.mono {stronger : α → Prop} (tells : TellsApart dump property)
    (implies : ∀ found, stronger found → property found) : TellsApart dump stronger :=
  fun first second holds otherHolds =>
    tells first second (implies first holds) (implies second otherHolds)

theorem TellsApart.inj {first second : α} (tells : TellsApart dump fun _ => True)
    (same : (dump first).IsSameData (dump second)) : first = second :=
  tells first second trivial trivial same

theorem tellsApart_text {text : α → String} (injective : Function.Injective text) :
    TellsApart (fun found => .text (text found)) fun _ => True :=
  fun _ _ _ _ same => injective same.text_inj

/-- An optional value can be told apart if the value can be, and if it is something. -/
theorem tellsApart_optional (tells : TellsApart dump property)
    (something : ∀ found, dump found ≠ .null) :
    TellsApart (optional dump) fun found? => ∀ found, found? = some found → property found := by
  intro first second holds otherHolds same
  cases first with
  | none =>
    cases second with
    | none => rfl
    | some other => exact absurd (same.eq_null_iff.mp rfl) (something other)
  | some found =>
    cases second with
    | none => exact absurd (same.eq_null_iff.mpr rfl) (something found)
    | some other => rw [tells found other (holds _ rfl) (otherHolds _ rfl) same]

/-- A list can be told apart if its items can be. -/
theorem tellsApart_list (tells : TellsApart dump property) :
    TellsApart (list dump) fun items => ∀ item ∈ items, property item := by
  intro items others holds otherHolds same
  cases same with
  | list length same =>
    rw [List.length_map, List.length_map] at length
    refine List.ext_getElem length fun place inside otherInside => ?_
    refine tells _ _ (holds _ (List.getElem_mem inside)) (otherHolds _ (List.getElem_mem _)) ?_
    exact same place _ _ (by simp [inside]) (by simp [otherInside])

theorem tellsApart_coded {State : Type} [Codes State] [LawfulCodes State] :
    TellsApart (@coded State _) Coded.IsResolved :=
  fun _ _ resolved otherResolved same => resolved.number_inj otherResolved same.integer_inj

theorem tellsApart_time : TellsApart (optional instant) fun _ => True :=
  (tellsApart_optional (tellsApart_text Instant.spacedText_injective) nofun).mono
    fun _ _ _ _ => trivial

theorem tellsApart_addresses : TellsApart (list address) fun _ => True :=
  (tellsApart_list (tellsApart_text Address.text_injective)).mono fun _ _ _ _ => trivial

theorem tellsApart_gateways : TellsApart (optional (list address)) fun _ => True :=
  (tellsApart_optional tellsApart_addresses nofun).mono fun _ _ _ _ => trivial

theorem tellsApart_subnet :
    TellsApart (optional fun subnet : Network => .text subnet.text) fun _ => True :=
  (tellsApart_optional (tellsApart_text Network.text_injective) nofun).mono fun _ _ _ _ => trivial

/-- A text, if there is one, can be told apart. -/
theorem tellsApart_ofText? : TellsApart Value.ofText? fun _ => True := by
  have isOptional : Value.ofText? = optional .text := by
    funext found
    cases found <;> rfl
  rw [isOptional]
  exact (tellsApart_optional (tellsApart_text Function.injective_id) nofun).mono
    fun _ _ _ _ => trivial

/-- A register can be told apart; a flag is no number. -/
theorem tellsApart_register : TellsApart Register.toValue fun _ => True := by
  intro first second _ _ same
  cases first with
  | index number =>
    cases second with
    | index otherNumber => rw [same.integer_inj]
    | flag value => cases same
  | flag value =>
    cases second with
    | index number => cases same
    | flag otherValue => rw [same.bool_inj]

theorem tellsApart_registers : TellsApart (optional (list Register.toValue)) fun _ => True :=
  (tellsApart_optional (tellsApart_list tellsApart_register) nofun).mono
    fun _ _ _ _ _ _ => trivial

end Parts

/-! ## States of several forms -/

theorem kind_inj {name other : String} {fields others : Fields}
    (same : (kind name fields).IsSameData (kind other others)) : name = other :=
  (same.field "kind" rfl rfl).text_inj

theorem tellsApart_reason : TellsApart reason fun _ => True := by
  rintro ⟨error, time⟩ ⟨otherError, otherTime⟩ - - same
  obtain rfl := (same.field "error" rfl rfl).text_inj
  obtain rfl := tellsApart_time.inj (same.field "time" rfl rfl)
  rfl

/-- The state of onboarding can be told apart. -/
theorem tellsApart_onboarding : TellsApart onboarding fun _ => True := by
  intro first second _ _ same
  cases first with
  | unknown =>
    cases second with
    | unknown => rfl
    | _ => exact absurd (kind_inj same) (by decide)
  | ongoing =>
    cases second with
    | ongoing => rfl
    | _ => exact absurd (kind_inj same) (by decide)
  | done device =>
    cases second with
    | done otherDevice => rw [Uuid.text_injective (same.field "device_id" rfl rfl).text_inj]
    | _ => exact absurd (kind_inj same) (by decide)
  | failed reason =>
    cases second with
    | failed otherReason => rw [(same.field "reason" rfl rfl).text_inj]
    | _ => exact absurd (kind_inj same) (by decide)

/-- The state of an application can be told apart if its code has been read. -/
theorem tellsApart_appState : TellsApart appState fun state => state.code.IsResolved := by
  intro first second resolved otherResolved same
  cases first with
  | normal code =>
    cases second with
    | normal otherCode =>
      rw [tellsApart_coded code otherCode resolved otherResolved (same.field "code" rfl rfl)]
    | error otherCode reason => exact absurd (kind_inj same) (by decide)
  | error code reason =>
    cases second with
    | normal otherCode => exact absurd (kind_inj same) (by decide)
    | error otherCode otherReason =>
      rw [tellsApart_coded code otherCode resolved otherResolved (same.field "code" rfl rfl),
        (same.field "reason" rfl rfl).text_inj]

/-- The state of the vault can be told apart. -/
theorem tellsApart_vault : TellsApart vault fun _ => True := by
  intro first second _ _ same
  cases first with
  | unknown =>
    cases second with
    | unknown => rfl
    | _ => exact absurd (kind_inj same) (by decide)
  | encryptionDisabled found tpmUsed =>
    cases second with
    | encryptionDisabled otherFound otherTpmUsed =>
      rw [tellsApart_reason.inj (same.field "reason" rfl rfl),
        (same.field "tpm_used" rfl rfl).bool_inj]
    | _ => exact absurd (kind_inj same) (by decide)
  | unlocked tpmUsed =>
    cases second with
    | unlocked otherTpmUsed => rw [(same.field "tpm_used" rfl rfl).bool_inj]
    | _ => exact absurd (kind_inj same) (by decide)
  | locked found mismatches =>
    cases second with
    | locked otherFound otherMismatches =>
      rw [tellsApart_reason.inj (same.field "reason" rfl rfl),
        tellsApart_registers.inj (same.field "mismatching_pcrs" rfl rfl)]
    | _ => exact absurd (kind_inj same) (by decide)

/-! ## Records -/

/-- A summary of applications can be told apart. -/
theorem tellsApart_summary : TellsApart summary fun _ => True := by
  rintro ⟨starting, running, stopping, error⟩ ⟨_, _, _, _⟩ - - same
  obtain rfl := (same.field "starting" rfl rfl).integer_inj
  obtain rfl := (same.field "running" rfl rfl).integer_inj
  obtain rfl := (same.field "stopping" rfl rfl).integer_inj
  obtain rfl := (same.field "error" rfl rfl).integer_inj
  rfl

/-- The node can be told apart. -/
theorem tellsApart_node : TellsApart node fun _ => True := by
  rintro ⟨server, found, state⟩ ⟨_, _, _⟩ - - same
  obtain rfl := tellsApart_ofText?.inj (same.field "server" rfl rfl)
  obtain rfl := tellsApart_summary.inj (same.field "app_summary" rfl rfl)
  obtain rfl := tellsApart_onboarding.inj (same.field "onboarding" rfl rfl)
  rfl

/-- An application can be told apart if the code of its state has been read. -/
theorem tellsApart_app : TellsApart app fun found => found.state.code.IsResolved := by
  rintro ⟨uuid, name, version, state⟩ ⟨_, _, _, _⟩ resolved otherResolved same
  obtain rfl := Uuid.text_injective (same.field "uuid" rfl rfl).text_inj
  obtain rfl := (same.field "name" rfl rfl).text_inj
  obtain rfl := (same.field "version" rfl rfl).text_inj
  obtain rfl := tellsApart_appState _ _ resolved otherResolved (same.field "state" rfl rfl)
  rfl

/-- A port can be told apart if the way it gets its address has been read. -/
theorem tellsApart_port : TellsApart port fun found => found.dhcp.IsResolved := by
  rintro ⟨name, isManagement, addresses, gateways, mac, dhcp, isUp, subnet, dnsServers, lastError⟩
    ⟨_, _, _, _, _, _, _, _, _, _⟩ resolved otherResolved same
  obtain rfl := (same.field "name" rfl rfl).text_inj
  obtain rfl := (same.field "is_mgmt" rfl rfl).bool_inj
  obtain rfl := tellsApart_addresses.inj (same.field "addresses" rfl rfl)
  obtain rfl := tellsApart_gateways.inj (same.field "gateways" rfl rfl)
  obtain rfl := tellsApart_ofText?.inj (same.field "mac" rfl rfl)
  obtain rfl := tellsApart_coded _ _ resolved otherResolved (same.field "dhcp" rfl rfl)
  obtain rfl := (same.field "up" rfl rfl).bool_inj
  obtain rfl := tellsApart_subnet.inj (same.field "subnet" rfl rfl)
  obtain rfl := tellsApart_addresses.inj (same.field "dns_servers" rfl rfl)
  obtain rfl := (same.field "last_error" rfl rfl).text_inj
  rfl

/-- An error description can be told apart if its severity has been read. -/
theorem tellsApart_errorDescription :
    TellsApart errorDescription fun found => found.severity.IsResolved := by
  rintro ⟨error, time, severity⟩ ⟨_, _, _⟩ resolved otherResolved same
  obtain rfl := (same.field "error" rfl rfl).text_inj
  obtain rfl := tellsApart_time.inj (same.field "error_time" rfl rfl)
  obtain rfl := tellsApart_coded _ _ resolved otherResolved (same.field "severity" rfl rfl)
  rfl

/-- The downloader can be told apart if its codes have been read. -/
theorem tellsApart_downloader : TellsApart downloader DownloadStatus.IsResolved := by
  rintro ⟨name, imageSha256, state, progress, totalSize, currentSize, lastUse, modTime, error⟩
    ⟨_, _, _, _, _, _, _, _, _⟩ resolved otherResolved same
  obtain rfl := (same.field "name" rfl rfl).text_inj
  obtain rfl := (same.field "image_sha256" rfl rfl).text_inj
  obtain rfl := tellsApart_coded _ _ resolved.state otherResolved.state (same.field "state" rfl rfl)
  obtain rfl := (same.field "progress" rfl rfl).integer_inj
  obtain rfl := (same.field "total_size" rfl rfl).integer_inj
  obtain rfl := (same.field "current_size" rfl rfl).integer_inj
  obtain rfl := tellsApart_time.inj (same.field "last_use" rfl rfl)
  obtain rfl := tellsApart_time.inj (same.field "mod_time" rfl rfl)
  obtain rfl := tellsApart_errorDescription _ _ resolved.severity otherResolved.severity
    (same.field "error" rfl rfl)
  rfl

theorem tellsApart_download :
    TellsApart (optional downloader) fun found? =>
      ∀ found, found? = some found → DownloadStatus.IsResolved found :=
  tellsApart_optional tellsApart_downloader fun _ => nofun

/-! ## Applications -/

/-- The application of an identifier stands under the text of the identifier. -/
theorem get?_apps (found : AppMap) (uuid : Uuid) :
    Fields.get? (found.entries.map fun entry => (entry.1.text, app entry.2)) uuid.text =
      (found.find? uuid).map app := by
  have sameKey : ((fun field : String × Value => decide (field.1 = uuid.text)) ∘
      fun entry : Uuid × App => (entry.1.text, app entry.2)) =
        fun entry => decide (entry.1 = uuid) := by
    funext entry
    simp only [Function.comp_apply, Uuid.text_injective.eq_iff]
  rw [Fields.get?, AppMap.find?, List.find?_map, sameKey, Option.map_map, Option.map_map]
  rfl

theorem exists_of_get?_apps {found : AppMap} {name : String} {value : Value}
    (isValue : Fields.get? (found.entries.map fun entry => (entry.1.text, app entry.2)) name =
      some value) : ∃ uuid : Uuid, uuid.text = name := by
  obtain ⟨field, isField, -⟩ := Option.map_eq_some_iff.mp isValue
  obtain ⟨entry, -, rfl⟩ := List.mem_map.mp (List.mem_of_find?_eq_some isField)
  have isName := List.find?_some isField
  exact ⟨entry.1, of_decide_eq_true isName⟩

theorem mem_values_of_find? {found : AppMap} {uuid : Uuid} {known : App}
    (isKnown : found.find? uuid = some known) : known ∈ found.values := by
  obtain ⟨entry, isEntry, rfl⟩ := Option.map_eq_some_iff.mp isKnown
  exact List.mem_map_of_mem (List.mem_of_find?_eq_some isEntry)

/-- Applications that are the same data are the same under every identifier, if the codes of their
states have been read. -/
theorem find?_eq_of_apps {first second : AppMap}
    (resolved : ∀ found ∈ first.values, found.state.code.IsResolved)
    (otherResolved : ∀ found ∈ second.values, found.state.code.IsResolved)
    (same : (apps first).IsSameData (apps second)) (uuid : Uuid) :
    first.find? uuid = second.find? uuid := by
  cases same with
  | object names same =>
    have known := names uuid.text
    have sameApp := same uuid.text
    rw [get?_apps, get?_apps] at known sameApp
    rw [Option.isSome_map, Option.isSome_map] at known
    cases isFirst : first.find? uuid with
    | none =>
      rw [isFirst, Option.isSome_none, Eq.comm, Option.isSome_eq_false_iff] at known
      exact (Option.isNone_iff_eq_none.mp known).symm
    | some found =>
      rw [isFirst, Option.isSome_some, Eq.comm, Option.isSome_iff_exists] at known
      obtain ⟨other, isSecond⟩ := known
      rw [isFirst, isSecond] at sameApp
      rw [isSecond, tellsApart_app found other (resolved _ (mem_values_of_find? isFirst))
        (otherResolved _ (mem_values_of_find? isSecond)) (sameApp _ _ rfl rfl)]

/-- Applications that are the same under every identifier are the same data. -/
theorem apps_isSameData {first second : AppMap}
    (same : ∀ uuid, first.find? uuid = second.find? uuid) :
    (apps first).IsSameData (apps second) := by
  have sameField (name : String) :
      Fields.get? (first.entries.map fun entry => (entry.1.text, app entry.2)) name =
        Fields.get? (second.entries.map fun entry => (entry.1.text, app entry.2)) name := by
    by_cases isUuid : ∃ uuid : Uuid, uuid.text = name
    · obtain ⟨uuid, rfl⟩ := isUuid
      rw [get?_apps, get?_apps, same]
    · rw [Option.eq_none_iff_forall_ne_some.mpr fun _ => mt exists_of_get?_apps isUuid,
        Option.eq_none_iff_forall_ne_some.mpr fun _ => mt exists_of_get?_apps isUuid]
  refine .object (fun name => by rw [sameField]) fun name value other isValue isOther => ?_
  rw [sameField, isOther] at isValue
  cases isValue
  exact ((isPlain_apps second).field isOther).isSameData

end Dump

/-! ## Models -/

namespace Model

/-- Two models agree in everything but the texts of their kernel logs and the order of their
applications. -/
structure AgreesWith (first second : Model) : Prop where
  generation : first.generation = second.generation
  node : first.node = second.node
  apps : ∀ uuid, first.apps.find? uuid = second.apps.find? uuid
  network : first.network = second.network
  vault : first.vault = second.vault
  downloader : first.downloader = second.downloader
  kernelLog : first.kernelLog.length = second.kernelLog.length

theorem isPlain_dump (model : Model) : model.dump.IsPlain := by
  simp [dump, Value.ofNat]

variable {first second : Model}

/-- Models with states of their own numbers agree if they are the same data. -/
theorem agreesWith_of_isSameData (resolved : first.IsResolved) (otherResolved : second.IsResolved)
    (same : first.dump.IsSameData second.dump) : first.AgreesWith second := by
  have generation := same.field "generation" rfl rfl
  have node := same.field "node_status" rfl rfl
  have apps := same.field "apps" rfl rfl
  have network := same.field "network" rfl rfl
  have vault := same.field "vault_status" rfl rfl
  have downloader := same.field "downloader" rfl rfl
  have kernelLog := same.field "dmesg" rfl rfl
  exact {
    generation := Int.ofNat_inj.mp generation.integer_inj
    node := Dump.tellsApart_node.inj node
    apps := Dump.find?_eq_of_apps resolved.apps otherResolved.apps apps
    network := Dump.tellsApart_list Dump.tellsApart_port _ _ resolved.network
      otherResolved.network network
    vault := Dump.tellsApart_vault.inj vault
    downloader := Dump.tellsApart_download _ _ resolved.downloader otherResolved.downloader
      downloader
    kernelLog := Int.ofNat_inj.mp kernelLog.integer_inj }

/-- Models that agree are the same data. -/
theorem AgreesWith.isSameData (agree : first.AgreesWith second) :
    first.dump.IsSameData second.dump := by
  -- The applications may differ in their order; all other fields have the same values.
  unfold dump
  rw [agree.generation, agree.node, agree.network, agree.vault, agree.downloader, agree.kernelLog]
  have rest : (Value.object [("network", Dump.list Dump.port second.network),
      ("vault_status", Dump.vault second.vault),
      ("downloader", Dump.optional Dump.downloader second.downloader),
      ("dmesg", .ofNat second.kernelLog.length)]).IsPlain := by
    simp [Value.ofNat]
  have generation : (Value.ofNat second.generation).IsPlain := .integer _
  exact .cons "generation" generation.isSameData
    (.cons "node_status" (Dump.isPlain_node second.node).isSameData
      (.cons "apps" (Dump.apps_isSameData agree.apps) rest.isSameData))

/-- Two models that have been told of what has been read are dumped as the same data exactly if they
agree in everything but the texts of their kernel logs and the order of their applications. So they
agree if their dumps are written alike, with one entry a line or on one line. -/
theorem dump_tells_apart (told : first.IsTold) (otherTold : second.IsTold) :
    (first.dump.IsSameData second.dump ↔ first.AgreesWith second) ∧
      (Json.indented 0 first.dump = Json.indented 0 second.dump → first.AgreesWith second) ∧
      (Json.render first.dump = Json.render second.dump → first.AgreesWith second) := by
  have agree := agreesWith_of_isSameData told.isResolved otherTold.isResolved
  have written (layout : Json.Layout)
      (same : layout.write 0 first.dump = layout.write 0 second.dump) :
      first.AgreesWith second := by
    have sameDump := layout.write_injective 0 first.isPlain_dump second.isPlain_dump same
    exact agree (sameDump ▸ first.isPlain_dump.isSameData)
  exact ⟨⟨agree, AgreesWith.isSameData⟩, written .oneEntryALine, written .oneLine⟩

/-- The message of an application in error. -/
def faultyMessage : List Char :=
  "\x7b\"UUIDandVersion\":\x7b\"UUID\":\"6ba7b810-9dad-11d1-80b4-00c04fd430c8\"\x7d,".toList ++
    "\"State\":115,\"Error\":\"no image\"\x7d".toList

/-- The status of the application in error. -/
def faultyStatus : AppStatus where
  uuid := ⟨0x6ba7b8109dad11d180b400c04fd430c8⟩
  version := ""
  displayName := ""
  state := .known .running
  error := ⟨"no image", none, .known .unspecified⟩
  activated := false
  bootTime := none

/-- The status of the application in error is read from its message. -/
theorem isReported_faultyStatus : IsReported faultyStatus := by
  have read : ((Json.parse Json.nestingLimit faultyMessage).toOption.bind fun payload =>
      (appStatus payload).outcome.toOption) = some faultyStatus := by
    decide +kernel
  obtain ⟨payload, parsed, read⟩ := Option.bind_eq_some_iff.mp read
  exact ⟨payload, ⟨_, _, eq_ok_of_toOption parsed⟩, eq_ok_of_toOption read⟩

/-- A model that has been told of the application in error and of one kernel record. -/
def withRecord (message : String) : Model :=
  ({} : Model).applyAll [.app faultyStatus, .kernelLog [⟨6, 1, 10, message⟩]]

/-- A model has been told of what has been read if its record has been. -/
theorem isTold_withRecord {message : String} {line : List Char}
    (read : KernelLog.record line = .ok (some ⟨6, 1, 10, message⟩)) :
    (withRecord message).IsTold := by
  refine ⟨_, ?_, rfl⟩
  rw [List.forall_mem_cons, List.forall_mem_singleton]
  refine ⟨.app isReported_faultyStatus, .kernelLog ?_⟩
  rw [List.forall_mem_singleton]
  exact ⟨line, read⟩

/-- Models that differ in the text of a record alone are written alike, so they agree. -/
theorem dump_tells_apart_records :
    (withRecord "link up").IsTold ∧ (withRecord "link down").IsTold ∧
      (withRecord "link up").kernelLog ≠ (withRecord "link down").kernelLog ∧
        (withRecord "link up").AgreesWith (withRecord "link down") := by
  have readUp : KernelLog.record "6,1,10;link up".toList = .ok (some ⟨6, 1, 10, "link up"⟩) := by
    decide +kernel
  have readDown : KernelLog.record "6,1,10;link down".toList =
      .ok (some ⟨6, 1, 10, "link down"⟩) := by
    decide +kernel
  have up := isTold_withRecord readUp
  have down := isTold_withRecord readDown
  exact ⟨up, down, by decide, (dump_tells_apart up down).2.1 rfl⟩

end Model

end Device

end NodeConsole
