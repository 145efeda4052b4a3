import NodeConsole.Proofs.Wire.Reading
import NodeConsole.Wire.Message

/-!
# Contained failures

A message escapes when the first of its fields that cannot be read does, so each condition here
names the fields in the order in which they are read. Lists of applications and of ports escape at
their first unreadable item. `readers_isContained_iff` collects the conditions of all messages.
-/

namespace NodeConsole.Wire

open NodeConsole.Net NodeConsole.Time

/-- The time of an error is out of the calendar, and all that is read before it can be read. -/
def ErrorEscapes (fields : Fields) : Prop :=
  (textField fields "Error").IsRead ∧ IsOutOfCalendar (fieldOrNull fields "ErrorTime")

/-- The time of an application's error or the time of its start is out of the calendar, and all that
is read before it can be read. -/
def AppEscapes (payload : Value) : Prop :=
  ∃ (fields identity : Fields) (written : Value), payload = .object fields ∧
    fieldOrNull fields "UUIDandVersion" = .object identity ∧
    identity.get? "UUID" = some written ∧
    (uuidOf written "UUIDandVersion.UUID").IsRead ∧
    (textField identity "Version").IsRead ∧
    (textField fields "DisplayName").IsRead ∧
    (codedState SoftwareState (fieldOrNull fields "State")).IsRead ∧
    (ErrorEscapes fields ∨
      (errorDescription fields).IsRead ∧ IsOutOfCalendar (fieldOrNull fields "BootTime"))

/-- The first item of a list that cannot be read escapes. -/
def FirstEscapes {α : Type} (read : Value → Reading α) (escapes : Value → Prop)
    (items : List Value) : Prop :=
  ∃ before item after, items = before ++ item :: after ∧
    (∀ earlier ∈ before, (read earlier).IsRead) ∧ escapes item

/-- The first application of a list that cannot be read escapes. -/
def AppListEscapes (payload : Value) : Prop :=
  ∃ fields found, payload = .object fields ∧ fieldOrNull fields "apps" = .list found ∧
    FirstEscapes appStatus AppEscapes found

/-- The addresses of a port can be read. -/
def PortAddressesAreRead (fields : Fields) : Prop :=
  fieldOrNull fields "AddrInfoList" = .null ∨
    ∃ entries, fieldOrNull fields "AddrInfoList" = .list entries ∧
      ∀ entry ∈ entries, (portAddress entry).IsRead

/-- The subnet of a port: under its newer name if the port has that field, whatever it holds. -/
def portSubnet (fields : Fields) : Value :=
  fieldOrNull fields (if fields.has "IPv4Subnet" then "IPv4Subnet" else "Subnet")

/-- The mask of a port's subnet or its hardware address is not written as text, and all that is read
before it can be read. -/
def PortEscapes (payload : Value) : Prop :=
  ∃ fields, payload = .object fields ∧
    PortAddressesAreRead fields ∧
    (textField fields "IfName").IsRead ∧
    (codedState DhcpMode (fieldOrNull fields "Dhcp")).IsRead ∧
    (SubnetEscapes (portSubnet fields) ∨
      (subnet (portSubnet fields)).IsRead ∧
      (addressListField fields "DNSServers").IsRead ∧
      IsBareBytes (fieldOrNull fields "MacAddr"))

/-- The first port that cannot be read escapes. -/
def NetworkEscapes (payload : Value) : Prop :=
  ∃ fields found, payload = .object fields ∧ fieldOrNull fields "Ports" = .list found ∧
    (textField fields "DPCKey").IsRead ∧ FirstEscapes portStatus PortEscapes found

/-- The time of the vault's error is out of the calendar, and all that is read before it can be
read. -/
def VaultEscapes (payload : Value) : Prop :=
  ∃ fields, payload = .object fields ∧
    (fieldOrNull fields "MismatchingPCRs" = .null ∨
      ∃ found registers, fieldOrNull fields "MismatchingPCRs" = .list found ∧
        found.mapM Register.ofValue? = some registers) ∧
    (textField fields "Name").IsRead ∧
    (codedState DataProtection (fieldOrNull fields "Status")).IsRead ∧
    (codedState RegisterUse (fieldOrNull fields "PCRStatus")).IsRead ∧
    ErrorEscapes fields

/-- A time of a download is out of the calendar, and all that is read before it can be read. -/
def DownloadEscapes (payload : Value) : Prop :=
  ∃ fields, payload = .object fields ∧
    (textField fields "Name").IsRead ∧
    (textField fields "ImageSha256").IsRead ∧
    (codedState SoftwareState (fieldOrNull fields "State")).IsRead ∧
    (integerField fields "Progress").IsRead ∧
    (integerField fields "TotalSize").IsRead ∧
    (integerField fields "CurrentSize").IsRead ∧
    (IsOutOfCalendar (fieldOrNull fields "LastUse") ∨
      (timeField fields "LastUse").IsRead ∧
        (IsOutOfCalendar (fieldOrNull fields "ModTime") ∨
          (timeField fields "ModTime").IsRead ∧ ErrorEscapes fields))

@[simp]
theorem errorDescription_escapes (fields : Fields) :
    (errorDescription fields).Escapes ↔ ErrorEscapes fields := by
  simp [errorDescription, Reading.escapes_bind, ErrorEscapes]

@[simp]
theorem appStatus_escapes (payload : Value) : (appStatus payload).Escapes ↔ AppEscapes payload := by
  unfold appStatus AppEscapes
  simp only [Reading.escapes_bind, objectFields_not_escapes, objectFields_outcome, false_or]
  refine exists_congr fun fields => ?_
  cases fieldOrNull fields "UUIDandVersion" with
  | null => simp [Fields.get?]
  | object identity =>
    cases written : Fields.get? identity "UUID" <;> simp [Reading.escapes_bind, written]
  | _ => simp [objectFields]

theorem each_escapes {α : Type} {read : Value → Reading α} {escapes : Value → Prop}
    (exact : ∀ item, (read item).Escapes ↔ escapes item) (items : List Value) :
    (Reading.each read items).Escapes ↔ FirstEscapes read escapes items := by
  simp only [Reading.escapes_each, exact, FirstEscapes]

/-- A list of applications escapes exactly when its first unreadable application does. -/
theorem appList_escapes (payload : Value) : (appList payload).Escapes ↔ AppListEscapes payload := by
  unfold appList AppListEscapes
  simp only [Reading.escapes_bind, objectFields_not_escapes, objectFields_outcome, false_or]
  refine exists_congr fun fields => ?_
  cases fieldOrNull fields "apps" with
  | list found => simp [each_escapes appStatus_escapes]
  | _ => simp

@[simp]
theorem portAddress_not_escapes (entry : Value) : ¬(portAddress entry).Escapes := by
  simp [portAddress, Reading.escapes_bind]

/-- A port escapes exactly when its mask or its hardware address does, all before it being read. -/
@[simp]
theorem portStatus_escapes (payload : Value) :
    (portStatus payload).Escapes ↔ PortEscapes payload := by
  unfold portStatus PortEscapes PortAddressesAreRead portSubnet
  simp only [Reading.escapes_bind, objectFields_not_escapes, objectFields_outcome, false_or]
  refine exists_congr fun fields => and_congr_right fun _ => ?_
  cases fieldOrNull fields "AddrInfoList" with
  | null =>
    have contained := Reading.not_escapes_each portAddress_not_escapes []
    simp [Reading.escapes_bind, contained]
  | list entries =>
    have contained := Reading.not_escapes_each portAddress_not_escapes entries
    simp [Reading.escapes_bind, contained]
  | _ => simp

/-- The status of the network escapes exactly when its first unreadable port does. -/
theorem networkStatus_escapes (payload : Value) :
    (networkStatus payload).Escapes ↔ NetworkEscapes payload := by
  unfold networkStatus NetworkEscapes
  simp only [Reading.escapes_bind, objectFields_not_escapes, objectFields_outcome, false_or]
  refine exists_congr fun fields => ?_
  cases fieldOrNull fields "Ports" with
  | list found => simp [Reading.escapes_bind, each_escapes portStatus_escapes]
  | _ => simp

/-- The status of the vault escapes exactly when the time of its error does, all before it being
read. -/
theorem vaultReport_escapes (payload : Value) :
    (vaultReport payload).Escapes ↔ VaultEscapes payload := by
  unfold vaultReport VaultEscapes
  simp only [Reading.escapes_bind, objectFields_not_escapes, objectFields_outcome, false_or]
  refine exists_congr fun fields => ?_
  cases fieldOrNull fields "MismatchingPCRs" with
  | null => simp [Reading.escapes_bind]
  | list found =>
    cases registers : found.mapM Register.ofValue? <;> simp [Reading.escapes_bind, registers]
  | _ => simp

theorem downloadStatus_escapes (payload : Value) :
    (downloadStatus payload).Escapes ↔ DownloadEscapes payload := by
  unfold downloadStatus DownloadEscapes
  simp only [Reading.escapes_bind, objectFields_not_escapes, objectFields_outcome, false_or]
  refine exists_congr fun fields => ?_
  cases fieldOrNull fields "State" with
  | null => simp [Reading.escapes_bind, codedState_isRead]
  | _ => simp [Reading.escapes_bind]

@[simp]
theorem summaryReport_not_escapes (payload : Value) : ¬(summaryReport payload).Escapes := by
  simp [summaryReport, Reading.escapes_bind]

theorem nodeReport_not_escapes (payload : Value) : ¬(nodeReport payload).Escapes := by
  unfold nodeReport
  simp only [Reading.escapes_bind, objectFields_not_escapes, objectFields_outcome, false_or]
  rintro ⟨fields, -, escapes⟩
  split at escapes
  · simp only [bind_pure_comp, Reading.escapes_bind] at escapes
    obtain escapes | ⟨nodeUuid, -, escapes⟩ := escapes
    · simp at escapes
    · split at escapes <;> simp at escapes
  · rw [pure_bind] at escapes
    split at escapes <;> simp at escapes

theorem onboardingReport_not_escapes (payload : Value) : ¬(onboardingReport payload).Escapes := by
  unfold onboardingReport
  simp only [Reading.escapes_bind, objectFields_not_escapes, objectFields_outcome, false_or]
  rintro ⟨fields, -, escapes⟩
  split at escapes <;> simp [Reading.escapes_bind] at escapes

/-- Of the nine messages, three are read or refused whatever they hold. Each of the others is read
or refused unless the first of its fields that cannot be read is a time out of the calendar, or, in
a port, a mask or a hardware address that is not written as text. -/
theorem readers_isContained_iff (payload : Value) :
    ((appStatus payload).IsContained ↔ ¬AppEscapes payload) ∧
    ((appList payload).IsContained ↔ ¬AppListEscapes payload) ∧
    ((portStatus payload).IsContained ↔ ¬PortEscapes payload) ∧
    ((networkStatus payload).IsContained ↔ ¬NetworkEscapes payload) ∧
    ((vaultReport payload).IsContained ↔ ¬VaultEscapes payload) ∧
    ((downloadStatus payload).IsContained ↔ ¬DownloadEscapes payload) ∧
    (summaryReport payload).IsContained ∧
    (nodeReport payload).IsContained ∧
    (onboardingReport payload).IsContained := by
  simp only [Reading.isContained_iff, appStatus_escapes, appList_escapes, portStatus_escapes,
    networkStatus_escapes, vaultReport_escapes, downloadStatus_escapes, summaryReport_not_escapes,
    nodeReport_not_escapes, onboardingReport_not_escapes, not_false_eq_true, and_self]

/-- A number in place of a hardware address is not refused. -/
theorem portStatus_number_escapes :
    ¬(portStatus (.object [("IfName", .text "eth0"), ("MacAddr", .integer 5)])).IsContained := by
  rw [Reading.isContained_iff, Classical.not_not]
  exact ⟨.bytesNotText, rfl, by simp⟩

end NodeConsole.Wire
