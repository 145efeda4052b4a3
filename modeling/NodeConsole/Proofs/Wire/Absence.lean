import NodeConsole.Proofs.Wire.Objects

/-!
# Null is absent

A field that is null is read as one that is absent, for every field of every object of a message but
one: a port looks for its subnet under a second name when the first one is absent, and does not when
it is null.
-/

namespace NodeConsole.Wire

open NodeConsole.Net

variable {inner outer : ObjectKind} {fields outside : Fields} {rebuild : Fields → Fields}

/-! ## Identities -/

theorem uuidOf_null_isRefused (field : String) : (uuidOf .null field).IsRefused :=
  ⟨.invalidUuid field .null, rfl⟩

/-- An identity is refused without an identifier, whether that is null or absent. -/
theorem appIdentity_endAlike (fields : Fields) :
    (appIdentity (.object (fields.set "UUID" .null))).EndAlike
      (appIdentity (.object (fields.without "UUID"))) := by
  refine .inr ⟨?_, ?_⟩
  · simp only [appIdentity, objectFields, pure_bind, Fields.get?_set, ↓reduceIte]
    exact (uuidOf_null_isRefused _).bind _
  · simp only [appIdentity, objectFields, pure_bind, Fields.get?_without, ↓reduceIte,
      Reading.refuse_bind]
    exact ⟨_, rfl⟩

/-! ## Subnets -/

/-- The subnet of a port stands in its status. -/
theorem portStatusAfter_shows (fields : Fields) (addresses : List Address) (name : String)
    (dhcp : Coded DhcpMode) : Reading.Shows (portStatusAfter fields addresses name dhcp) := by
  refine Reading.shows_after _ fun dnsServers => ?_
  refine Reading.shows_after _ fun mac => ?_
  refine Reading.shows_after _ fun routers => ?_
  refine Reading.shows_after _ fun mtu => ?_
  refine Reading.shows_after _ fun lastError => ?_
  exact Reading.shows_pure fun found other same => congrArg PortStatus.subnet same

theorem portStatusAround_differ (fields : Fields) (addresses : Reading (List Address))
    {first second : Reading (Option Network)} (differ : first.Differ second) :
    (portStatusAround fields addresses first).Differ
      (portStatusAround fields addresses second) := by
  refine .after _ fun addresses => ?_
  refine .after _ fun name => ?_
  refine .after _ fun dhcp => ?_
  exact differ.bind (portStatusAfter_shows fields addresses name dhcp)

/-- The ports of a network stand in its status; no other message has ports. -/
theorem HoldsObject.differ (place : HoldsObject .port fields outer outside rebuild)
    {first second : Fields}
    (differ : (portStatus (.object first)).Differ (portStatus (.object second))) :
    (outer = .port ∨ outer = .network) ∧
      (outer.read (.object (rebuild first))).Differ (outer.read (.object (rebuild second))) := by
  induction place with
  | whole => exact ⟨.inl rfl, differ⟩
  | part hasPart present inside inductionHypothesis =>
    obtain ⟨kinds, -⟩ := inductionHypothesis
    cases hasPart <;> simp at kinds
  | @item outer kind name outside found before after rebuild hasParts present inside
      inductionHypothesis =>
    obtain ⟨kinds, differ⟩ := inductionHypothesis
    cases hasParts with
    | apps => simp at kinds
    | addresses => simp at kinds
    | ports =>
      refine ⟨.inr rfl, ?_⟩
      simp only [ObjectKind.read, networkStatus, objectFields, textField, fieldOrNull_set,
        Reading.each_item, pure_bind, bind_assoc, ↓reduceIte]
      refine .after _ fun key => .after _ fun earlier => differ.bind ?_
      refine Reading.shows_after _ fun later => Reading.shows_pure fun found other same => ?_
      have listed := Option.some.inj (congrArg NetworkStatus.ports same)
      exact (List.cons.inj (List.append_cancel_left listed)).1

theorem portStatus_nullSubnet (fields : Fields) :
    portStatus (.object (fields.set "IPv4Subnet" .null)) =
      portStatusAround fields (portAddresses (fieldOrNull fields "AddrInfoList")) (pure none) := by
  have around : portStatusAround (fields.set "IPv4Subnet" .null) = portStatusAround fields :=
    portStatusAround_set (by decide) _
  simp [portStatus_object, around, portSubnet, Fields.has_set, fieldOrNull_set, subnet]

theorem portStatus_withoutSubnet (fields : Fields) :
    portStatus (.object (fields.without "IPv4Subnet")) =
      portStatusAround fields (portAddresses (fieldOrNull fields "AddrInfoList"))
        (subnet (fieldOrNull fields "Subnet")) := by
  have around : portStatusAround (fields.without "IPv4Subnet") = portStatusAround fields :=
    portStatusAround_congr (by simp [portNamesAround, fieldOrNull_without])
  simp [portStatus_object, around, portSubnet, Fields.has_without, fieldOrNull_without]

theorem portStatus_endAlike {fields : Fields}
    (none : (subnet (fieldOrNull fields "Subnet")).outcome = .ok none) :
    (portStatus (.object (fields.set "IPv4Subnet" .null))).EndAlike
      (portStatus (.object (fields.without "IPv4Subnet"))) := by
  rw [portStatus_nullSubnet, portStatus_withoutSubnet]
  exact portStatusAround_carries _ _ _ _ (.inl none.symm)

theorem portStatus_differ {fields : Fields}
    (some : (subnet (fieldOrNull fields "Subnet")).outcome ≠ .ok none) :
    (portStatus (.object (fields.set "IPv4Subnet" .null))).Differ
      (portStatus (.object (fields.without "IPv4Subnet"))) := by
  rw [portStatus_nullSubnet, portStatus_withoutSubnet]
  refine portStatusAround_differ fields _ fun found read => ⟨none, rfl, ?_⟩
  rintro rfl
  exact some read

/-! ## All fields -/

/-- An object ends alike whether a field is null or absent, but for the first subnet of a port. -/
theorem ObjectKind.read_endAlike (kind : ObjectKind) (fields : Fields) (name : String)
    (other : ¬(kind = .port ∧ name = "IPv4Subnet")) :
    (kind.read (.object (fields.set name .null))).EndAlike
      (kind.read (.object (fields.without name))) := by
  by_cases tested : name ∈ kind.namesTested
  · cases kind <;> simp only [namesTested, List.mem_singleton, List.not_mem_nil] at tested
    case port => exact absurd ⟨rfl, tested⟩ other
    case identity =>
      rw [tested]
      exact appIdentity_endAlike fields
  · left
    refine congrArg Reading.outcome (kind.read_congr (fun named _ => ?_) fun named member => ?_)
    · rw [fieldOrNull_set, fieldOrNull_without]
    · have distinct : named ≠ name := fun same => tested (same ▸ member)
      rw [Fields.has_set, Fields.has_without]
      simp [distinct]

/-- A message in which a field of an object is null and the message without that field are the same
or are both refused, exactly when neither escapes and, for the first subnet of a port in a message
that is read, the second one is none. Fields that no reader names change nothing. -/
theorem HoldsObject.null_agrees_iff (place : HoldsObject inner fields outer outside rebuild) :
    (∀ name,
      let nulled := outer.read (.object (rebuild (fields.set name .null)))
      let removed := outer.read (.object (rebuild (fields.without name)))
      nulled.Agree removed ↔ nulled.IsContained ∧ removed.IsContained ∧
        (inner = .port → name = "IPv4Subnet" → nulled.IsRead →
          (subnet (fieldOrNull fields "Subnet")).outcome = .ok none)) ∧
    ∀ changed, (∀ name ∈ inner.names, changed.get? name = fields.get? name) →
      outer.read (.object (rebuild changed)) = outer.read (.object outside) := by
  obtain ⟨context, carries, whole, rebuilt⟩ := place.exists_context
  constructor
  · intro name nulled removed
    have agree_iff (alike : (inner.read (.object (fields.set name .null))).EndAlike
        (inner.read (.object (fields.without name)))) :
        nulled.Agree removed ↔ nulled.IsContained ∧ removed.IsContained := by
      have carried := carries _ _ alike
      rw [← rebuilt, ← rebuilt] at carried
      exact carried.agree_iff
    by_cases special : inner = .port ∧ name = "IPv4Subnet"
    · obtain ⟨rfl, rfl⟩ := special
      by_cases none : (subnet (fieldOrNull fields "Subnet")).outcome = .ok none
      · rw [agree_iff (portStatus_endAlike none)]
        simp [none]
      · rw [(place.differ (portStatus_differ none)).2.agree_iff]
        simp [none, nulled, removed]
    · rw [agree_iff (inner.read_endAlike fields name special)]
      refine and_congr_right fun _ => (and_iff_left fun port first => ?_).symm
      exact absurd ⟨port, first⟩ special
  · intro changed same
    rw [rebuilt, whole]
    refine congrArg context (inner.read_congr (fun name named => ?_) fun name named => ?_)
    · unfold fieldOrNull
      rw [same name named]
    · rw [Fields.has_eq_isSome, Fields.has_eq_isSome, same name (ObjectKind.names_of_tested named)]

/-- A port of a network without a second subnet is the same whether the first one is null or
absent. -/
theorem HoldsObject.null_agrees_network :
    (networkStatus (.object [("Ports", .list
      [.object [("IfName", .text "eth0"), ("IPv4Subnet", .null)]])])).Agree
      (networkStatus (.object [("Ports", .list [.object [("IfName", .text "eth0")]])])) := by
  let fields : Fields := [("IfName", .text "eth0")]
  have place : HoldsObject .port fields .network [("Ports", .list ([] ++ .object fields :: []))]
      fun changed => Fields.set [("Ports", .list ([] ++ .object fields :: []))] "Ports"
        (.list ([] ++ .object changed :: [])) :=
    .item .ports rfl .whole
  exact (place.null_agrees_iff.1 "IPv4Subnet").mpr ⟨.inl ⟨_, rfl⟩, .inl ⟨_, rfl⟩, fun _ _ _ => rfl⟩

/-- A port whose subnet stands under the second name. -/
def portWithSecondSubnet : Fields :=
  [("IfName", .text "eth0"),
    ("Subnet", .object [("IP", .text "192.168.2.0"), ("Mask", .text "////AA==")])]

/-- A port with a second subnet has it without the first one, and has none when that is null. -/
theorem portStatus_null_not_absent :
    ¬(portStatus (.object (portWithSecondSubnet.set "IPv4Subnet" .null))).Agree
      (portStatus (.object (portWithSecondSubnet.without "IPv4Subnet"))) := by
  have second : (subnet (fieldOrNull portWithSecondSubnet "Subnet")).outcome ≠ .ok none := by nofun
  intro agree
  exact ((portStatus_differ second).agree_iff.mp agree).2.2 ⟨_, rfl⟩

end NodeConsole.Wire
