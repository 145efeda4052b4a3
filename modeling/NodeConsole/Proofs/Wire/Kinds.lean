import Mathlib.Data.List.Forall2
import NodeConsole.Proofs.Net.Written
import NodeConsole.Proofs.Wire.Numbers
import NodeConsole.Proofs.Wire.Objects

/-!
# Kinds of values

What is read of a field is the zero value of its kind where the field is absent, null or empty, and
otherwise stems from a value of that kind. Texts, integers, states, times and addresses keep to
this; flags, registers, servers, identifiers, hardware addresses and the parts of a subnet do so
exactly for the values that are said here.
-/

namespace NodeConsole.Wire

open NodeConsole.Text NodeConsole.Net NodeConsole.Time

/-! ## Fields of values -/

/-- The fields of a value; none if it is no object. -/
def fieldsOf : Value → Fields
  | .object fields => fields
  | _ => []

/-- The items of a value; none if it is no list. -/
def itemsOf : Value → List Value
  | .list items => items
  | _ => []

/-- A field of a value; null if it is absent. -/
def fieldOf (found : Value) (name : String) : Value :=
  fieldOrNull (fieldsOf found) name

/-- A text. -/
def IsText (found : Value) : Prop :=
  ∃ text, found = .text text

/-- A text, or null. -/
def IsTextOrNull (found : Value) : Prop :=
  found = .null ∨ IsText found

/-- An integer. -/
def IsInteger (found : Value) : Prop :=
  ∃ number, found = .integer number

/-- A flag, or null. -/
def IsFlagOrNull (found : Value) : Prop :=
  found = .null ∨ ∃ flag, found = .bool flag

/-- Null, or an empty text. -/
def IsNothing (found : Value) : Prop :=
  found = .null ∨ found = .text ""

theorem IsNothing.isTextOrNull {found : Value} (nothing : IsNothing found) :
    IsTextOrNull found := by
  obtain null | empty := nothing
  · exact .inl null
  · exact .inr ⟨"", empty⟩

/-- Of null and the texts, just nothing does not count as true. -/
theorem IsTextOrNull.isTruthy_eq_false_iff {found : Value} (kind : IsTextOrNull found) :
    found.isTruthy = false ↔ IsNothing found := by
  obtain rfl | ⟨text, rfl⟩ := kind <;> simp [IsNothing, Value.isTruthy]

/-! ## What stems from values of a kind -/

section From

variable (found : Value)

/-- A text stems from a text, or is empty for null. -/
def TextFrom (result : String) : Prop :=
  found = .null ∧ result = "" ∨ found = .text result

/-- An integer stems from an integer, or is zero for null. -/
def IntegerFrom (result : Int) : Prop :=
  found = .null ∧ result = 0 ∨ found = .integer result

/-- A flag stems from a flag, or is false for null. -/
def FlagFrom (result : Bool) : Prop :=
  found = .null ∧ result = false ∨ found = .bool result

/-- A time stems from a text, or is none for null. -/
def TimeFrom (result : Option Instant) : Prop :=
  found = .null ∧ result = none ∨
    ∃ text, found = .text text ∧ (instantOf (timestamp text.toList)).outcome = .ok result

/-- An identifier stems from a text. -/
def UuidFrom (result : Uuid) : Prop :=
  ∃ text, found = .text text ∧ Uuid.ofText? text.toList = some result

/-- The identifier of a node stems from a text, or is none for null and for an empty or a zero
identifier. -/
def NodeUuidFrom (result : Option Uuid) : Prop :=
  (IsNothing found ∨ found = .text Uuid.nilText) ∧ result = none ∨
    ∃ uuid, UuidFrom found uuid ∧ result = some uuid

/-- A server stems from a text, or is none for null and an empty text. -/
def ServerFrom (result : Option String) : Prop :=
  IsNothing found ∧ result = none ∨ ∃ text, found = .text text ∧ result = some text

/-- An address stems from a text. -/
def AddressFrom (result : Address) : Prop :=
  ∃ text, found = .text text ∧ Address.ofText? text.toList = some result

/-- Results stem from the items of a list one by one, or are none for null. -/
def ListFrom {α : Type} (isFrom : Value → α → Prop) (result : Option (List α)) : Prop :=
  found = .null ∧ result = none ∨
    ∃ items results, found = .list items ∧ result = some results ∧
      List.Forall₂ isFrom items results

/-- A hardware address stems from a text, or is none for null and an empty text. -/
def HardwareFrom (result : Option String) : Prop :=
  IsNothing found ∧ result = none ∨
    ∃ text bytes, found = .text text ∧ Base64.decode text.toList = some bytes ∧
      result = some (hardwareText bytes)

/-- A subnet stems from two texts, or is none where one of them is nothing. -/
def SubnetFrom (result : Option Network) : Prop :=
  (IsNothing (fieldOf found "IP") ∨ IsNothing (fieldOf found "Mask")) ∧ result = none ∨
    ∃ start mask address bytes,
      fieldOf found "IP" = .text start ∧ Address.ofText? start.toList = some address ∧
        fieldOf found "Mask" = .text mask ∧ Base64.decode mask.toList = some bytes ∧
          result = Network.of? address (total (bytes.map bitCount))

/-- A register stems from an integer. -/
def RegisterFrom (result : Register) : Prop :=
  ∃ number, found = .integer number ∧ result = .index number

end From

/-! ## What is read of fields -/

namespace Reading

/-- Results stem from items exactly when each item has a property, if that is so for each item. -/
theorem gives_each_iff {α : Type} {read : Value → Reading α} {isFrom : Value → α → Prop}
    {property : Value → Prop}
    (each : ∀ item, (read item).Gives fun result => isFrom item result ↔ property item)
    (items : List Value) :
    (Reading.each read items).Gives fun results =>
      List.Forall₂ isFrom items results ↔ ∀ item ∈ items, property item := by
  induction items with
  | nil => exact gives_pure (iff_of_true .nil (List.forall_mem_nil _))
  | cons item rest inductionHypothesis =>
    refine gives_bind fun first readFirst => ?_
    refine gives_bind fun others readOthers => ?_
    refine gives_pure ?_
    rw [List.forall₂_cons, List.forall_mem_cons]
    exact and_congr (each item first readFirst) (inductionHypothesis others readOthers)

end Reading

open Reading

variable (payload : Value) (fields : Fields) (name : String)

theorem textField_from : (textField fields name).Gives (TextFrom (fieldOrNull fields name)) := by
  unfold textField
  split
  · next null => exact gives_pure (.inl ⟨null, rfl⟩)
  · next text => exact gives_pure (.inr text)
  · exact gives_refuse _

theorem integerField_from :
    (integerField fields name).Gives (IntegerFrom (fieldOrNull fields name)) := by
  unfold integerField
  split
  · next null => exact gives_pure (.inl ⟨null, rfl⟩)
  · next integer => exact gives_pure (.inr integer)
  · exact gives_refuse _

theorem timeField_from : (timeField fields name).Gives (TimeFrom (fieldOrNull fields name)) := by
  unfold timeField
  split
  · next null => exact gives_pure (.inl ⟨null, rfl⟩)
  · next text isText => exact fun result read => .inr ⟨text, isText, read⟩
  · exact gives_refuse _

/-- A state stems from its number. -/
theorem codedState_from (State : Type) [Codes State] (found : Value) :
    (codedState State found).Gives fun state => IntegerFrom found state.number := by
  have numbered (code : Int) :
      (codedState.numbered State code).Gives fun state => state.number = code := by
    unfold codedState.numbered
    split
    · next state member =>
      have found := List.find?_some member
      exact gives_pure (of_decide_eq_true found)
    · exact gives_bind fun _ _ => gives_pure rfl
  unfold codedState
  split
  · exact fun state read => .inl ⟨rfl, numbered 0 state read⟩
  · next code =>
    exact fun state read => .inr (congrArg Value.integer (numbered code state read).symm)
  · exact gives_refuse _

/-- A flag stems from its field exactly when that is a flag or null. -/
theorem flagField_from_iff :
    FlagFrom (fieldOrNull fields name) (flagField fields name) ↔
      IsFlagOrNull (fieldOrNull fields name) := by
  unfold flagField
  cases fieldOrNull fields name <;> simp [FlagFrom, IsFlagOrNull, Value.isTruthy]

/-- An identifier stems from its field exactly when that is a text. -/
theorem uuidOf_from_iff (found : Value) (field : String) :
    (uuidOf found field).Gives fun uuid => UuidFrom found uuid ↔ IsText found := by
  unfold uuidOf
  split
  · next uuid read =>
    refine gives_pure ⟨fun ⟨text, isText, _⟩ => ⟨text, isText⟩, ?_⟩
    rintro ⟨text, rfl⟩
    exact ⟨text, rfl, read⟩
  · exact gives_refuse _

/-- An address stems from its field. -/
theorem addressOf_from (field : String) (found : Value) :
    (addressOf field found).Gives (AddressFrom found) := by
  unfold addressOf
  split
  · next address read =>
    obtain ⟨text, rfl⟩ := Address.text_of_display read
    exact gives_pure ⟨text, rfl, read⟩
  · exact gives_refuse _

/-- Addresses stem from the items of their field. -/
theorem addressListField_from :
    (addressListField fields name).Gives (ListFrom (fieldOrNull fields name) AddressFrom) := by
  unfold addressListField
  split
  · next null => exact gives_pure (.inl ⟨null, rfl⟩)
  · next items isList =>
    have each (item : Value) : (addressOf name item).Gives fun address =>
        AddressFrom item address ↔ True := by
      intro address read
      exact iff_true_intro (addressOf_from name item address read)
    refine gives_bind fun addresses read => gives_pure (.inr ⟨items, addresses, isList, rfl, ?_⟩)
    exact (gives_each_iff each items addresses read).mpr fun _ _ => trivial
  · exact gives_refuse _

/-- A hardware address stems from its field exactly when that is a text or null. -/
theorem hardwareAddress_from_iff (found : Value) :
    (hardwareAddress found).Gives fun result => HardwareFrom found result ↔ IsTextOrNull found := by
  have kind {result : Option String} : HardwareFrom found result → IsTextOrNull found := by
    rintro (⟨nothing, -⟩ | ⟨text, bytes, isText, -⟩)
    · exact nothing.isTextOrNull
    · exact .inr ⟨text, isText⟩
  unfold hardwareAddress
  split
  · next falsy =>
    refine gives_pure ⟨kind, fun isText => ?_⟩
    exact .inl ⟨isText.isTruthy_eq_false_iff.mp (by simpa using falsy), rfl⟩
  · split
    · next text _ =>
      split
      · exact gives_refuse _
      · next bytes decoded =>
        split
        · exact gives_pure ⟨kind, fun _ => .inr ⟨text, bytes, rfl, decoded, rfl⟩⟩
        · exact gives_refuse _
    · nofun

/-- What a subnet is read of: nothing in one of its parts, or two texts. -/
def SubnetKeepsKinds (found : Value) : Prop :=
  IsNothing (fieldOf found "IP") ∨ IsNothing (fieldOf found "Mask") ∨
    IsText (fieldOf found "IP") ∧ IsText (fieldOf found "Mask")

theorem SubnetFrom.keepsKinds {found : Value} {result : Option Network}
    (stems : SubnetFrom found result) : SubnetKeepsKinds found := by
  obtain ⟨start | mask, -⟩ | ⟨start, mask, -, -, isStart, -, isMask, -⟩ := stems
  · exact .inl start
  · exact .inr (.inl mask)
  · exact .inr (.inr ⟨⟨start, isStart⟩, mask, isMask⟩)

/-- One of the parts that a subnet is read of is nothing exactly when one does not count as true. -/
theorem SubnetKeepsKinds.isNothing_iff {found : Value} (keeps : SubnetKeepsKinds found) :
    IsNothing (fieldOf found "IP") ∨ IsNothing (fieldOf found "Mask") ↔
      (fieldOf found "IP").isTruthy = false ∨ (fieldOf found "Mask").isTruthy = false := by
  have nothing {part : Value} (isNothing : IsNothing part) : part.isTruthy = false :=
    isNothing.isTextOrNull.isTruthy_eq_false_iff.mpr isNothing
  obtain start | mask | ⟨start, mask⟩ := keeps
  · exact iff_of_true (.inl start) (.inl (nothing start))
  · exact iff_of_true (.inr mask) (.inr (nothing mask))
  · exact or_congr (IsTextOrNull.isTruthy_eq_false_iff (.inr start)).symm
      (IsTextOrNull.isTruthy_eq_false_iff (.inr mask)).symm

/-- A subnet stems from its parts exactly when one of them is nothing or both are texts. -/
theorem subnet_from_iff (found : Value) :
    (subnet found).Gives fun result => SubnetFrom found result ↔ SubnetKeepsKinds found := by
  unfold subnet
  split
  · exact gives_pure ⟨SubnetFrom.keepsKinds, fun _ => .inl ⟨.inl (.inl rfl), rfl⟩⟩
  · refine gives_bind fun fields read => ?_
    obtain rfl := (objectFields_outcome _ _ _).mp read
    dsimp only
    split
    · next falsy =>
      refine gives_pure ⟨SubnetFrom.keepsKinds, fun keeps => ?_⟩
      exact .inl ⟨keeps.isNothing_iff.mpr (by simpa [fieldOf, fieldsOf] using falsy), rfl⟩
    · next truthy =>
      split
      · next text isMask =>
        simp only [pure_bind]
        split
        · next bytes decoded =>
          split
          · next address isAddress =>
            have stems {result : Option Network}
                (made : result = Network.of? address (total (bytes.map bitCount))) :
                SubnetFrom (.object fields) result ↔ SubnetKeepsKinds (.object fields) := by
              refine ⟨SubnetFrom.keepsKinds, fun keeps => ?_⟩
              have something : ¬(IsNothing (fieldOf (.object fields) "IP") ∨
                  IsNothing (fieldOf (.object fields) "Mask")) := by
                rw [keeps.isNothing_iff]
                simpa [fieldOf, fieldsOf] using truthy
              rw [SubnetKeepsKinds, ← or_assoc, or_iff_right something] at keeps
              obtain ⟨⟨written, isStart⟩, -⟩ := keeps
              simp only [fieldOf, fieldsOf] at isStart
              rw [isStart] at isAddress
              exact .inr ⟨written, text, address, bytes, isStart, isAddress, isMask, decoded, made⟩
            split
            · next network made => exact gives_pure (stems made.symm)
            · next unmade => exact gives_bind fun _ _ => gives_pure (stems unmade.symm)
          · exact gives_refuse _
        · exact gives_refuse _
      · nofun

/-- Registers stem from the items of a list exactly when all of these are integers. -/
theorem registers_from_iff {items : List Value} {registers : List Register}
    (read : items.mapM Register.ofValue? = some registers) :
    List.Forall₂ RegisterFrom items registers ↔ ∀ item ∈ items, IsInteger item := by
  induction items generalizing registers with
  | nil =>
    cases read
    exact iff_of_true .nil (List.forall_mem_nil _)
  | cons item rest inductionHypothesis =>
    rw [List.mapM_cons] at read
    obtain ⟨first, isFirst, read⟩ := Option.bind_eq_some_iff.mp read
    obtain ⟨others, areOthers, made⟩ := Option.bind_eq_some_iff.mp read
    cases made
    rw [List.forall₂_cons, List.forall_mem_cons, inductionHypothesis areOthers]
    refine and_congr_left fun _ => ⟨fun ⟨number, isInteger, _⟩ => ⟨number, isInteger⟩, ?_⟩
    rintro ⟨number, rfl⟩
    cases isFirst
    exact ⟨number, rfl, rfl⟩

/-- The registers of the vault stem from their field exactly when all of its items are integers. -/
theorem vaultRegisters_from_iff (found : Value) :
    (vaultRegisters found).Gives fun result =>
      ListFrom found RegisterFrom result ↔ ∀ item ∈ itemsOf found, IsInteger item := by
  cases found with
  | null => exact gives_pure (iff_of_true (.inl ⟨rfl, rfl⟩) (List.forall_mem_nil _))
  | list items =>
    unfold vaultRegisters
    dsimp only
    split
    · next registers read =>
      refine gives_pure ((registers_from_iff read).symm.trans ⟨?_, ?_⟩).symm
      · exact fun stems => .inr ⟨items, registers, rfl, rfl, stems⟩
      · rintro (⟨⟨⟩, -⟩ | ⟨_, _, ⟨⟩, ⟨⟩, stems⟩)
        exact stems
    · exact gives_refuse _
  | _ => exact gives_refuse _

/-- The identifier of a node stems from its field exactly when that is a text or null. -/
theorem nodeUuid_from_iff (found : Value) :
    (nodeUuid found).Gives fun result => NodeUuidFrom found result ↔ IsTextOrNull found := by
  have kind {result : Option Uuid} : NodeUuidFrom found result → IsTextOrNull found := by
    rintro (⟨nothing | zero, -⟩ | ⟨uuid, ⟨text, isText, -⟩, -⟩)
    · exact nothing.isTextOrNull
    · exact .inr ⟨_, zero⟩
    · exact .inr ⟨text, isText⟩
  unfold nodeUuid
  split
  · refine gives_map fun uuid read => ⟨kind, ?_⟩
    rintro (rfl | isText)
    · next present => simp [Value.isTruthy] at present
    · exact .inr ⟨uuid, (uuidOf_from_iff _ _ uuid read).mpr isText, rfl⟩
  · next absent =>
    refine gives_pure ⟨kind, ?_⟩
    rintro (rfl | ⟨text, rfl⟩)
    · exact .inl ⟨.inl (.inl rfl), rfl⟩
    · refine .inl ⟨?_, rfl⟩
      by_cases empty : text = ""
      · exact .inl (.inr (congrArg Value.text empty))
      · have zero : ¬text ≠ Uuid.nilText := by
          intro other
          simp [Value.isTruthy, Value.display, empty, other] at absent
        exact .inr (congrArg Value.text (Decidable.of_not_not zero))

/-- The server of a node stems from its field exactly when that is a text or null. -/
theorem server_from_iff (found : Value) :
    ServerFrom found (if found.isTruthy then some found.display else none) ↔
      IsTextOrNull found := by
  constructor
  · rintro (⟨nothing, -⟩ | ⟨text, isText, -⟩)
    · exact nothing.isTextOrNull
    · exact .inr ⟨text, isText⟩
  · intro kind
    cases truth : found.isTruthy with
    | false => exact .inl ⟨kind.isTruthy_eq_false_iff.mp truth, rfl⟩
    | true =>
      obtain rfl | ⟨text, rfl⟩ := kind
      · cases truth
      · exact .inr ⟨text, rfl, rfl⟩

end NodeConsole.Wire
