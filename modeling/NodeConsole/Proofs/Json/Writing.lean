import NodeConsole.Proofs.Json.Strings
import NodeConsole.Proofs.Text.Digits
import NodeConsole.Proofs.Text.Parts

/-!
# Written values

What starts with a written value starts with one value only, and the same follows it:
`Layout.tells_write`. A string ends at its quote and a list at its bracket, but an integer ends only
where no digit follows, so that is asked of what follows a value. Values that are written alike are
therefore the same, on one line as well as with one entry a line: `Layout.write_injective`. This is
said of values without 64-bit numbers.
-/

namespace NodeConsole

/-- There are no 64-bit numbers in a value, at any depth. -/
inductive Value.IsPlain : Value → Prop where
  | null : IsPlain .null
  | bool (value : Bool) : IsPlain (.bool value)
  | integer (value : Int) : IsPlain (.integer value)
  | text (value : String) : IsPlain (.text value)
  | list {items : List Value} (all : ∀ item ∈ items, IsPlain item) : IsPlain (.list items)
  | object {fields : Fields} (all : ∀ field ∈ fields, IsPlain field.2) : IsPlain (.object fields)

attribute [simp] Value.IsPlain.null Value.IsPlain.bool Value.IsPlain.integer Value.IsPlain.text

@[simp]
theorem Value.isPlain_list {items : List Value} :
    (list items).IsPlain ↔ ∀ item ∈ items, item.IsPlain := by
  refine ⟨fun plain => ?_, .list⟩
  cases plain with
  | list all => exact all

@[simp]
theorem Value.isPlain_object {fields : Fields} :
    (object fields).IsPlain ↔ ∀ field ∈ fields, field.2.IsPlain := by
  refine ⟨fun plain => ?_, .object⟩
  cases plain with
  | object all => exact all

/-- A value holds no other. -/
def Value.isScalar : Value → Bool
  | list _ => false
  | object _ => false
  | _ => true

namespace Json

open NodeConsole.Text

variable {rest more : List Char}

/-! ## Integers -/

/-- A number is written in one digit or more. -/
theorem exists_toDigits (number : Nat) :
    ∃ first others, Nat.toDigits 10 number = first :: others ∧ first.isDigit = true := by
  obtain ⟨first, others, digits⟩ := List.exists_cons_of_ne_nil (@Nat.toDigits_ne_nil number 10)
  have member : first ∈ Nat.toDigits 10 number := by
    rw [digits]
    exact List.mem_cons_self
  exact ⟨first, others, digits, isDigit_of_mem_toDigits member⟩

/-- The digits of a number start with no sign. -/
theorem toDigits_append_ne_sign (number : Nat) : Nat.toDigits 10 number ++ rest ≠ '-' :: more := by
  intro same
  obtain ⟨first, others, digits, digit⟩ := exists_toDigits number
  rw [digits, List.cons_append] at same
  rw [(List.cons.inj same).1] at digit
  cases digit

/-- An integer can be told from what follows. -/
theorem decimal_append_inj {number other : Int} (ends : EndsNumber rest)
    (moreEnds : EndsNumber more)
    (same : (decimal number).toList ++ rest = (decimal other).toList ++ more) :
    number = other ∧ rest = more := by
  unfold decimal at same
  cases number with
  | ofNat magnitude =>
    cases other with
    | ofNat otherMagnitude =>
      rw [String.toList_ofList, String.toList_ofList] at same
      obtain ⟨rfl, sameRest⟩ := toDigits_append_inj ends moreEnds same
      exact ⟨rfl, sameRest⟩
    | negSucc _ =>
      rw [String.toList_ofList, String.toList_ofList] at same
      exact absurd same (toDigits_append_ne_sign magnitude)
  | negSucc predecessor =>
    cases other with
    | ofNat otherMagnitude =>
      rw [String.toList_ofList, String.toList_ofList] at same
      exact absurd same.symm (toDigits_append_ne_sign otherMagnitude)
    | negSucc otherPredecessor =>
      rw [String.toList_ofList, String.toList_ofList] at same
      obtain ⟨sameNumber, sameRest⟩ :=
        toDigits_append_inj ends moreEnds (List.cons.inj same).2
      cases sameNumber
      exact ⟨rfl, sameRest⟩

/-! ## Entries -/

section Entries

variable {α : Type} {text : α → List Char} {valid : α → Prop} {items others : List α}
  {left right : Char} {opening between closing : List Char}

/-- An item can be told from what follows its text. -/
def Tells (text : α → List Char) (valid : α → Prop) (item : α) : Prop :=
  ∀ other, valid other → ∀ rest more, EndsNumber rest → EndsNumber more →
    text item ++ rest = text other ++ more → item = other ∧ rest = more

/-- What follows the first entry: the other entries, each behind a comma, and what closes them. -/
def following (between closing : List Char) : List (List Char) → List Char
  | [] => closing
  | entry :: entries => ',' :: (between ++ (entry ++ following between closing entries))

/-- Entries between brackets; nothing stands between empty brackets. -/
def enclosed (left right : Char) (opening between closing : List Char) :
    List (List Char) → List Char
  | [] => [left, right]
  | entry :: entries =>
    left :: (opening ++ (entry ++ following between (closing ++ [right]) entries))

/-- What closes entries starts with no comma and no digit. -/
def Closes (closing : List Char) : Prop :=
  ∃ c rest, closing = c :: rest ∧ c ≠ ',' ∧ c.isDigit = false

/-- A number ends before what follows an entry. -/
theorem endsNumber_following (closes : Closes closing) (entries : List (List Char))
    (rest : List Char) : EndsNumber (following between closing entries ++ rest) := by
  cases entries with
  | nil =>
    obtain ⟨first, closed, rfl, -, noDigit⟩ := closes
    rintro _ ⟨⟩
    exact noDigit
  | cons entry entries =>
    rintro _ ⟨⟩
    rfl

theorem closing_ne_following (closes : Closes closing) (entry : List Char)
    (entries : List (List Char)) :
    closing ++ rest ≠ following between closing (entry :: entries) ++ more := by
  obtain ⟨first, closed, rfl, noComma, -⟩ := closes
  intro same
  exact noComma (List.cons.inj same).1

/-- Entries can be told from their texts when each can be. -/
theorem following_append_inj (closes : Closes closing)
    (tells : ∀ item ∈ items, Tells text valid item) (allValid : ∀ item ∈ others, valid item)
    (same : following between closing (items.map text) ++ rest =
      following between closing (others.map text) ++ more) : items = others ∧ rest = more := by
  induction items generalizing others with
  | nil =>
    cases others with
    | nil => exact ⟨rfl, List.append_cancel_left same⟩
    | cons other others => exact absurd same (closing_ne_following closes _ _)
  | cons item items inductionHypothesis =>
    cases others with
    | nil => exact absurd same.symm (closing_ne_following closes _ _)
    | cons other others =>
      rw [List.forall_mem_cons] at tells allValid
      simp only [List.map_cons, following, List.cons_append, List.append_assoc] at same
      have sameEntries := List.append_cancel_left (List.cons.inj same).2
      obtain ⟨rfl, sameFollowing⟩ := tells.1 other allValid.1 _ _ (endsNumber_following closes _ _)
        (endsNumber_following closes _ _) sameEntries
      obtain ⟨rfl, sameRest⟩ := inductionHypothesis tells.2 allValid.2 sameFollowing
      exact ⟨rfl, sameRest⟩

/-- Entries between brackets can be told from what follows when each can be. -/
theorem enclosed_append_inj (closes : Closes (closing ++ [right]))
    (apart : ∀ item, valid item → ∀ rest more, opening ++ (text item ++ rest) ≠ right :: more)
    (tells : ∀ item ∈ items, Tells text valid item) (itemsValid : ∀ item ∈ items, valid item)
    (othersValid : ∀ item ∈ others, valid item)
    (same : enclosed left right opening between closing (items.map text) ++ rest =
      enclosed left right opening between closing (others.map text) ++ more) :
    items = others ∧ rest = more := by
  cases items with
  | nil =>
    cases others with
    | nil => exact ⟨rfl, List.append_cancel_left same⟩
    | cons other others =>
      simp only [List.map_cons, enclosed, List.cons_append, List.append_assoc] at same
      have valid := (List.forall_mem_cons.mp othersValid).1
      exact absurd (List.cons.inj same).2.symm (apart other valid _ _)
  | cons item items =>
    cases others with
    | nil =>
      simp only [List.map_cons, enclosed, List.cons_append, List.append_assoc] at same
      have valid := (List.forall_mem_cons.mp itemsValid).1
      exact absurd (List.cons.inj same).2 (apart item valid _ _)
    | cons other others =>
      rw [List.forall_mem_cons] at tells othersValid
      simp only [List.map_cons, enclosed, List.cons_append, List.append_assoc] at same
      have sameEntries := List.append_cancel_left (List.cons.inj same).2
      obtain ⟨rfl, sameFollowing⟩ := tells.1 other othersValid.1 _ _
        (endsNumber_following closes _ _) (endsNumber_following closes _ _) sameEntries
      obtain ⟨rfl, sameRest⟩ := following_append_inj closes tells.2 othersValid.2 sameFollowing
      exact ⟨rfl, sameRest⟩

/-- Joined entries are the first one and what follows it. -/
theorem joinWith_append {separator : String} (isComma : separator.toList = ',' :: between)
    (entry : String) (entries : List String) (closing : List Char) :
    (joinWith separator (entry :: entries)).toList ++ closing =
      entry.toList ++ following between closing (entries.map String.toList) := by
  unfold joinWith
  induction entries generalizing entry with
  | nil => rw [String.intercalate_singleton]; rfl
  | cons second entries inductionHypothesis =>
    rw [String.intercalate_cons_cons, String.toList_append, String.toList_append, isComma,
      List.append_assoc, List.append_assoc, inductionHypothesis]
    rfl

end Entries

/-! ## Blanks -/

theorem eq_of_isSpace {c : Char} (blank : isSpace c = true) :
    c = ' ' ∨ c = '\t' ∨ c = '\n' ∨ c = '\r' := by
  simpa [isSpace, or_assoc] using blank

theorem isDigit_of_isSpace {c : Char} (blank : isSpace c = true) : c.isDigit = false := by
  obtain rfl | rfl | rfl | rfl := eq_of_isSpace blank <;> rfl

theorem ne_of_isSpace {c other : Char} (blank : isSpace c = true)
    (noBlank : isSpace other = false) : c ≠ other := by
  rintro rfl
  rw [noBlank] at blank
  cases blank

/-! ## Layouts -/

/-- The characters that write an item. -/
def itemText (write : Value → String) (item : Value) : List Char :=
  (write item).toList

/-- The characters that write a field: its name and its value. -/
def fieldText (write : Value → String) (field : String × Value) : List Char :=
  (stringText field.1 ++ ": " ++ write field.2).toList

/-- A way to write values at a level, with blanks around the entries of lists and objects. -/
structure Layout where
  write : Nat → Value → String
  opening : Nat → List Char
  between : Nat → List Char
  closing : Nat → List Char
  opening_blank : ∀ level, ∀ c ∈ opening level, isSpace c = true
  closing_blank : ∀ level, ∀ c ∈ closing level, isSpace c = true
  write_scalar : ∀ level value, value.isScalar = true → write level value = render value
  write_list : ∀ level items, (write level (.list items)).toList =
    enclosed '[' ']' (opening level) (between level) (closing level)
      (items.map (itemText (write (level + 1))))
  write_object : ∀ level fields, (write level (.object fields)).toList =
    enclosed '\x7b' '\x7d' (opening level) (between level) (closing level)
      (fields.map (fieldText (write (level + 1))))

theorem renderItems_eq (items : List Value) : renderItems items = items.map render := by
  induction items with
  | nil => rfl
  | cons item rest inductionHypothesis => rw [renderItems, inductionHypothesis, List.map_cons]

/-- Fields on one line are rendered one by one. -/
theorem map_renderFields (fields : Fields) :
    (renderFields fields).map String.toList = fields.map (fieldText render) := by
  induction fields with
  | nil => rfl
  | cons field rest inductionHypothesis =>
    rw [renderFields, List.map_cons, inductionHypothesis, List.map_cons]
    rfl

theorem indentedItems_eq (level : Nat) (items : List Value) :
    indentedItems level items = items.map (indented level) := by
  induction items with
  | nil => rfl
  | cons item rest inductionHypothesis => rw [indentedItems, inductionHypothesis, List.map_cons]

/-- Indented fields are written one by one. -/
theorem map_indentedFields (level : Nat) (fields : Fields) :
    (indentedFields level fields).map String.toList = fields.map (fieldText (indented level)) := by
  induction fields with
  | nil => rfl
  | cons field rest inductionHypothesis =>
    rw [indentedFields, List.map_cons, inductionHypothesis, List.map_cons]
    rfl

/-- Entries on one line between brackets. -/
theorem toList_bracketed (left right : Char) (entries : List String) :
    (String.singleton left ++ joinWith ", " entries ++ String.singleton right).toList =
      enclosed left right [] [' '] [] (entries.map String.toList) := by
  rw [String.toList_append, String.toList_append, String.toList_singleton,
    String.toList_singleton]
  cases entries with
  | nil => rfl
  | cons entry entries =>
    rw [List.append_assoc, joinWith_append rfl]
    rfl

/-- Entries on lines of their own between brackets. -/
theorem toList_block (level : Nat) (left right : Char) (entries : List String) :
    (block level (String.singleton left) (String.singleton right) entries).toList =
      enclosed left right (lineStart (level + 1)).toList (lineStart (level + 1)).toList
        (lineStart level).toList (entries.map String.toList) := by
  have isComma : ("," ++ lineStart (level + 1)).toList = ',' :: (lineStart (level + 1)).toList :=
    String.toList_append
  unfold block
  cases entries with
  | nil =>
    rw [if_pos List.isEmpty_nil, String.toList_append, String.toList_singleton,
      String.toList_singleton]
    rfl
  | cons entry entries =>
    rw [List.isEmpty_cons, if_neg Bool.false_ne_true]
    simp only [String.toList_append, String.toList_singleton, List.append_assoc]
    rw [joinWith_append isComma]
    rfl

/-- All values on one line. -/
def Layout.oneLine : Layout where
  write _ := render
  opening _ := []
  between _ := [' ']
  closing _ := []
  opening_blank _ := List.forall_mem_nil _
  closing_blank _ := List.forall_mem_nil _
  write_scalar _ _ _ := rfl
  write_list _ items := by
    rw [render, renderItems_eq]
    exact (toList_bracketed '[' ']' _).trans (by rw [List.map_map]; rfl)
  write_object _ fields := by
    rw [render, ← map_renderFields]
    exact toList_bracketed '\x7b' '\x7d' _

/-- The characters at the start of a line are blanks. -/
theorem isSpace_of_mem_lineStart {level : Nat} {c : Char}
    (member : c ∈ (lineStart level).toList) : isSpace c = true := by
  rw [lineStart, String.toList_ofList] at member
  obtain rfl | member := List.mem_cons.mp member
  · rfl
  · rw [List.eq_of_mem_replicate member]
    rfl

/-- One entry a line. -/
def Layout.oneEntryALine : Layout where
  write := indented
  opening level := (lineStart (level + 1)).toList
  between level := (lineStart (level + 1)).toList
  closing level := (lineStart level).toList
  opening_blank _ _ := isSpace_of_mem_lineStart
  closing_blank _ _ := isSpace_of_mem_lineStart
  write_scalar level value scalar := by cases value <;> first | rfl | cases scalar
  write_list level items := by
    rw [indented, indentedItems_eq]
    exact (toList_block level '[' ']' _).trans (by rw [List.map_map]; rfl)
  write_object level fields := by
    rw [indented, ← map_indentedFields]
    exact toList_block level '\x7b' '\x7d' _

/-! ## Values -/

/-- The kind of the value that a character starts, if it starts one. -/
def startedKind (c : Char) : String :=
  if c.isDigit ∨ c = '-' then "int"
  else if c = 'n' then "NoneType"
  else if c = 't' ∨ c = 'f' then "bool"
  else if c = '"' then "str"
  else if c = '[' then "list"
  else if c = '\x7b' then "dict"
  else ""

theorem exists_enclosed (left right : Char) (opening between closing : List Char)
    (entries : List (List Char)) :
    ∃ rest, enclosed left right opening between closing entries = left :: rest := by
  cases entries with
  | nil => exact ⟨_, rfl⟩
  | cons entry entries => exact ⟨_, rfl⟩

/-- The first character of an integer is a digit or a sign. -/
theorem exists_decimal (number : Int) :
    ∃ c rest, (decimal number).toList = c :: rest ∧ startedKind c = "int" := by
  unfold decimal
  split
  · next magnitude =>
    obtain ⟨first, others, digits, digit⟩ := exists_toDigits magnitude
    exact ⟨first, others, by rw [String.toList_ofList, digits], if_pos (.inl digit)⟩
  · exact ⟨'-', _, String.toList_ofList, rfl⟩

theorem kindName_ne (value : Value) : value.kindName ≠ "" := by
  cases value <;> exact of_decide_eq_false rfl

theorem exists_fieldText (write : Value → String) (field : String × Value) :
    ∃ rest, fieldText write field = '"' :: rest := by
  simp only [fieldText, stringText, String.toList_append, String.toList_ofList, List.cons_append]
  exact ⟨_, rfl⟩

/-- A field can be told from what follows when its value can be. -/
theorem tells_fieldText {write : Value → String} {field : String × Value}
    (tells : Tells (itemText write) Value.IsPlain field.2) :
    Tells (fieldText write) (fun field => field.2.IsPlain) field := by
  intro other otherPlain rest more ends moreEnds same
  simp only [fieldText, String.toList_append, List.append_assoc] at same
  obtain ⟨sameName, same⟩ := stringText_append_inj same
  obtain ⟨sameValue, sameRest⟩ :=
    tells other.2 otherPlain rest more ends moreEnds (List.append_cancel_left same)
  exact ⟨Prod.ext sameName sameValue, sameRest⟩

namespace Layout

variable (layout : Layout) (level : Nat) {value other : Value}

@[simp]
theorem write_null : layout.write level .null = "null" :=
  layout.write_scalar level _ rfl

@[simp]
theorem write_bool (flag : Bool) :
    layout.write level (.bool flag) = if flag then "true" else "false" :=
  layout.write_scalar level _ rfl

@[simp]
theorem write_integer (number : Int) : layout.write level (.integer number) = decimal number :=
  layout.write_scalar level _ rfl

@[simp]
theorem write_text (found : String) : layout.write level (.text found) = stringText found :=
  layout.write_scalar level _ rfl

/-- The first character of a value tells its kind. -/
theorem exists_write (plain : value.IsPlain) :
    ∃ c rest, (layout.write level value).toList = c :: rest ∧ startedKind c = value.kindName := by
  cases plain with
  | null => exact ⟨'n', _, by rw [write_null]; rfl, rfl⟩
  | bool flag =>
    rw [write_bool]
    cases flag with
    | true => exact ⟨'t', _, rfl, rfl⟩
    | false => exact ⟨'f', _, rfl, rfl⟩
  | integer number =>
    rw [write_integer]
    exact exists_decimal number
  | text found =>
    rw [write_text]
    exact ⟨'"', _, String.toList_ofList, rfl⟩
  | list all =>
    rw [layout.write_list]
    obtain ⟨rest, same⟩ := exists_enclosed '[' ']' (layout.opening level) (layout.between level)
      (layout.closing level) _
    exact ⟨'[', rest, same, rfl⟩
  | object all =>
    rw [layout.write_object]
    obtain ⟨rest, same⟩ := exists_enclosed '\x7b' '\x7d' (layout.opening level)
      (layout.between level) (layout.closing level) _
    exact ⟨'\x7b', rest, same, rfl⟩

theorem kindName_eq (plain : value.IsPlain) (otherPlain : other.IsPlain)
    (same : (layout.write level value).toList ++ rest =
      (layout.write level other).toList ++ more) : value.kindName = other.kindName := by
  obtain ⟨c, _, text, kind⟩ := layout.exists_write level plain
  obtain ⟨d, _, otherText, otherKind⟩ := layout.exists_write level otherPlain
  rw [text, otherText] at same
  rw [← kind, ← otherKind, (List.cons.inj same).1]

/-- Blanks and a bracket close entries. -/
theorem closes_closing {right : Char} (noComma : right ≠ ',') (noDigit : right.isDigit = false) :
    Closes (layout.closing level ++ [right]) := by
  cases closing : layout.closing level with
  | nil => exact ⟨right, [], rfl, noComma, noDigit⟩
  | cons c rest =>
    have blank := layout.closing_blank level c (by rw [closing]; exact List.mem_cons_self)
    exact ⟨c, rest ++ [right], rfl, ne_of_isSpace blank rfl, isDigit_of_isSpace blank⟩

/-- Where there are entries, the bracket that closes them does not come first. -/
theorem opening_append_ne {right c : Char} {text : List Char} (noBlank : isSpace right = false)
    (apart : c ≠ right) : layout.opening level ++ (c :: text) ≠ right :: more := by
  intro same
  cases opening : layout.opening level with
  | nil =>
    rw [opening] at same
    exact apart (List.cons.inj same).1
  | cons blank blanks =>
    have isBlank := layout.opening_blank level blank (by rw [opening]; exact List.mem_cons_self)
    rw [opening] at same
    exact ne_of_isSpace isBlank noBlank (List.cons.inj same).1

/-- No item starts with the bracket that closes a list. -/
theorem opening_append_item (plain : value.IsPlain) (rest more : List Char) :
    layout.opening level ++ (itemText (layout.write (level + 1)) value ++ rest) ≠ ']' :: more := by
  obtain ⟨c, text, isText, kind⟩ := layout.exists_write (level + 1) plain
  rw [itemText, isText]
  refine layout.opening_append_ne level rfl ?_
  rintro rfl
  exact kindName_ne value kind.symm

theorem opening_append_field (field : String × Value) (rest more : List Char) :
    layout.opening level ++ (fieldText (layout.write (level + 1)) field ++ rest) ≠
      '\x7d' :: more := by
  obtain ⟨text, isText⟩ := exists_fieldText (layout.write (level + 1)) field
  rw [isText]
  exact layout.opening_append_ne level rfl (by decide)

/-- A value can be told from what follows. -/
theorem tells_write (plain : value.IsPlain) :
    Tells (itemText (layout.write level)) Value.IsPlain value := by
  -- By induction on the value, since a list can be told from what follows if its items can be.
  -- What is written alike is of one kind, so only values of one kind are left to be compared.
  induction plain generalizing level with
  | null =>
    intro other otherPlain rest more ends moreEnds same
    have kind := layout.kindName_eq level .null otherPlain same
    cases otherPlain with
    | null => exact ⟨rfl, List.append_cancel_left same⟩
    | _ => simp [Value.kindName] at kind
  | bool flag =>
    intro other otherPlain rest more ends moreEnds same
    have kind := layout.kindName_eq level (.bool flag) otherPlain same
    cases otherPlain with
    | bool otherFlag =>
      simp only [itemText, write_bool] at same
      cases flag <;> cases otherFlag
      · exact ⟨rfl, List.append_cancel_left same⟩
      · exact absurd (List.cons.inj same).1 (by decide)
      · exact absurd (List.cons.inj same).1 (by decide)
      · exact ⟨rfl, List.append_cancel_left same⟩
    | _ => simp [Value.kindName] at kind
  | integer number =>
    intro other otherPlain rest more ends moreEnds same
    have kind := layout.kindName_eq level (.integer number) otherPlain same
    cases otherPlain with
    | integer otherNumber =>
      simp only [itemText, write_integer] at same
      obtain ⟨rfl, sameRest⟩ := decimal_append_inj ends moreEnds same
      exact ⟨rfl, sameRest⟩
    | _ => simp [Value.kindName] at kind
  | text found =>
    intro other otherPlain rest more ends moreEnds same
    have kind := layout.kindName_eq level (.text found) otherPlain same
    cases otherPlain with
    | text otherFound =>
      simp only [itemText, write_text] at same
      obtain ⟨rfl, sameRest⟩ := stringText_append_inj same
      exact ⟨rfl, sameRest⟩
    | _ => simp [Value.kindName] at kind
  | list all inductionHypothesis =>
    intro other otherPlain rest more ends moreEnds same
    have kind := layout.kindName_eq level (.list all) otherPlain same
    cases otherPlain with
    | list othersAll =>
      simp only [itemText, layout.write_list] at same
      have tells := fun item member => inductionHypothesis item member (level + 1)
      obtain ⟨rfl, sameRest⟩ := enclosed_append_inj (layout.closes_closing level (by decide) rfl)
        (fun item plain => layout.opening_append_item level plain) tells all othersAll same
      exact ⟨rfl, sameRest⟩
    | _ => simp [Value.kindName] at kind
  | object all inductionHypothesis =>
    intro other otherPlain rest more ends moreEnds same
    have kind := layout.kindName_eq level (.object all) otherPlain same
    cases otherPlain with
    | object othersAll =>
      simp only [itemText, layout.write_object] at same
      have tells := fun field member =>
        tells_fieldText (inductionHypothesis field member (level + 1))
      obtain ⟨rfl, sameRest⟩ := enclosed_append_inj (layout.closes_closing level (by decide) rfl)
        (fun field _ => layout.opening_append_field level field) tells all othersAll same
      exact ⟨rfl, sameRest⟩
    | _ => simp [Value.kindName] at kind

/-- Values that are written alike are the same. -/
theorem write_injective (plain : value.IsPlain) (otherPlain : other.IsPlain)
    (same : layout.write level value = layout.write level other) : value = other := by
  have ends : EndsNumber [] := nofun
  refine (layout.tells_write level plain other otherPlain [] [] ends ends ?_).1
  rw [itemText, itemText, same]

end Layout

end Json

end NodeConsole
