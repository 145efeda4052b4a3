import NodeConsole.Proofs.Json.Writing

/-!
# Values as data

Those who read an object do not depend on the order of its fields. Two values are the same data if
they differ in such orders alone: `Value.IsSameData`. What is the same data can be compared field by
field, `Value.IsSameData.field`.
-/

namespace NodeConsole

theorem Fields.get?_cons (field : String × Value) (fields : Fields) (name : String) :
    Fields.get? (field :: fields) name =
      if field.1 = name then some field.2 else fields.get? name := by
  rw [Fields.get?, List.find?_cons]
  by_cases isName : field.1 = name
  · simp [isName]
  · simp [isName, Fields.get?]

/-- Two values are the same data: their items are the same one by one, their fields name by name. -/
inductive Value.IsSameData : Value → Value → Prop where
  | null : IsSameData .null .null
  | bool (value : Bool) : IsSameData (.bool value) (.bool value)
  | integer (value : Int) : IsSameData (.integer value) (.integer value)
  | number (value : Decimal.Binary64) : IsSameData (.number value) (.number value)
  | text (value : String) : IsSameData (.text value) (.text value)
  | list {items others : List Value} (length : items.length = others.length)
      (same : ∀ (place : Nat) item other, items[place]? = some item → others[place]? = some other →
        IsSameData item other) :
      IsSameData (.list items) (.list others)
  | object {fields others : Fields}
      (names : ∀ name, (fields.get? name).isSome = (others.get? name).isSome)
      (same : ∀ name value other, fields.get? name = some value → others.get? name = some other →
        IsSameData value other) :
      IsSameData (.object fields) (.object others)

namespace Value

/-- A value is the same data as itself. -/
theorem IsPlain.isSameData {value : Value} (plain : value.IsPlain) : value.IsSameData value := by
  induction plain with
  | null => exact .null
  | bool value => exact .bool value
  | integer value => exact .integer value
  | text value => exact .text value
  | list all inductionHypothesis =>
    refine .list rfl fun place item other isItem isOther => ?_
    obtain rfl := Option.some.inj (isItem.symm.trans isOther)
    exact inductionHypothesis item (List.mem_of_getElem? isItem)
  | @object fields all inductionHypothesis =>
    refine .object (fun _ => rfl) fun name value other isValue isOther => ?_
    obtain rfl := Option.some.inj (isValue.symm.trans isOther)
    obtain ⟨field, found, rfl⟩ := Option.map_eq_some_iff.mp isValue
    exact inductionHypothesis field (List.mem_of_find?_eq_some found)

variable {value other : Value}

/-- The fields of plain data are plain. -/
theorem IsPlain.field {fields : Fields} {name : String} (plain : (Value.object fields).IsPlain)
    (isValue : fields.get? name = some value) : value.IsPlain := by
  obtain ⟨field, found, rfl⟩ := Option.map_eq_some_iff.mp isValue
  exact isPlain_object.mp plain field (List.mem_of_find?_eq_some found)

/-- Only nothing is the same data as nothing. -/
theorem IsSameData.eq_null_iff (same : value.IsSameData other) : value = .null ↔ other = .null := by
  cases same <;> simp

theorem IsSameData.text_inj {first second : String}
    (same : (Value.text first).IsSameData (.text second)) : first = second := by
  cases same
  rfl

theorem IsSameData.integer_inj {first second : Int}
    (same : (Value.integer first).IsSameData (.integer second)) : first = second := by
  cases same
  rfl

theorem IsSameData.bool_inj {first second : Bool}
    (same : (Value.bool first).IsSameData (.bool second)) : first = second := by
  cases same
  rfl

/-- Objects with one name more are the same data if the values of that name are. -/
theorem IsSameData.cons {fields others : Fields} (name : String) (same : value.IsSameData other)
    (rest : (Value.object fields).IsSameData (.object others)) :
    (Value.object ((name, value) :: fields)).IsSameData (.object ((name, other) :: others)) := by
  cases rest with
  | object names sameRest =>
    refine .object (fun asked => ?_) fun asked left right isLeft isRight => ?_
    · rw [Fields.get?_cons, Fields.get?_cons]
      split
      · rfl
      · exact names asked
    · rw [Fields.get?_cons] at isLeft isRight
      split at isLeft
      · next isName =>
        rw [if_pos isName] at isRight
        cases isLeft
        cases isRight
        exact same
      · next otherName =>
        rw [if_neg otherName] at isRight
        exact sameRest asked left right isLeft isRight

/-- The fields of a name are the same data. -/
theorem IsSameData.field {fields others : Fields}
    (same : (Value.object fields).IsSameData (.object others)) (name : String)
    (isValue : fields.get? name = some value) (isOther : others.get? name = some other) :
    value.IsSameData other := by
  cases same with
  | object _ same => exact same name value other isValue isOther

end Value

end NodeConsole
