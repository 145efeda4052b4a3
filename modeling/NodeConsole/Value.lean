import NodeConsole.Decimal.Shortest
import NodeConsole.Text.Quoted

/-!
# Values

The data a status file or a configuration file can hold. Objects keep their fields in the order of
first appearance, and a repeated name keeps the value given last.
-/

namespace NodeConsole

open NodeConsole.Decimal NodeConsole.Text

/-- A value of a data file. -/
inductive Value where
  | null
  | bool (value : Bool)
  | integer (value : Int)
  | number (value : Binary64)
  | text (value : String)
  | list (items : List Value)
  | object (fields : List (String × Value))
  deriving BEq, Repr, Inhabited

/-- The fields of an object. -/
abbrev Fields := List (String × Value)

namespace Fields

/-- The value of a field, if it is present. -/
def get? (fields : Fields) (name : String) : Option Value :=
  (fields.find? (·.1 = name)).map (·.2)

/-- A field is present, whatever its value. -/
def has (fields : Fields) (name : String) : Bool :=
  fields.any (·.1 = name)

/-- Sets a field: in place if it is present, at the end otherwise. -/
def set (fields : Fields) (name : String) (value : Value) : Fields :=
  if fields.has name then fields.map fun field => if field.1 = name then (name, value) else field
  else fields ++ [(name, value)]

end Fields

namespace Value

/-- Nothing, zero and everything empty count as false, all else as true. -/
def isTruthy : Value → Bool
  | null => false
  | bool value => value
  | integer value => value ≠ 0
  | number value => !value.isZero
  | text value => value ≠ ""
  | list items => !items.isEmpty
  | object fields => !fields.isEmpty

/-- The name of a value's kind, as messages give it. -/
def kindName : Value → String
  | null => "NoneType"
  | bool _ => "bool"
  | integer _ => "int"
  | number _ => "float"
  | text _ => "str"
  | list _ => "list"
  | object _ => "dict"

/-- A text between quotes. -/
def quotedText (value : String) : String :=
  String.ofList (Text.quoted value.toList)

mutual

/-- A value as messages show it, texts between quotes. -/
def quoted : Value → String
  | null => "None"
  | bool value => if value then "True" else "False"
  | integer value => decimal value
  | number value => value.text
  | text value => quotedText value
  | list items => "[" ++ joinWith ", " (quotedItems items) ++ "]"
  | object fields => "\x7b" ++ joinWith ", " (quotedFields fields) ++ "\x7d"

/-- The items of a list, each as messages show it. -/
def quotedItems : List Value → List String
  | [] => []
  | item :: rest => quoted item :: quotedItems rest

/-- The fields of an object, each as messages show it. -/
def quotedFields : List (String × Value) → List String
  | [] => []
  | (name, value) :: rest => (quotedText name ++ ": " ++ quoted value) :: quotedFields rest

end

/-- A value as text: a text stands for itself, all else is shown as in messages. -/
def display : Value → String
  | text value => value
  | value => quoted value

/-- A list of texts. -/
def ofTexts (texts : List String) : Value :=
  list (texts.map text)

/-- A text, or nothing. -/
def ofText? : Option String → Value
  | some value => text value
  | none => null

/-- A natural number. -/
def ofNat (number : Nat) : Value :=
  integer number

end Value

end NodeConsole
