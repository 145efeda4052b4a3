import NodeConsole.Value

/-!
# JSON output

Writes a value as JSON in ASCII characters, on one line or indented by two blanks a level.
-/

namespace NodeConsole.Json

open NodeConsole.Text NodeConsole.Decimal

/-- A unit of sixteen bits after `\u`. -/
def unitText (unit : Nat) : List Char :=
  '\\' :: 'u' :: hexDigits 4 unit

/-- One character of a string. -/
def stringChar (c : Char) : List Char :=
  if c = '"' then ['\\', '"']
  else if c = '\\' then ['\\', '\\']
  else if c = '\n' then ['\\', 'n']
  else if c = '\r' then ['\\', 'r']
  else if c = '\t' then ['\\', 't']
  else if c = '\x08' then ['\\', 'b']
  else if c = '\x0c' then ['\\', 'f']
  else if 32 ≤ c.toNat ∧ c.toNat < 127 then [c]
  else if c.toNat < 0x10000 then unitText c.toNat
  else
    let above := c.toNat - 0x10000
    unitText (0xd800 + above / 1024) ++ unitText (0xdc00 + above % 1024)

/-- A string between its quotes. -/
def stringText (text : String) : String :=
  String.ofList ('"' :: text.toList.flatMap stringChar ++ ['"'])

/-- The text of a 64-bit number. -/
def numberText : Binary64 → String
  | .notANumber => "NaN"
  | .infinite negative => if negative then "-Infinity" else "Infinity"
  | value => value.text

mutual

/-- A value on one line. -/
def render : Value → String
  | .null => "null"
  | .bool value => if value then "true" else "false"
  | .integer value => decimal value
  | .number value => numberText value
  | .text value => stringText value
  | .list found => "[" ++ joinWith ", " (renderItems found) ++ "]"
  | .object found => "\x7b" ++ joinWith ", " (renderFields found) ++ "\x7d"

/-- The items of a list. -/
def renderItems : List Value → List String
  | [] => []
  | item :: rest => render item :: renderItems rest

/-- The fields of an object. -/
def renderFields : List (String × Value) → List String
  | [] => []
  | (name, value) :: rest => (stringText name ++ ": " ++ render value) :: renderFields rest

end

/-- A line break and the indentation of a level. -/
def lineStart (level : Nat) : String :=
  String.ofList ('\n' :: List.replicate (2 * level) ' ')

/-- Entries between brackets, each on a line of its own; nothing stands between empty brackets. -/
def block (level : Nat) (opening closing : String) (entries : List String) : String :=
  if entries.isEmpty then opening ++ closing
  else
    opening ++ lineStart (level + 1) ++ joinWith ("," ++ lineStart (level + 1)) entries ++
      lineStart level ++ closing

mutual

/-- A value with one entry a line. -/
def indented (level : Nat) : Value → String
  | .list found => block level "[" "]" (indentedItems (level + 1) found)
  | .object found => block level "\x7b" "\x7d" (indentedFields (level + 1) found)
  | value => render value

/-- The items of a list. -/
def indentedItems (level : Nat) : List Value → List String
  | [] => []
  | item :: rest => indented level item :: indentedItems level rest

/-- The fields of an object. -/
def indentedFields (level : Nat) : List (String × Value) → List String
  | [] => []
  | (name, value) :: rest =>
    (stringText name ++ ": " ++ indented level value) :: indentedFields level rest

end

end NodeConsole.Json
