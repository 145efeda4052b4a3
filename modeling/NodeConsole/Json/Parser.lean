import NodeConsole.Value

/-!
# JSON text

Reads a text into a value. Numbers with a point or an exponent are read as 64-bit numbers, all
others as integers of at most `decimalDigitLimit` digits; `NaN`, `Infinity` and `-Infinity` are
accepted. Control characters in strings are refused. Nesting is bounded by the caller.
-/

namespace NodeConsole.Json

open NodeConsole.Text NodeConsole.Decimal

/-- Why a text is refused. -/
inductive Fault where
  | malformed
  | tooManyDigits (count : Nat)
  | nestedTooDeep
  deriving DecidableEq, Repr

/-- Blanks between tokens. -/
def isSpace (c : Char) : Bool :=
  c = ' ' || c = '\t' || c = '\n' || c = '\r'

/-- A text without the blanks at its start. -/
def skipSpace (text : List Char) : List Char :=
  text.dropWhile isSpace

/-- Four hexadecimal digits. -/
def unit? : List Char → Option (Nat × List Char)
  | a :: b :: c :: d :: rest => do
    let value ← hexNumber? [a, b, c, d]
    pure (value, rest)
  | _ => none

/-- A character of a pair of surrogates, if the two units form one. -/
def pair? (high low : Nat) : Option Char :=
  if 0xd800 ≤ high ∧ high < 0xdc00 ∧ 0xdc00 ≤ low ∧ low < 0xe000 then
    some (Char.ofNat (0x10000 + (high - 0xd800) * 1024 + (low - 0xdc00)))
  else none

/-- The character of a unit that stands alone; half of a pair is replaced by a mark. -/
def loneUnit (value : Nat) : Char :=
  if 0xd800 ≤ value ∧ value < 0xe000 then '\uFFFD' else Char.ofNat value

/-- The character after `\u`: one unit, or two if they form a pair. -/
def escapedUnit? (text : List Char) : Option (Char × List Char) := do
  let (first, rest) ← unit? text
  match rest with
  | '\\' :: 'u' :: more =>
    match unit? more with
    | some (second, after) =>
      match pair? first second with
      | some c => pure (c, after)
      | none => pure (loneUnit first, rest)
    | none => pure (loneUnit first, rest)
  | _ => pure (loneUnit first, rest)

/-- The character that a letter after a backslash stands for. -/
def escapedLetter? : Char → Option Char
  | '"' => some '"'
  | '\\' => some '\\'
  | '/' => some '/'
  | 'b' => some '\x08'
  | 'f' => some '\x0c'
  | 'n' => some '\n'
  | 'r' => some '\r'
  | 't' => some '\t'
  | _ => none

/-- The rest of a string after its opening quote. Every step takes at least one character, so the
length of the text is fuel enough. -/
def stringBody : Nat → List Char → Except Fault (List Char × List Char)
  | 0, _ => .error .malformed
  | _ + 1, [] => .error .malformed
  | fuel + 1, c :: rest =>
    if c = '"' then .ok ([], rest)
    else if c = '\\' then
      match rest with
      | 'u' :: digits =>
        match escapedUnit? digits with
        | none => .error .malformed
        | some (decoded, after) =>
          (stringBody fuel after).map fun (body, last) => (decoded :: body, last)
      | letter :: after =>
        match escapedLetter? letter with
        | none => .error .malformed
        | some decoded => (stringBody fuel after).map fun (body, last) => (decoded :: body, last)
      | [] => .error .malformed
    else if c.toNat < 32 then .error .malformed
    else (stringBody fuel rest).map fun (body, last) => (c :: body, last)

/-- A string whose opening quote has been read. -/
def string (text : List Char) : Except Fault (String × List Char) :=
  (stringBody (text.length + 1) text).map fun (body, rest) => (String.ofList body, rest)

/-- The digits at the start of a text. -/
def digits (text : List Char) : List Char × List Char :=
  leading isAsciiDigit text

/-- The digits after a point, if the text starts with a point and a digit. -/
def fraction? : List Char → Option (List Char × List Char)
  | '.' :: rest =>
    match digits rest with
    | ([], _) => none
    | found => some found
  | _ => none

/-- An exponent with its sign, if the text starts with one. -/
def exponent? : List Char → Option (Int × List Char)
  | mark :: rest =>
    if mark = 'e' ∨ mark = 'E' then
      let (negative, rest) : Bool × List Char :=
        match rest with
        | '-' :: rest => (true, rest)
        | '+' :: rest => (false, rest)
        | rest => (false, rest)
      match digits rest with
      | ([], _) => none
      | (found, rest) =>
        -- an exponent of more than nine digits is out of range whatever the digits are
        let significant := found.dropWhile (· = '0')
        let power := if 9 < significant.length then Nat.pow 10 9
          else ofDigits 10 (significant.filterMap decimalDigit?)
        some (if negative then -(power : Int) else power, rest)
    else none
  | [] => none

/-- The value of decimal digits. -/
def digitsValue (found : List Char) : Nat :=
  ofDigits 10 (found.filterMap decimalDigit?)

/-- The number that starts a text with these whole digits. -/
def numberFrom (negative : Bool) (whole rest : List Char) : Except Fault (Value × List Char) :=
  let withPart := fraction? rest
  let part := (withPart.map (·.1)).getD []
  let rest := (withPart.map (·.2)).getD rest
  let withPower := exponent? rest
  let power := (withPower.map (·.1)).getD 0
  let rest := (withPower.map (·.2)).getD rest
  if withPart.isNone ∧ withPower.isNone then
    if decimalDigitLimit < whole.length then .error (.tooManyDigits whole.length)
    else
      let value : Int := digitsValue whole
      .ok (.integer (if negative then -value else value), rest)
  else
    let all := whole ++ part
    let significant := all.dropWhile (· = '0')
    let exponent := power - part.length
    let leading := exponent + significant.length - 1
    .ok (.number (.ofDecimal negative (digitsValue significant) exponent leading), rest)

/-- A number, after its sign. A number that starts with zero has no further whole digits. -/
def number (negative : Bool) (text : List Char) : Except Fault (Value × List Char) :=
  match text with
  | '0' :: rest => numberFrom negative ['0'] rest
  | _ =>
    match digits text with
    | ([], _) => .error .malformed
    | (whole, rest) => numberFrom negative whole rest

/-- What follows a word at the start of a text. -/
def after? (word : String) (text : List Char) : Option (List Char) :=
  if word.toList.isPrefixOf text then some (text.drop word.length) else none

/-- The words that stand for a value. -/
def words : List (String × Value) :=
  [("null", .null), ("true", .bool true), ("false", .bool false), ("NaN", .number .notANumber),
   ("Infinity", .number (.infinite false)), ("-Infinity", .number (.infinite true))]

/-- A value that holds no other: a string, a word or a number. -/
def scalar (text : List Char) : Except Fault (Value × List Char) :=
  match text with
  | '"' :: rest => (string rest).map fun (value, rest) => (.text value, rest)
  | _ =>
    match words.findSome? fun (word, value) => (after? word text).map fun rest => (value, rest) with
    | some found => .ok found
    | none =>
      match text with
      | '-' :: rest => number true rest
      | _ => number false text

/-- The items of a list after its opening bracket and blanks. -/
def items (item : List Char → Except Fault (Value × List Char)) :
    Nat → List Char → Except Fault (List Value × List Char)
  | 0, _ => .error .malformed
  | fuel + 1, text => do
    let (first, rest) ← item text
    match skipSpace rest with
    | ',' :: rest => do
      let (others, rest) ← items item fuel (skipSpace rest)
      .ok (first :: others, rest)
    | ']' :: rest => .ok ([first], rest)
    | _ => .error .malformed

/-- The fields of an object after its opening brace and blanks, added to those read before. -/
def fields (item : List Char → Except Fault (Value × List Char)) :
    Nat → Fields → List Char → Except Fault (Fields × List Char)
  | 0, _, _ => .error .malformed
  | fuel + 1, before, text =>
    match text with
    | '"' :: rest => do
      let (name, rest) ← string rest
      match skipSpace rest with
      | ':' :: rest => do
        let (value, rest) ← item (skipSpace rest)
        match skipSpace rest with
        | ',' :: rest => fields item fuel (before.set name value) (skipSpace rest)
        | '\x7d' :: rest => .ok (before.set name value, rest)
        | _ => .error .malformed
      | _ => .error .malformed
    | _ => .error .malformed

/-- A value whose lists and objects are nested at most `depth` deep. -/
def value : Nat → List Char → Except Fault (Value × List Char)
  | 0, '[' :: _ => .error .nestedTooDeep
  | 0, '\x7b' :: _ => .error .nestedTooDeep
  | 0, text => scalar text
  | depth + 1, '[' :: rest =>
    match skipSpace rest with
    | ']' :: rest => .ok (.list [], rest)
    | rest =>
      (items (value depth) (rest.length + 1) rest).map fun (found, rest) => (.list found, rest)
  | depth + 1, '\x7b' :: rest =>
    match skipSpace rest with
    | '\x7d' :: rest => .ok (.object [], rest)
    | rest =>
      (fields (value depth) (rest.length + 1) [] rest).map fun (found, rest) =>
        (.object found, rest)
  | _ + 1, text => scalar text

/-- How deep the lists and objects of a file may be nested. -/
def nestingLimit : Nat := 980

/-- Reads a whole text, with blanks around the value. -/
def parse (depth : Nat) (text : List Char) : Except Fault Value := do
  let (found, rest) ← value depth (skipSpace text)
  if skipSpace rest = [] then .ok found else .error .malformed

end NodeConsole.Json
