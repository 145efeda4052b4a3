import NodeConsole.Text.Blank
import NodeConsole.Text.DecimalDigit
import NodeConsole.Text.Hex
import NodeConsole.Text.Parts

/-!
# Integers in text

An integer may be surrounded by blanks, may carry a sign, and may have single underscores between
its digits. Digits of every script count. A decimal integer has at most `decimalDigitLimit` digits,
leading zeros included; a hexadecimal one may be of any length and may start with `0x`.
-/

namespace NodeConsole.Text

/-- The sum of numbers. -/
def total (numbers : List Nat) : Nat :=
  numbers.foldr (· + ·) 0

/-- The most digits a decimal integer may have. -/
def decimalDigitLimit : Nat := 4300

/-- The digits of a run in which single underscores may stand between two digits. -/
def digitRun? (value? : Char → Option Nat) : List Char → Option (List Nat)
  | [] => none
  | [c] => (value? c).map ([·])
  | c :: '_' :: rest => do
    let digit ← value? c
    let digits ← digitRun? value? rest
    pure (digit :: digits)
  | c :: rest => do
    let digit ← value? c
    let digits ← digitRun? value? rest
    pure (digit :: digits)

/-- The number that digits of a base write, most significant first. -/
def ofDigits (base : Nat) (digits : List Nat) : Nat :=
  digits.foldl (fun number digit => base * number + digit) 0

/-- Reads an optional sign and leaves the magnitude to `magnitude?`. -/
def signed? (magnitude? : List Char → Option Nat) : List Char → Option Int
  | '-' :: rest => (magnitude? rest).map fun number => -(number : Int)
  | '+' :: rest => (magnitude? rest).map fun number => (number : Int)
  | text => (magnitude? text).map fun number => (number : Int)

/-- A run of decimal digits within the limit. -/
def decimalMagnitude? (text : List Char) : Option Nat := do
  let digits ← digitRun? decimalDigit? text
  guard (digits.length ≤ decimalDigitLimit)
  pure (ofDigits 10 digits)

/-- A decimal integer. -/
def integer? (text : List Char) : Option Int :=
  signed? decimalMagnitude? (trim isNumberBlank text)

/-- The value of a hexadecimal digit, where decimal digits may be of any script. -/
def anyHexValue? (c : Char) : Option Nat :=
  (hexValue? c).or (decimalDigit? c)

/-- What follows the optional base mark; one underscore may separate the two. -/
def withoutBaseMark : List Char → List Char
  | marker :: 'x' :: '_' :: rest =>
    if decimalDigit? marker = some 0 then rest else marker :: 'x' :: '_' :: rest
  | marker :: 'X' :: '_' :: rest =>
    if decimalDigit? marker = some 0 then rest else marker :: 'X' :: '_' :: rest
  | marker :: 'x' :: rest =>
    if decimalDigit? marker = some 0 then rest else marker :: 'x' :: rest
  | marker :: 'X' :: rest =>
    if decimalDigit? marker = some 0 then rest else marker :: 'X' :: rest
  | text => text

/-- A run of hexadecimal digits, after an optional base mark. -/
def hexMagnitude? (text : List Char) : Option Nat :=
  (digitRun? anyHexValue? (withoutBaseMark text)).map (ofDigits 16)

/-- A hexadecimal integer. -/
def hexInteger? (text : List Char) : Option Int :=
  signed? hexMagnitude? (trim isNumberBlank text)

/-- The decimal text of an integer. -/
def decimal (number : Int) : String :=
  match number with
  | .ofNat magnitude => String.ofList (Nat.toDigits 10 magnitude)
  | .negSucc predecessor => String.ofList ('-' :: Nat.toDigits 10 (predecessor + 1))

/-- The decimal text of a natural number. -/
def decimalNat (number : Nat) : String :=
  String.ofList (Nat.toDigits 10 number)

/-- Decimal digits padded with zeros on the left up to a width. -/
def zeroPadded (width : Nat) (number : Nat) : String :=
  let digits := Nat.toDigits 10 number
  String.ofList (List.replicate (width - digits.length) '0' ++ digits)

end NodeConsole.Text
