import NodeConsole.Decimal.Fixed
import NodeConsole.Numeral
import NodeConsole.Text.Parts

/-!
# Labels

Short texts for numbers, as the panels show them.
-/

namespace NodeConsole.Panel

open NodeConsole.Text NodeConsole.Decimal

/-- Texts in a row, a dash if there are none. -/
def joinOrDash (texts : List String) : String :=
  if texts.isEmpty then "-" else joinWith ", " texts

/-- A text, a dash if it is empty. -/
def orDash (text : String) : String :=
  if text = "" then "-" else text

/-- A value in the place of a coded state: nothing, or an unknown code. -/
def rawCodeLabel : Value → String
  | .null => "-"
  | value => "?(" ++ value.display ++ ")"

/-- How a port gets its address, by its code. -/
def dhcpLabel (code : Int) : String :=
  match code with
  | 0 => "Noop"
  | 1 => "Static"
  | 2 => "None"
  | 3 => "Deprecated"
  | 4 => "DHCP"
  | code => "?(" ++ decimal code ++ ")"

/-- The time of a kernel record: seconds with six places. Times before the start count as zero. -/
def recordTime (micros : Int) : String :=
  let total := micros.toNat
  "[" ++ String.ofList (padLeft 6 (decimalNat (total / 1000000)).toList) ++ "." ++
    zeroPadded 6 (total % 1000000) ++ "]"

/-- The style of a kernel record; the lowest three bits of its level count. -/
def levelStyle (level : Int) : String :=
  match level % 8 with
  | 0 => "bold red"
  | 1 => "bold red"
  | 2 => "red"
  | 3 => "red"
  | 4 => "yellow"
  | 5 => "cyan"
  | 7 => "dim"
  | _ => "default"

/-- The units of sizes after bytes, each 1024 times the one before. -/
def sizeUnits : List String := ["KiB", "MiB", "GiB"]

/-- A size in the first unit in which it is below 1024, or in the last unit. -/
def inUnits (size : Fraction) : List String → String
  | [] => fixed 1 size
  | [unit] => fixed 1 size ++ " " ++ unit
  | unit :: rest =>
    if size.lt ⟨1024, 1⟩ then fixed 1 size ++ " " ++ unit
    else inUnits (size.scale 1024 (-1)) rest

/-- The text of a size. -/
def sizeText : Binary64 → String
  | .finite false significand exponent =>
    let size := Binary64.magnitude significand exponent
    if size.lt ⟨1024, 1⟩ then fixed 0 size ++ " B" else inUnits (size.scale 1024 (-1)) sizeUnits
  | .infinite false => "inf GiB"
  | _ => "0 B"

/-- A size is too large for a 64-bit number. -/
structure SizeOutOfRange where
  deriving DecidableEq, Repr

/-- The text of a number of bytes; negative ones count as zero. -/
def humanBytes (size : Int) : Except SizeOutOfRange String :=
  match Binary64.ofInt (max 0 size) with
  | .infinite _ => .error ⟨⟩
  | value => .ok (sizeText value)

/-- The text of the size that a value stands for. -/
def humanSize : Value → Except NumeralFault String
  | .number value => .ok (sizeText (if value.isPositive then value else .finite false 0 0))
  | value =>
    match value.exactInteger? with
    | some size => (humanBytes size).mapError fun _ => .outOfRange
    | none => .error .wrongKind

end NodeConsole.Panel
