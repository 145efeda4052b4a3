import NodeConsole.Value

/-!
# Values as numbers

Which values stand for a number: numbers and flags do, texts do if they are written like an integer.
-/

namespace NodeConsole

open NodeConsole.Text NodeConsole.Decimal

/-- Why a value is no number: it is of another kind, it is not written like one, or it has no
finite value of the kind asked for. -/
inductive NumeralFault where
  | wrongKind
  | malformed
  | outOfRange
  deriving DecidableEq, Repr

namespace Value

/-- The integer that a value stands for; fractions are cut off. -/
def toInteger : Value → Except NumeralFault Int
  | integer value => .ok value
  | bool value => .ok (if value then 1 else 0)
  | text value =>
    match integer? value.toList with
    | some found => .ok found
    | none => .error .malformed
  | number value =>
    match value.truncate? with
    | some whole => .ok whole
    | none => .error (if value = .notANumber then .malformed else .outOfRange)
  | _ => .error .wrongKind

/-- The integer that a value is; a flag counts as zero or one. -/
def exactInteger? : Value → Option Int
  | integer value => some value
  | bool value => some (if value then 1 else 0)
  | _ => none

/-- The texts that a value iterates over: the items of a list, the characters of a text, the names
of an object's fields. A value that counts as false has none. -/
def pieces? (value : Value) : Option (List String) :=
  if !value.isTruthy then some []
  else
    match value with
    | list items => some (items.map display)
    | text found => some (found.toList.map String.singleton)
    | object fields => some (fields.map (·.1))
    | _ => none

end Value

end NodeConsole
