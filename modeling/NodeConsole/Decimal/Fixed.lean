import NodeConsole.Decimal.Binary64
import NodeConsole.Text.Integer

/-!
# Fixed places

A fraction written with a fixed number of digits after the point, rounded to nearest, ties to even.
-/

namespace NodeConsole.Decimal

open NodeConsole.Text

/-- A fraction with `places` digits after the point, and no point if there are none. -/
def fixed (places : Nat) (value : Fraction) : String :=
  let scaled := (value.scale 10 places).round
  let whole := decimalNat (scaled / Nat.pow 10 places)
  if places = 0 then whole
  else whole ++ "." ++ zeroPadded places (scaled % Nat.pow 10 places)

end NodeConsole.Decimal
