import NodeConsole.Decimal.Binary64
import NodeConsole.Text.Integer

/-!
# Shortest decimal text

A finite number is written with the fewest decimal digits that read back as the same number, and
among these with the ones nearest to it. Numbers from `1e-4` up to `1e16` are written positionally
and always show a point; all others show an exponent of at least two digits.
-/

namespace NodeConsole

/-- `digits * 10 ^ exponent`. -/
structure Decimal where
  digits : Nat
  exponent : Int
  deriving DecidableEq, Repr

namespace Decimal

open NodeConsole.Text

/-- The value of a decimal. -/
def fraction (decimal : Decimal) : Fraction :=
  Fraction.scale ⟨decimal.digits, 1⟩ 10 decimal.exponent

/-- The power of ten at which the first digit of a positive fraction stands. -/
def leadingPower (value : Fraction) : Int :=
  if value.denominator ≤ value.numerator then
    ((Nat.toDigits 10 value.floor).length : Int) - 1
  else
    match (List.range 400).find? fun power =>
        value.denominator ≤ value.numerator * Nat.pow 10 (power + 1) with
    | some power => -((power : Int) + 1)
    | none => -400

/-- The two neighbours of a value on the grid of decimals with `count` digits. -/
def neighbours (value : Fraction) (leading : Int) (count : Nat) : Decimal × Decimal :=
  let exponent := leading - ((count : Int) - 1)
  let below := (value.scale 10 (-exponent)).floor
  (⟨below, exponent⟩, ⟨below + 1, exponent⟩)

/-- A decimal reads back as a positive finite number. -/
def readsBack (decimal : Decimal) (significand : Nat) (exponent : Int) : Bool :=
  Binary64.ofFraction false decimal.fraction = .finite false significand exponent

/-- The neighbour with `count` digits that reads back; of two, the nearer one. -/
def withDigits? (significand : Nat) (exponent leading : Int) (count : Nat) : Option Decimal :=
  let value := Binary64.magnitude significand exponent
  let (below, above) := neighbours value leading count
  match readsBack below significand exponent, readsBack above significand exponent with
  | true, true =>
    let toBelow := value.distance below.fraction
    let toAbove := value.distance above.fraction
    some (if toBelow.lt toAbove then below
      else if toAbove.lt toBelow then above
      else if below.digits % 2 = 0 then below else above)
  | true, false => some below
  | false, true => some above
  | false, false => none

/-- The shortest decimal that reads back as a positive finite number. Seventeen digits always do. -/
def shortest (significand : Nat) (exponent : Int) : Decimal :=
  let leading := leadingPower (Binary64.magnitude significand exponent)
  ((List.range 17).findSome? fun count =>
    withDigits? significand exponent leading (count + 1)).getD ⟨0, 0⟩

/-- Digits without the zeros at the end. -/
def withoutTrailingZeros (digits : List Char) : List Char :=
  dropLastWhile (· = '0') digits

/-- Digits whose first stands at the power `leading`, written positionally. -/
def positional (digits : List Char) (leading : Int) : List Char :=
  match leading with
  | .ofNat power =>
    let whole := digits.take (power + 1)
    let part := digits.drop (power + 1)
    let part := if part = [] then ['0'] else part
    whole ++ List.replicate (power + 1 - digits.length) '0' ++ '.' :: part
  | .negSucc zeros => '0' :: '.' :: List.replicate zeros '0' ++ digits

/-- Digits whose first stands at the power `leading`, written with an exponent. -/
def scientific (digits : List Char) (leading : Int) : List Char :=
  let part := digits.drop 1
  digits.take 1 ++ (if part = [] then [] else '.' :: part) ++
    ['e', if leading < 0 then '-' else '+'] ++ (zeroPadded 2 leading.natAbs).toList

/-- The text of a number. -/
def Binary64.text : Binary64 → String
  | .notANumber => "nan"
  | .infinite negative => if negative then "-inf" else "inf"
  | .finite negative significand exponent =>
    let sign := if negative then ['-'] else []
    if significand = 0 then String.ofList (sign ++ ['0', '.', '0'])
    else
      let decimal := shortest significand exponent
      let digits := Nat.toDigits 10 decimal.digits
      let leading := decimal.exponent + digits.length - 1
      let digits := withoutTrailingZeros digits
      String.ofList (sign ++
        if -4 ≤ leading ∧ leading < 16 then positional digits leading
        else scientific digits leading)

end Decimal

end NodeConsole
