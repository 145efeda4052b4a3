/-!
# Binary floating point

Numbers with 53 significant bits, kept exactly as a sign, a significand and a power of two. Every
computation is carried out on natural numbers and rounded once, to nearest, ties to even.
-/

namespace NodeConsole.Decimal

/-- A 64-bit number. `finite negative significand exponent` is `significand * 2 ^ exponent` with its
sign; rounding keeps `significand` below `2 ^ 53` and `exponent` between -1074 and 971. -/
inductive Binary64 where
  | finite (negative : Bool) (significand : Nat) (exponent : Int)
  | infinite (negative : Bool)
  | notANumber
  deriving DecidableEq, Repr

/-- The quotient to the nearest integer; of two nearest, the even one. -/
def roundDiv (numerator denominator : Nat) : Nat :=
  let quotient := numerator / denominator
  let twice := 2 * (numerator % denominator)
  if twice < denominator then quotient
  else if denominator < twice then quotient + 1
  else if quotient % 2 = 0 then quotient else quotient + 1

/-- A fraction of two natural numbers. -/
structure Fraction where
  numerator : Nat
  denominator : Nat
  deriving DecidableEq, Repr

namespace Fraction

/-- A fraction times a power of a base. -/
def scale (fraction : Fraction) (base : Nat) (exponent : Int) : Fraction :=
  match exponent with
  | .ofNat power => ⟨fraction.numerator * Nat.pow base power, fraction.denominator⟩
  | .negSucc power => ⟨fraction.numerator, fraction.denominator * Nat.pow base (power + 1)⟩

/-- The nearest integer, ties to even. -/
def round (fraction : Fraction) : Nat :=
  roundDiv fraction.numerator fraction.denominator

/-- The integer part. -/
def floor (fraction : Fraction) : Nat :=
  fraction.numerator / fraction.denominator

/-- Comparison by cross multiplication. -/
def lt (left right : Fraction) : Bool :=
  left.numerator * right.denominator < right.numerator * left.denominator

/-- The distance between two fractions. -/
def distance (left right : Fraction) : Fraction :=
  let first := left.numerator * right.denominator
  let second := right.numerator * left.denominator
  ⟨(first - second) + (second - first), left.denominator * right.denominator⟩

end Fraction

namespace Binary64

/-- The smallest exponent. -/
def minExponent : Int := -1074

/-- The largest exponent. -/
def maxExponent : Int := 971

/-- The exponent at which a positive fraction has 53 significant bits, or the smallest exponent. -/
def exponentFor (fraction : Fraction) : Int :=
  let estimate : Int := (fraction.numerator.log2 : Int) - fraction.denominator.log2 - 53
  let scaled := fraction.scale 2 (-estimate)
  let exact :=
    if scaled.numerator < scaled.denominator * Nat.pow 2 53 then estimate else estimate + 1
  max exact minExponent

/-- The nearest number to a fraction, infinite if that is out of range. -/
def ofFraction (negative : Bool) (fraction : Fraction) : Binary64 :=
  if fraction.numerator = 0 then .finite negative 0 minExponent
  else
    let exponent := exponentFor fraction
    let significand := (fraction.scale 2 (-exponent)).round
    let (significand, exponent) :=
      if significand = Nat.pow 2 53 then (Nat.pow 2 52, exponent + 1) else (significand, exponent)
    if maxExponent < exponent then .infinite negative else .finite negative significand exponent

/-- The nearest number to a decimal `digits * 10 ^ exponent` whose first digit stands at the power
of ten `leading`. Far outside the range the powers themselves are not computed. -/
def ofDecimal (negative : Bool) (digits : Nat) (exponent leading : Int) : Binary64 :=
  if digits = 0 ∨ leading < -400 then .finite negative 0 minExponent
  else if 400 < leading then .infinite negative
  else ofFraction negative (Fraction.scale ⟨digits, 1⟩ 10 exponent)

/-- The nearest number to an integer. -/
def ofInt (number : Int) : Binary64 :=
  ofFraction (number < 0) ⟨number.natAbs, 1⟩

/-- The absolute value of a finite number. -/
def magnitude (significand : Nat) (exponent : Int) : Fraction :=
  Fraction.scale ⟨significand, 1⟩ 2 exponent

/-- Zero of either sign. -/
def isZero : Binary64 → Bool
  | .finite _ significand _ => significand = 0
  | _ => false

/-- Greater than zero. -/
def isPositive : Binary64 → Bool
  | .finite negative significand _ => !negative && significand ≠ 0
  | .infinite negative => !negative
  | .notANumber => false

/-- The integer part, rounded toward zero; infinities and the undefined value have none. -/
def truncate? : Binary64 → Option Int
  | .finite negative significand exponent =>
    let whole : Int := (magnitude significand exponent).floor
    some (if negative then -whole else whole)
  | _ => none

end Binary64

end NodeConsole.Decimal
