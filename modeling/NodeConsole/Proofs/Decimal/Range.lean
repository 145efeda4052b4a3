import Mathlib.Algebra.Group.Nat.Defs
import Mathlib.Tactic.Ring
import NodeConsole.Panel.Labels

/-!
# The range of binary floating point

A fraction is too large for a 64-bit number from the middle between the largest one and `2 ^ 1024`
on: `ofFraction_isInfinite_iff`. The middle itself is rounded up, because the significand above it
is the even one. Only then has a number of bytes no text: `humanBytes_fails_iff`.
-/

namespace NodeConsole.Decimal

/-! ## Rounding -/

/-- A quotient is rounded down below the middle and up above it, and to an even number in the
middle. -/
theorem roundDiv_cases (numerator denominator : Nat) :
    roundDiv numerator denominator = numerator / denominator ∧
        (2 * (numerator % denominator) < denominator ∨
          2 * (numerator % denominator) = denominator ∧ numerator / denominator % 2 = 0) ∨
      roundDiv numerator denominator = numerator / denominator + 1 ∧
        (denominator < 2 * (numerator % denominator) ∨
          2 * (numerator % denominator) = denominator ∧ numerator / denominator % 2 = 1) := by
  unfold roundDiv
  dsimp only
  generalize numerator / denominator = quotient
  generalize numerator % denominator = rest
  split
  · omega
  · split
    · omega
    · split <;> omega

/-- A quotient is rounded to an even number or above it when it is at most half below it. -/
theorem le_roundDiv_iff {numerator denominator target : Nat} (positive : 0 < denominator)
    (even : target % 2 = 0) :
    target ≤ roundDiv numerator denominator ↔
      2 * (target * denominator) ≤ 2 * numerator + denominator := by
  have parts := Nat.div_add_mod' numerator denominator
  have below := Nat.mod_lt numerator positive
  have rounded := roundDiv_cases numerator denominator
  generalize roundDiv numerator denominator = found at rounded ⊢
  generalize numerator / denominator = quotient at parts rounded
  generalize numerator % denominator = rest at parts below rounded
  obtain least | rfl | most :
      target ≤ quotient ∨ target = quotient + 1 ∨ quotient + 2 ≤ target := by
    omega
  · have product := Nat.mul_le_mul_right denominator least
    omega
  · -- The quotient is odd, so that it is rounded up in the middle.
    have product : (quotient + 1) * denominator = quotient * denominator + denominator :=
      Nat.succ_mul quotient denominator
    omega
  · have product := Nat.mul_le_mul_right denominator most
    rw [Nat.add_mul] at product
    omega

theorem roundDiv_le {numerator denominator limit : Nat} (below : numerator < limit * denominator) :
    roundDiv numerator denominator ≤ limit := by
  have quotient : numerator / denominator < limit :=
    Nat.div_lt_of_lt_mul (Nat.mul_comm limit denominator ▸ below)
  have rounded := roundDiv_cases numerator denominator
  omega

/-- The nearest whole number to a fraction over a power of two. -/
theorem Fraction.round_scale_negSucc (fraction : Fraction) (power : Nat) :
    (fraction.scale 2 (.negSucc power)).round =
      roundDiv fraction.numerator (2 * (2 ^ power * fraction.denominator)) := by
  have denominator : fraction.denominator * Nat.pow 2 (power + 1) =
      2 * (2 ^ power * fraction.denominator) := by
    change fraction.denominator * 2 ^ (power + 1) = _
    ring
  exact congrArg (roundDiv fraction.numerator) denominator

namespace Binary64

/-! ## The exponent of a fraction -/

/-- A number with at most some more bits than another, counted in two parts, is below that many
times the other one. -/
theorem lt_mul_of_log2_lt {number other first second : Nat} (proper : other ≠ 0)
    (below : number.log2 < other.log2 + (first + second)) :
    number < 2 ^ first * (2 ^ second * other) :=
  calc number < 2 ^ (number.log2 + 1) := Nat.lt_log2_self
    _ ≤ 2 ^ (first + second + other.log2) := Nat.pow_le_pow_right Nat.two_pos (by omega)
    _ = 2 ^ first * (2 ^ second * 2 ^ other.log2) := by ring
    _ ≤ 2 ^ first * (2 ^ second * other) :=
      Nat.mul_le_mul_left _ (Nat.mul_le_mul_left _ (Nat.log2_self_le proper))

/-- A number with more bits than another by more than some, counted in two parts, is at least that
many times the other one. -/
theorem mul_le_of_lt_log2 {number other first second : Nat} (positive : number ≠ 0)
    (above : other.log2 + (first + second) < number.log2) :
    2 ^ first * (2 ^ second * other) ≤ number :=
  calc 2 ^ first * (2 ^ second * other) ≤ 2 ^ first * (2 ^ second * 2 ^ (other.log2 + 1)) :=
      Nat.mul_le_mul_left _ (Nat.mul_le_mul_left _ (Nat.le_of_lt Nat.lt_log2_self))
    _ = 2 ^ (other.log2 + 1 + (first + second)) := by ring
    _ ≤ 2 ^ number.log2 := Nat.pow_le_pow_right Nat.two_pos (by omega)
    _ ≤ number := Nat.log2_self_le positive

theorem exponentFor_bounds (fraction : Fraction) :
    (fraction.numerator.log2 : Int) - fraction.denominator.log2 - 53 ≤ exponentFor fraction ∧
      exponentFor fraction ≤
        max ((fraction.numerator.log2 : Int) - fraction.denominator.log2 - 52) minExponent := by
  unfold exponentFor
  dsimp only
  split <;> omega

/-- Where the difference of the bits is an exponent, it is that of the fraction if that leaves it 53
bits. -/
theorem exponentFor_le_iff_of_bits {fraction : Fraction} {power : Nat}
    (difference : fraction.numerator.log2 = fraction.denominator.log2 + (53 + (power + 1))) :
    exponentFor fraction ≤ power + 1 ↔
      fraction.numerator < 2 ^ 53 * (2 ^ (power + 1) * fraction.denominator) := by
  have estimate : (fraction.numerator.log2 : Int) - fraction.denominator.log2 - 53 = power + 1 := by
    omega
  have down : -((power : Int) + 1) = .negSucc power := by omega
  have bits : (fraction.scale 2 (.negSucc power)).denominator * Nat.pow 2 53 =
      2 ^ 53 * (2 ^ (power + 1) * fraction.denominator) := by
    change fraction.denominator * 2 ^ (power + 1) * 2 ^ 53 = _
    ring
  have same : (fraction.scale 2 (.negSucc power)).numerator = fraction.numerator := rfl
  unfold exponentFor
  dsimp only
  rw [estimate, down]
  simp only [bits, same]
  unfold minExponent
  split
  · next few => exact iff_of_true (by omega) few
  · next many => exact iff_of_false (by omega) many

/-- A fraction has at most a positive exponent exactly when that leaves it 53 bits. -/
theorem exponentFor_le_iff {fraction : Fraction} (positive : fraction.numerator ≠ 0)
    (proper : fraction.denominator ≠ 0) {exponent : Nat} (large : exponent ≠ 0) :
    exponentFor fraction ≤ exponent ↔
      fraction.numerator < 2 ^ 53 * (2 ^ exponent * fraction.denominator) := by
  obtain ⟨power, rfl⟩ := Nat.exists_eq_succ_of_ne_zero large
  obtain ⟨least, most⟩ := exponentFor_bounds fraction
  unfold minExponent at most
  rcases Nat.lt_trichotomy fraction.numerator.log2
      (fraction.denominator.log2 + (53 + (power + 1))) with fewer | same | more
  · exact iff_of_true (by omega) (lt_mul_of_log2_lt proper fewer)
  · exact exponentFor_le_iff_of_bits same
  · exact iff_of_false (by omega) (Nat.not_lt.mpr (mul_le_of_lt_log2 positive more))

/-- One exponent more leaves room for one bit more. -/
theorem exponentFor_le_succ_iff {fraction : Fraction} (positive : fraction.numerator ≠ 0)
    (proper : fraction.denominator ≠ 0) (exponent : Nat) :
    exponentFor fraction ≤ exponent + 1 ↔
      fraction.numerator < 2 ^ 54 * (2 ^ exponent * fraction.denominator) := by
  have next : 2 ^ 54 * (2 ^ exponent * fraction.denominator) =
      2 ^ 53 * (2 ^ (exponent + 1) * fraction.denominator) := by
    ring
  rw [next]
  exact exponentFor_le_iff positive proper (Nat.succ_ne_zero exponent)

/-! ## Numbers out of range -/

theorem ofFraction_eq {fraction : Fraction} (positive : fraction.numerator ≠ 0) (negative : Bool) :
    ofFraction negative fraction =
      match
        if (fraction.scale 2 (-exponentFor fraction)).round = Nat.pow 2 53 then
          (Nat.pow 2 52, exponentFor fraction + 1)
        else ((fraction.scale 2 (-exponentFor fraction)).round, exponentFor fraction)
      with
      | (significand, exponent) =>
        if maxExponent < exponent then .infinite negative
        else .finite negative significand exponent :=
  if_neg positive

/-- A positive fraction is out of range when its exponent is too large, also after a significand
that is rounded up to 54 bits. -/
theorem ofFraction_isInfinite_iff_exponent {fraction : Fraction}
    (positive : fraction.numerator ≠ 0) :
    (∃ negative, ofFraction false fraction = .infinite negative) ↔
      maxExponent < exponentFor fraction ∨ exponentFor fraction = maxExponent ∧
        (fraction.scale 2 (-exponentFor fraction)).round = Nat.pow 2 53 := by
  rw [ofFraction_eq positive]
  generalize exponentFor fraction = exponent
  generalize (fraction.scale 2 (-exponent)).round = significand
  generalize Nat.pow 2 53 = full
  generalize Nat.pow 2 52 = half
  by_cases rounded : significand = full
  · rw [if_pos rounded]
    dsimp only
    by_cases large : maxExponent < exponent + 1
    · rw [if_pos large]
      have reached : maxExponent < exponent ∨ exponent = maxExponent := by omega
      exact iff_of_true ⟨_, rfl⟩ (reached.imp_right fun same => ⟨same, rounded⟩)
    · rw [if_neg large]
      refine iff_of_false nofun ?_
      omega
  · rw [if_neg rounded]
    dsimp only
    by_cases large : maxExponent < exponent
    · rw [if_pos large]
      exact iff_of_true ⟨_, rfl⟩ (.inl large)
    · rw [if_neg large]
      refine iff_of_false nofun ?_
      rintro (above | ⟨-, same⟩)
      · exact large above
      · exact rounded same

/-- A quotient of 53 bits is rounded up to the next power of two from the middle on between that
power and the largest number of 53 bits. -/
theorem roundDiv_eq_full_iff {number unit : Nat} (below : number < 2 ^ 54 * unit) :
    roundDiv number (2 * unit) = 2 ^ 53 ↔ (2 ^ 54 - 1) * unit ≤ number := by
  have positive : 0 < unit := by omega
  have most : roundDiv number (2 * unit) ≤ 2 ^ 53 := roundDiv_le (by omega)
  have reached : 2 ^ 53 ≤ roundDiv number (2 * unit) ↔
      2 * (2 ^ 53 * (2 * unit)) ≤ 2 * number + 2 * unit :=
    le_roundDiv_iff (by omega) (by decide)
  omega

/-- The middle between the largest 64-bit number and `2 ^ 1024`. -/
def overflow : Nat :=
  2 ^ 1024 - 2 ^ 970

theorem overflow_eq : overflow = (2 ^ 54 - 1) * 2 ^ 970 := by
  decide +kernel

theorem overflow_pos : 0 < overflow := by
  decide +kernel

theorem ofFraction_isInfinite_iff_of_maxExponent {fraction : Fraction}
    (positive : fraction.numerator ≠ 0) (exponent : exponentFor fraction = maxExponent)
    (below : fraction.numerator < 2 ^ 54 * (2 ^ 970 * fraction.denominator)) :
    (∃ negative, ofFraction false fraction = .infinite negative) ↔
      (2 ^ 54 - 1) * (2 ^ 970 * fraction.denominator) ≤ fraction.numerator := by
  have down : -maxExponent = .negSucc 970 := by decide
  rw [ofFraction_isInfinite_iff_exponent positive, exponent, down, Fraction.round_scale_negSucc,
    ← roundDiv_eq_full_iff below]
  exact ⟨fun found => found.resolve_left (Int.lt_irrefl _) |>.2, fun full => .inr ⟨rfl, full⟩⟩

/-- A fraction is out of range from the middle on that is above the largest number. -/
theorem ofFraction_isInfinite_iff {fraction : Fraction} (proper : fraction.denominator ≠ 0) :
    (∃ negative, ofFraction false fraction = .infinite negative) ↔
      overflow * fraction.denominator ≤ fraction.numerator := by
  have scaled (power : Nat) : 0 < 2 ^ power * fraction.denominator :=
    Nat.mul_pos (Nat.pow_pos Nat.two_pos) (Nat.pos_of_ne_zero proper)
  rw [overflow_eq, Nat.mul_assoc]
  by_cases none : fraction.numerator = 0
  · have zero : ofFraction false fraction = .finite false 0 minExponent := if_pos none
    have unit := scaled 970
    generalize 2 ^ 970 * fraction.denominator = unit at unit ⊢
    rw [zero, none]
    exact iff_of_false nofun (by omega)
  · have outside := ofFraction_isInfinite_iff_exponent none
    have atMost := ofFraction_isInfinite_iff_of_maxExponent none
    have small : exponentFor fraction ≤ (970 : Nat) ↔ _ :=
      exponentFor_le_iff none proper (Nat.succ_ne_zero 969)
    have middle : exponentFor fraction ≤ (970 : Nat) + 1 ↔ _ :=
      exponentFor_le_succ_iff none proper 970
    unfold maxExponent at outside atMost
    obtain below | same | above : exponentFor fraction ≤ 970 ∨ exponentFor fraction = 971 ∨
        971 < exponentFor fraction := by
      omega
    · have few := small.mp below
      generalize 2 ^ 970 * fraction.denominator = unit at few ⊢
      exact iff_of_false (outside.not.mpr (by omega)) (by omega)
    · have room := middle.mp (le_of_eq same)
      refine atMost same ?_
      generalize 2 ^ 970 * fraction.denominator = unit at room ⊢
      omega
    · have many := middle.not.mp (by omega)
      generalize 2 ^ 970 * fraction.denominator = unit at many ⊢
      exact iff_of_true (outside.mpr (.inl above)) (by omega)

/-- A whole number is out of range from the middle on that is above the largest number. -/
theorem ofInt_isInfinite_iff (number : Nat) :
    (∃ negative, ofInt number = .infinite negative) ↔ overflow ≤ number := by
  have unfolded : ofInt number = ofFraction false ⟨number, 1⟩ := by
    have sign : ¬(number : Int) < 0 := by omega
    simp [ofInt, sign]
  rw [unfolded, ofFraction_isInfinite_iff Nat.one_ne_zero, Nat.mul_one]

end Binary64

end NodeConsole.Decimal

namespace NodeConsole.Panel

open NodeConsole.Decimal

/-- A number of bytes has no text exactly when it is out of range. -/
theorem humanBytes_fails_iff (size : Int) :
    humanBytes size = .error ⟨⟩ ↔ (Binary64.overflow : Int) ≤ size := by
  have clipped : max 0 size = (size.toNat : Int) := by omega
  have infinite := Binary64.ofInt_isInfinite_iff size.toNat
  have least := Binary64.overflow_pos
  have same : Binary64.overflow ≤ size.toNat ↔ (Binary64.overflow : Int) ≤ size := by omega
  rw [← same, ← infinite]
  unfold humanBytes
  rw [clipped]
  cases Binary64.ofInt (size.toNat : Int) with
  | infinite negative => exact iff_of_true rfl ⟨negative, rfl⟩
  | finite negative significand exponent => exact iff_of_false nofun nofun
  | notANumber => exact iff_of_false nofun nofun

end NodeConsole.Panel
