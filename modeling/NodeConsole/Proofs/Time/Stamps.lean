import Mathlib.Data.Rat.Floor
import NodeConsole.Proofs.Json.Integers
import NodeConsole.Proofs.Text.Digits
import NodeConsole.Proofs.Time.Calendar
import NodeConsole.Time.Reading

/-!
# Stamps

A stamp is a date, a clock with any number of digits of a second, and a zone, as protocols write
them. Before it is read, its text is rewritten: the zone becomes numeric, and the digits after the
point are made six. The rewritten text is that of another stamp, `rewritten_text`, whose digits
count the whole microseconds of the moment, `floor_moment`.
-/

namespace NodeConsole.Time

open NodeConsole.Text

/-! ## Written stamps -/

/-- The zone of a stamp: universal time, or a distance ahead of it or behind it. -/
inductive Zone where
  | universal
  | ahead (hours minutes : Nat)
  | behind (hours minutes : Nat)
  deriving DecidableEq, Repr

/-- A number below a hundred in two digits. -/
def twoDigits (number : Nat) : List Char :=
  (zeroPadded 2 number).toList

/-- The digits after a point, if there are any. -/
def pointText (digits : List Char) : List Char :=
  if digits = [] then [] else '.' :: digits

namespace Zone

/-- A distance from universal time is less than a day. -/
def IsValid : Zone → Prop
  | universal => True
  | ahead hours minutes => hours < 24 ∧ minutes < 60
  | behind hours minutes => hours < 24 ∧ minutes < 60

/-- The seconds that a zone is ahead of universal time. -/
def distance : Zone → Int
  | universal => 0
  | ahead hours minutes => hours * 3600 + minutes * 60
  | behind hours minutes => -(hours * 3600 + minutes * 60)

/-- The text of a zone. -/
def text : Zone → List Char
  | universal => ['Z']
  | ahead hours minutes => '+' :: (twoDigits hours ++ ':' :: twoDigits minutes)
  | behind hours minutes => '-' :: (twoDigits hours ++ ':' :: twoDigits minutes)

/-- A zone as a distance. -/
def numeric : Zone → Zone
  | universal => ahead 0 0
  | zone => zone

end Zone

/-- A date, a clock with the digits of a fraction of the second, and a zone. -/
structure Stamp where
  date : Date
  hour : Nat
  minute : Nat
  second : Nat
  fraction : List Char
  zone : Zone
  deriving DecidableEq, Repr

namespace Stamp

/-- The date exists, and so does the time of day, which has no leap seconds; the fraction has digits
only. -/
structure IsValid (stamp : Stamp) : Prop where
  date : stamp.date.isValid = true
  hour : stamp.hour < 24
  minute : stamp.minute < 60
  second : stamp.second < 60
  fraction : ∀ c ∈ stamp.fraction, c.isDigit = true
  zone : stamp.zone.IsValid

/-- The text of the date. -/
def dateText (stamp : Stamp) : List Char :=
  (zeroPadded 4 stamp.date.year).toList ++
    '-' :: (twoDigits stamp.date.month ++ '-' :: twoDigits stamp.date.day)

/-- The text of the clock. -/
def clockText (stamp : Stamp) : List Char :=
  twoDigits stamp.hour ++
    ':' :: (twoDigits stamp.minute ++ ':' :: (twoDigits stamp.second ++ pointText stamp.fraction))

/-- The text of a stamp. -/
def text (stamp : Stamp) : List Char :=
  stamp.dateText ++ 'T' :: (stamp.clockText ++ stamp.zone.text)

/-- The whole seconds that the date and the clock stand for, counted from the first date. -/
def localSeconds (stamp : Stamp) : Nat :=
  stamp.date.toDays * 86400 + (stamp.hour * 3600 + stamp.minute * 60 + stamp.second)

/-- The moment that a stamp stands for, in seconds of universal time after the first midnight. -/
def moment (stamp : Stamp) : ℚ :=
  ((stamp.localSeconds : Int) - stamp.zone.distance : Int) +
    (Nat.ofDigitChars 10 stamp.fraction 0 : ℚ) / 10 ^ stamp.fraction.length

end Stamp

/-! ## Six digits -/

/-- The digits of a fraction as they are read: six of them, if there are any. -/
def sixDigits (digits : List Char) : List Char :=
  if digits = [] then [] else digits.take 6 ++ List.replicate (6 - digits.length) '0'

variable {digits front rest : List Char} {c : Char}

theorem length_sixDigits (some : digits ≠ []) : (sixDigits digits).length = 6 := by
  rw [sixDigits, if_neg some, List.length_append, List.length_take, List.length_replicate]
  omega

/-- Only digits are left. -/
theorem isDigit_of_mem_sixDigits (all : ∀ c ∈ digits, c.isDigit = true)
    (member : c ∈ sixDigits digits) : c.isDigit = true := by
  unfold sixDigits at member
  split at member
  · cases member
  · obtain kept | padding := List.mem_append.mp member
    · exact all c (List.mem_of_mem_take kept)
    · rw [List.eq_of_mem_replicate padding]
      rfl

/-- Digits write a number below the power of ten of their count. -/
theorem ofDigitChars_lt (all : ∀ c ∈ digits, c.isDigit = true) :
    Nat.ofDigitChars 10 digits 0 < 10 ^ digits.length := by
  have values : ∀ value ∈ digits.filterMap decimalDigit?, value < 10 := by
    intro value member
    obtain ⟨c, -, isValue⟩ := List.mem_filterMap.mp member
    exact decimalDigit_lt isValue
  have below := ofDigits_lt values
  rwa [ofDigits_filterMap all, filterMap_decimalDigit? all, List.length_map] at below

/-- The digits after the first ones count for less than one of the first. -/
theorem ofDigitChars_take (all : ∀ c ∈ digits, c.isDigit = true) (count : Nat) :
    Nat.ofDigitChars 10 (digits.take count) 0 =
      Nat.ofDigitChars 10 digits 0 / 10 ^ (digits.length - count) := by
  have split : Nat.ofDigitChars 10 (digits.take count ++ digits.drop count) 0 =
      Nat.ofDigitChars 10 (digits.drop count) (Nat.ofDigitChars 10 (digits.take count) 0) :=
    Nat.ofDigitChars_append 0
  rw [List.take_append_drop, Nat.ofDigitChars_eq_ofDigitChars_zero (l := digits.drop count),
    List.length_drop] at split
  have later : ∀ c ∈ digits.drop count, c.isDigit = true :=
    fun c member => all c (List.mem_of_mem_drop member)
  have below := ofDigitChars_lt later
  rw [List.length_drop] at below
  rw [split, Nat.mul_add_div (by positivity), Nat.div_eq_of_lt below, Nat.add_zero]

/-- Six digits write the whole millionths of a fraction. -/
theorem ofDigitChars_sixDigits (all : ∀ c ∈ digits, c.isDigit = true) :
    Nat.ofDigitChars 10 (sixDigits digits) 0 =
      Nat.ofDigitChars 10 digits 0 * 10 ^ 6 / 10 ^ digits.length := by
  unfold sixDigits
  split
  · next empty => rw [empty]; rfl
  · obtain few | many := Nat.le_total digits.length 6
    · rw [List.take_of_length_le few, Nat.ofDigitChars_append, Nat.ofDigitChars_replicate_zero]
      have power : 10 ^ 6 = 10 ^ (6 - digits.length) * 10 ^ digits.length := by
        rw [← Nat.pow_add, Nat.sub_add_cancel few]
      rw [power, ← Nat.mul_assoc, Nat.mul_div_cancel _ (by positivity), Nat.mul_comm]
    · have noPadding : 6 - digits.length = 0 := Nat.sub_eq_zero_of_le many
      have power : 10 ^ digits.length = 10 ^ (digits.length - 6) * 10 ^ 6 := by
        rw [← Nat.pow_add, Nat.sub_add_cancel many]
      rw [noPadding, List.replicate_zero, List.append_nil, ofDigitChars_take all, power,
        Nat.mul_div_mul_right _ _ (by positivity)]

/-- A text without a point stays as it is. -/
theorem sixDigitFractions_append (noPoint : '.' ∉ front) (rest : List Char) :
    sixDigitFractions none (front ++ rest) = front ++ sixDigitFractions none rest := by
  induction front with
  | nil => rfl
  | cons c front inductionHypothesis =>
    rw [List.mem_cons, not_or] at noPoint
    rw [List.cons_append, sixDigitFractions, if_neg (Ne.symm noPoint.1),
      inductionHypothesis noPoint.2, List.cons_append]

/-- The digits after a point are collected up to the first other character. -/
theorem sixDigitFractions_digits (all : ∀ c ∈ digits, c.isDigit = true) (found : List Char)
    (noDigit : isDecimalDigit c = false) (noPoint : c ≠ '.') :
    sixDigitFractions (some found) (digits ++ c :: rest) =
      sixDigitFractions.flush (some (digits.reverse ++ found)) ++
        c :: sixDigitFractions none rest := by
  induction digits generalizing found with
  | nil =>
    rw [List.nil_append, sixDigitFractions]
    simp [noDigit, noPoint]
  | cons digit digits inductionHypothesis =>
    obtain ⟨isDigit, others⟩ := List.forall_mem_cons.mp all
    rw [List.cons_append, sixDigitFractions]
    simp only [isDecimalDigit_of_isDigit isDigit, ↓reduceIte]
    rw [inductionHypothesis others, List.reverse_cons, List.append_assoc, List.singleton_append]

/-- The digits that have been collected are cut or padded to six. -/
theorem flush_reverse (some : digits ≠ []) :
    sixDigitFractions.flush (.some digits.reverse) = '.' :: sixDigits digits := by
  have padding : 6 - min 6 digits.length = 6 - digits.length := by omega
  rw [sixDigits, if_neg some]
  unfold sixDigitFractions.flush
  split
  · next absent => cases absent
  · next empty => exact absurd (List.reverse_eq_nil_iff.mp (Option.some.inj empty)) some
  · next found =>
    obtain rfl := Option.some.inj found
    simp [padding]

/-- A fraction before a zone is made six digits. -/
theorem sixDigitFractions_pointText (all : ∀ c ∈ digits, c.isDigit = true)
    (noDigit : isDecimalDigit c = false) (noPoint : '.' ∉ c :: rest) :
    sixDigitFractions none (pointText digits ++ c :: rest) =
      pointText (sixDigits digits) ++ c :: rest := by
  have noPointFirst : c ≠ '.' := Ne.symm (List.ne_of_not_mem_cons noPoint)
  have unchanged : sixDigitFractions none (c :: rest) = c :: rest := by
    have kept := sixDigitFractions_append noPoint []
    rwa [List.append_nil, sixDigitFractions, sixDigitFractions.flush, List.append_nil] at kept
  rcases eq_or_ne digits [] with rfl | some
  · exact unchanged
  · have someLeft : sixDigits digits ≠ [] :=
      List.ne_nil_of_length_pos (length_sixDigits some ▸ Nat.succ_pos 5)
    rw [pointText, if_neg some, List.cons_append, sixDigitFractions, if_pos rfl,
      sixDigitFractions_digits all [] noDigit noPointFirst, List.append_nil, flush_reverse some,
      pointText, if_neg someLeft]
    rw [sixDigitFractions, if_neg noPointFirst] at unchanged
    rw [List.cons_append, List.cons.inj unchanged |>.2, List.cons_append]

/-! ## Characters of stamps -/

theorem writes_twoDigits {number : Nat} (fits : number < 100) :
    Writes 2 number (twoDigits number) :=
  writes_zeroPadded (by decide) fits

/-- The two digits of a number below a hundred. -/
theorem exists_twoDigits {number : Nat} (fits : number < 100) :
    ∃ tens ones, twoDigits number = [tens, ones] ∧ tens.isDigit = true ∧ ones.isDigit = true := by
  have writes := writes_twoDigits fits
  obtain ⟨tens, ones, pair⟩ := List.length_eq_two.mp writes.length_eq
  have all := writes.digits
  rw [pair, List.forall_mem_cons, List.forall_mem_singleton] at all
  exact ⟨tens, ones, pair, all⟩

theorem not_mem_twoDigits (noDigit : c.isDigit = false) (number : Nat) : c ∉ twoDigits number :=
  fun member => Bool.eq_false_iff.mp noDigit (isDigit_of_mem_zeroPadded member)

/-- A fraction is written in digits after a point. -/
theorem not_mem_pointText (all : ∀ c ∈ digits, c.isDigit = true) (noDigit : c.isDigit = false)
    (noPoint : c ≠ '.') : c ∉ pointText digits := by
  have noMember : c ∉ digits := fun member => Bool.eq_false_iff.mp noDigit (all c member)
  unfold pointText
  split
  · exact List.not_mem_nil
  · simp [noMember, noPoint]

/-- A zone starts with a sign or is `Z`. -/
theorem startsZone_iff (c : Char) : startsZone c = true ↔ c = '+' ∨ c = '-' ∨ c = 'Z' := by
  rw [startsZone, Bool.or_eq_true, Bool.or_eq_true, decide_eq_true_eq, decide_eq_true_eq,
    decide_eq_true_eq, or_assoc]

namespace Zone

theorem exists_text (zone : Zone) :
    ∃ first rest, zone.text = first :: rest ∧ startsZone first = true := by
  cases zone with
  | universal => exact ⟨_, _, rfl, rfl⟩
  | ahead hours minutes => exact ⟨_, _, rfl, rfl⟩
  | behind hours minutes => exact ⟨_, _, rfl, rfl⟩

theorem not_mem_text (noDigit : c.isDigit = false) (noColon : c ≠ ':')
    (noStart : startsZone c = false) (zone : Zone) : c ∉ zone.text := by
  have noSign := mt (startsZone_iff c).mpr (Bool.eq_false_iff.mp noStart)
  simp only [not_or] at noSign
  cases zone <;> simp [text, not_mem_twoDigits noDigit, noColon, noSign]

end Zone

namespace Stamp

variable {stamp : Stamp}

theorem not_mem_dateText (noDigit : c.isDigit = false) (noHyphen : c ≠ '-') (stamp : Stamp) :
    c ∉ stamp.dateText := by
  have noYear : c ∉ (zeroPadded 4 stamp.date.year).toList :=
    fun member => Bool.eq_false_iff.mp noDigit (isDigit_of_mem_zeroPadded member)
  simp [dateText, noYear, not_mem_twoDigits noDigit, noHyphen]

theorem not_mem_clockText (valid : stamp.IsValid) (noDigit : c.isDigit = false) (noColon : c ≠ ':')
    (noPoint : c ≠ '.') : c ∉ stamp.clockText := by
  have noFraction := not_mem_pointText valid.fraction noDigit noPoint
  simp [clockText, not_mem_twoDigits noDigit, noColon, noFraction]

/-- The text of a stamp has no blanks. -/
theorem isBlank_of_mem_text (valid : stamp.IsValid) (member : c ∈ stamp.text) :
    isBlank c = false := by
  by_contra notVisible
  have other {mark : Char} (visible : isBlank mark = false) : c ≠ mark := by
    rintro rfl
    exact notVisible visible
  have noDigit : c.isDigit = false := by
    by_contra isDigit
    exact notVisible (isBlank_of_isDigit (Bool.eq_true_of_not_eq_false isDigit))
  have noStart : startsZone c = false := by
    refine Bool.eq_false_iff.mpr (mt (startsZone_iff c).mp ?_)
    rintro (plus | minus | zero)
    · exact other (by decide) plus
    · exact other (by decide) minus
    · exact other (by decide) zero
  have noDate := not_mem_dateText noDigit (other (by decide)) stamp
  have noClock := not_mem_clockText valid noDigit (other (by decide)) (other (by decide))
  have noZone := stamp.zone.not_mem_text noDigit (other (by decide)) noStart
  have noSeparator : c ≠ 'T' := other (by decide)
  simp [text, noDate, noSeparator, noClock, noZone] at member

end Stamp

/-! ## The rewritten text -/

namespace Zone

theorem numeric_spec {zone : Zone} (valid : zone.IsValid) :
    zone.numeric.IsValid ∧ zone.numeric.distance = zone.distance ∧ zone.numeric ≠ universal := by
  cases zone with
  | universal => exact ⟨⟨by decide, by decide⟩, rfl, nofun⟩
  | ahead hours minutes => exact ⟨valid, rfl, nofun⟩
  | behind hours minutes => exact ⟨valid, rfl, nofun⟩

/-- A text that ends in a digit keeps its zone. -/
theorem withNumericZone_digits {minutes : Nat} (few : minutes < 60) (front : List Char) :
    withNumericZone (front ++ twoDigits minutes) = front ++ twoDigits minutes := by
  obtain ⟨tens, ones, pair, -, isDigit⟩ := exists_twoDigits (Nat.lt_trans few (by decide))
  have noZone : ones ≠ 'Z' := by
    rintro rfl
    cases isDigit
  rw [withNumericZone, if_neg]
  simpa [pair] using noZone

/-- A final `Z` becomes a distance of zero. -/
theorem withNumericZone_text {zone : Zone} (valid : zone.IsValid) (front : List Char) :
    withNumericZone (front ++ zone.text) = front ++ zone.numeric.text := by
  cases zone with
  | universal =>
    have last : (front ++ text universal).getLast? = some 'Z' := by simp [text]
    rw [withNumericZone, if_pos last, text, List.dropLast_concat]
    rfl
  | ahead hours minutes =>
    have kept := withNumericZone_digits valid.2 (front ++ '+' :: (twoDigits hours ++ [':']))
    simpa [text, numeric] using kept
  | behind hours minutes =>
    have kept := withNumericZone_digits valid.2 (front ++ '-' :: (twoDigits hours ++ [':']))
    simpa [text, numeric] using kept

end Zone

namespace Stamp

variable {stamp : Stamp}

/-- The stamp that is read in place of a stamp: its zone is numeric and its fraction has six digits,
if any. -/
def rewritten (stamp : Stamp) : Stamp :=
  { stamp with fraction := sixDigits stamp.fraction, zone := stamp.zone.numeric }

/-- The stamp that is read in place of a valid one is valid. -/
theorem IsValid.rewritten (valid : stamp.IsValid) : stamp.rewritten.IsValid where
  date := valid.date
  hour := valid.hour
  minute := valid.minute
  second := valid.second
  fraction := fun _ => isDigit_of_mem_sixDigits valid.fraction
  zone := (Zone.numeric_spec valid.zone).1

/-- The text that is read is that of the rewritten stamp. -/
theorem rewritten_text (valid : stamp.IsValid) :
    sixDigitFractions none (withNumericZone stamp.text) = stamp.rewritten.text := by
  obtain ⟨first, rest, isText, starts⟩ := stamp.zone.numeric.exists_text
  have noDigit : isDecimalDigit first = false := by
    rcases (startsZone_iff first).mp starts with rfl | rfl | rfl <;> decide
  have noPoint : '.' ∉ first :: rest := by
    rw [← isText]
    exact stamp.zone.numeric.not_mem_text (by decide) (by decide) (by decide)
  let front := stamp.dateText ++ 'T' :: (twoDigits stamp.hour ++
    ':' :: (twoDigits stamp.minute ++ ':' :: twoDigits stamp.second))
  have noPointFront : '.' ∉ front := by
    have noDate : '.' ∉ stamp.dateText := not_mem_dateText (by decide) (by decide) stamp
    simp [front, noDate, not_mem_twoDigits]
  calc sixDigitFractions none (withNumericZone stamp.text)
      = sixDigitFractions none
          (withNumericZone (front ++ pointText stamp.fraction ++ stamp.zone.text)) := by
        simp [text, clockText, front]
    _ = sixDigitFractions none (front ++ (pointText stamp.fraction ++ first :: rest)) := by
        rw [Zone.withNumericZone_text valid.zone, isText, List.append_assoc]
    _ = front ++ (pointText (sixDigits stamp.fraction) ++ first :: rest) := by
        rw [sixDigitFractions_append noPointFront,
          sixDigitFractions_pointText valid.fraction noDigit noPoint]
    _ = stamp.rewritten.text := by
        simp [text, clockText, dateText, rewritten, front, isText]

/-- The whole microseconds of the moment that a stamp stands for. -/
theorem floor_moment (valid : stamp.IsValid) :
    ⌊stamp.moment * 10 ^ 6⌋ = ((stamp.localSeconds : Int) - stamp.zone.distance) * 10 ^ 6 +
      Nat.ofDigitChars 10 (sixDigits stamp.fraction) 0 := by
  have split : stamp.moment * 10 ^ 6 =
      ((((stamp.localSeconds : Int) - stamp.zone.distance) * 10 ^ 6 : Int) : ℚ) +
        ((Nat.ofDigitChars 10 stamp.fraction 0 * 10 ^ 6 : Nat) : Int) /
          ((10 ^ stamp.fraction.length : Nat) : ℚ) := by
    rw [moment]
    push_cast
    ring
  rw [split, Int.floor_intCast_add, Rat.floor_intCast_div_natCast,
    ofDigitChars_sixDigits valid.fraction]
  norm_cast

end Stamp

end NodeConsole.Time
