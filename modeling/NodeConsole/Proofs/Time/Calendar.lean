import Mathlib.Logic.Function.Iterate
import Mathlib.Order.Basic
import NodeConsole.Proofs.Text.Digits
import NodeConsole.Time.Calendar

/-!
# Days and dates

Days are counted from the first date, one for each step from a date to the next, within a month, to
the next month or to the next year: `iterate_next_toDays`. The date that is found for a day is the
one that is counted as that day: `toDays_ofDays`.
-/

namespace NodeConsole.Time

open NodeConsole.Text

/-- The days of a year. -/
def yearLength (year : Nat) : Nat :=
  if isLeap year then 366 else 365

theorem total_monthLengths (year : Nat) : total (monthLengths year) = yearLength year := by
  unfold monthLengths yearLength
  split <;> rfl

theorem yearLength_eq (year : Nat) :
    yearLength year =
      if year % 4 = 0 ∧ (year % 100 ≠ 0 ∨ year % 400 = 0) then 366 else 365 := by
  simp only [yearLength, isLeap, Bool.and_eq_true, Bool.or_eq_true, decide_eq_true_eq]

/-- A year comes after the days of the year before it. -/
theorem daysBeforeYear_succ {year : Nat} (some : 1 ≤ year) :
    daysBeforeYear (year + 1) = daysBeforeYear year + yearLength year := by
  obtain ⟨before, rfl⟩ := Nat.exists_eq_add_of_le' some
  have fours : (before + 1) / 4 = before / 4 + if (before + 1) % 4 = 0 then 1 else 0 := by
    split <;> omega
  have centuries : (before + 1) / 100 = before / 100 + if (before + 1) % 100 = 0 then 1 else 0 := by
    split <;> omega
  have cycles : (before + 1) / 400 = before / 400 + if (before + 1) % 400 = 0 then 1 else 0 := by
    split <;> omega
  have fewer : before / 100 ≤ before / 4 := by omega
  have century : (before + 1) % 100 = 0 → (before + 1) % 4 = 0 := by omega
  have cycle : (before + 1) % 400 = 0 → (before + 1) % 100 = 0 := by omega
  rw [yearLength_eq, daysBeforeYear, daysBeforeYear]
  simp only [Nat.add_sub_cancel, fours, centuries, cycles]
  clear fours centuries cycles
  split <;> split <;> split <;> simp_all <;> omega

/-- The days before a year that is some cycles of four hundred years, centuries, cycles of four
years and single years after the first. -/
theorem daysBeforeYear_of_cycles {cycles400 cycles100 cycles4 years : Nat} (few100 : cycles100 ≤ 3)
    (few4 : cycles4 ≤ 24) (few : years ≤ 3) :
    daysBeforeYear (cycles400 * 400 + cycles100 * 100 + cycles4 * 4 + years + 1) =
      cycles400 * 146097 + cycles100 * 36524 + cycles4 * 1461 + years * 365 := by
  rw [daysBeforeYear]
  omega

namespace Date

/-- The days of the month of a date. -/
def monthLength (date : Date) : Nat :=
  (monthLengths date.year).getD (date.month - 1) 0

/-- No month has more than 31 days. -/
theorem monthLength_le (date : Date) : date.monthLength ≤ 31 := by
  have all : ∀ length ∈ monthLengths date.year, length ≤ 31 := by
    unfold monthLengths
    split <;> decide
  rw [monthLength, List.getD_eq_getElem?_getD]
  cases found : (monthLengths date.year)[date.month - 1]? with
  | none => exact Nat.zero_le 31
  | some length => exact all length (List.mem_of_getElem? found)

theorem monthLength_pos {date : Date} (some : 1 ≤ date.month) (few : date.month ≤ 12) :
    1 ≤ date.monthLength := by
  have all : ∀ place < 12, 1 ≤ (monthLengths date.year).getD place 0 := by
    unfold monthLengths
    split <;> decide
  exact all (date.month - 1) (by omega)

/-- The date after a date: in the same month, in the next one, or in the next year. -/
def next (date : Date) : Date :=
  if date.day < date.monthLength then { date with day := date.day + 1 }
  else if date.month < 12 then { date with month := date.month + 1, day := 1 }
  else ⟨date.year + 1, 1, 1⟩

/-- What makes a date exist. -/
theorem isValid_iff (date : Date) :
    date.isValid = true ↔ (1 ≤ date.year ∧ date.year ≤ maxYear) ∧
      (1 ≤ date.month ∧ date.month ≤ 12) ∧ 1 ≤ date.day ∧ date.day ≤ date.monthLength := by
  simp only [isValid, monthLength, Bool.and_eq_true, decide_eq_true_eq]
  omega

/-- The days of a month come after those of the months before it. -/
theorem total_take_succ {lengths : List Nat} {place : Nat} (inside : place < lengths.length) :
    total (lengths.take (place + 1)) = total (lengths.take place) + lengths.getD place 0 := by
  induction lengths generalizing place with
  | nil => cases inside
  | cons length rest inductionHypothesis =>
    cases place with
    | zero => exact Nat.add_comm length 0
    | succ place =>
      have later := inductionHypothesis (Nat.lt_of_succ_lt_succ inside)
      simp only [total, List.take_succ_cons, List.foldr_cons, List.getD_cons_succ] at later ⊢
      omega

/-- The days before the month after that of a date, counted from the start of the year. -/
theorem total_take_month {date : Date} (some : 1 ≤ date.month) (few : date.month ≤ 12) :
    total ((monthLengths date.year).take date.month) =
      total ((monthLengths date.year).take (date.month - 1)) + date.monthLength := by
  have inside : date.month - 1 < (monthLengths date.year).length := by
    have twelve : (monthLengths date.year).length = 12 := rfl
    omega
  have counted := total_take_succ inside
  rwa [Nat.sub_add_cancel some] at counted

/-- The next date is one day later. -/
theorem toDays_next {date : Date} (valid : date.isValid = true) :
    date.next.toDays = date.toDays + 1 := by
  obtain ⟨⟨someYear, -⟩, ⟨someMonth, fewMonths⟩, someDay, fewDays⟩ := (isValid_iff date).mp valid
  have month := total_take_month someMonth fewMonths
  unfold next
  split
  · rw [toDays, toDays]
    dsimp only
    omega
  · split
    · rw [toDays, toDays, Nat.add_sub_cancel, month]
      dsimp only
      omega
    · have last : date.month = 12 := by omega
      have whole : (monthLengths date.year).take 12 = monthLengths date.year := rfl
      have none : total ((monthLengths (date.year + 1)).take (1 - 1)) = 0 := rfl
      rw [last, whole, total_monthLengths] at month
      rw [toDays, toDays, daysBeforeYear_succ someYear, none, last]
      dsimp only
      omega

/-! ## The order of dates -/

/-- Later months come after more days. -/
theorem total_take_mono {lengths : List Nat} {first second : Nat} (ordered : first ≤ second) :
    total (lengths.take first) ≤ total (lengths.take second) := by
  obtain ⟨rest, split⟩ := List.take_prefix_take_left (l := lengths) ordered
  have sums : total (lengths.take second) = total (lengths.take first) + total rest := by
    rw [← split]
    exact List.sum_append
  omega

/-- Later years come after more days. -/
theorem daysBeforeYear_mono {first second : Nat} (some : 1 ≤ first) (ordered : first ≤ second) :
    daysBeforeYear first ≤ daysBeforeYear second := by
  induction ordered with
  | refl => exact Nat.le_refl _
  | step ordered inductionHypothesis =>
    rw [daysBeforeYear_succ (Nat.le_trans some ordered)]
    omega

variable {left right : Date}

/-- The days of a year come before the next year. -/
theorem toDays_lt_of_year_lt (valid : left.isValid = true) (earlier : left.year < right.year) :
    left.toDays < right.toDays := by
  obtain ⟨⟨someYear, -⟩, ⟨someMonth, fewMonths⟩, someDay, fewDays⟩ := (isValid_iff left).mp valid
  have month := total_take_month someMonth fewMonths
  have year : total ((monthLengths left.year).take left.month) ≤ yearLength left.year := by
    have whole : (monthLengths left.year).take 12 = monthLengths left.year := rfl
    rw [← total_monthLengths, ← whole]
    exact total_take_mono fewMonths
  have nextYear := daysBeforeYear_mono (Nat.le_add_left 1 left.year) earlier
  rw [daysBeforeYear_succ someYear] at nextYear
  rw [toDays, toDays]
  omega

/-- The days of a month come before the next month of the year. -/
theorem toDays_lt_of_month_lt (valid : left.isValid = true) (sameYear : left.year = right.year)
    (earlier : left.month < right.month) : left.toDays < right.toDays := by
  obtain ⟨-, ⟨someMonth, fewMonths⟩, someDay, fewDays⟩ := (isValid_iff left).mp valid
  have month := total_take_month someMonth fewMonths
  have nextMonth : total ((monthLengths left.year).take left.month) ≤
      total ((monthLengths left.year).take (right.month - 1)) :=
    total_take_mono (Nat.le_sub_one_of_lt earlier)
  rw [toDays, toDays, ← sameYear]
  omega

/-- A day is counted for one date only. -/
theorem toDays_inj (validLeft : left.isValid = true) (validRight : right.isValid = true)
    (same : left.toDays = right.toDays) : left = right := by
  have year : left.year = right.year := by
    by_contra other
    obtain earlier | later := Nat.lt_or_gt_of_ne other
    · exact Nat.ne_of_lt (toDays_lt_of_year_lt validLeft earlier) same
    · exact Nat.ne_of_gt (toDays_lt_of_year_lt validRight later) same
  have month : left.month = right.month := by
    by_contra other
    obtain earlier | later := Nat.lt_or_gt_of_ne other
    · exact Nat.ne_of_lt (toDays_lt_of_month_lt validLeft year earlier) same
    · exact Nat.ne_of_gt (toDays_lt_of_month_lt validRight year.symm later) same
  have someLeft := ((isValid_iff left).mp validLeft).2.2.1
  have someRight := ((isValid_iff right).mp validRight).2.2.1
  rw [toDays, toDays, year, month] at same
  have day : left.day = right.day := by omega
  rcases left with ⟨_, _, _⟩
  cases year
  cases month
  cases day
  rfl

/-! ## Steps from the first date -/

/-- The first date. -/
def first : Date :=
  ⟨1, 1, 1⟩

theorem toDays_afterLast : toDays ⟨maxYear + 1, 1, 1⟩ = dayCount := by
  decide

theorem toDays_lt {date : Date} (valid : date.isValid = true) : date.toDays < dayCount := by
  have year : date.year < maxYear + 1 := Nat.lt_succ_of_le ((isValid_iff date).mp valid).1.2
  rw [← toDays_afterLast]
  exact toDays_lt_of_year_lt valid year

/-- The next date exists, unless the calendar ends. -/
theorem isValid_next {date : Date} (valid : date.isValid = true)
    (within : date.toDays + 1 < dayCount) : date.next.isValid = true := by
  obtain ⟨⟨someYear, fewYears⟩, ⟨someMonth, fewMonths⟩, someDay, fewDays⟩ :=
    (isValid_iff date).mp valid
  by_cases inMonth : date.day < date.monthLength
  · rw [next, if_pos inMonth, isValid_iff]
    exact ⟨⟨someYear, fewYears⟩, ⟨someMonth, fewMonths⟩, Nat.le_add_left 1 date.day, inMonth⟩
  · by_cases inYear : date.month < 12
    · rw [next, if_neg inMonth, if_pos inYear, isValid_iff]
      exact ⟨⟨someYear, fewYears⟩, ⟨Nat.le_add_left 1 date.month, inYear⟩, Nat.le_refl 1,
        monthLength_pos (Nat.le_add_left 1 date.month) inYear⟩
    · have isNext : date.next = ⟨date.year + 1, 1, 1⟩ := by rw [next, if_neg inMonth, if_neg inYear]
      have notLast : date.year ≠ maxYear := by
        intro lastYear
        rw [← toDays_next valid, isNext, lastYear, toDays_afterLast] at within
        exact Nat.lt_irrefl dayCount within
      have january : 1 ≤ 1 ∧ 1 ≤ 12 := by decide
      rw [isNext, isValid_iff]
      exact ⟨⟨Nat.le_add_left 1 date.year, Nat.lt_of_le_of_ne fewYears notLast⟩, january,
        Nat.le_refl 1, monthLength_pos january.1 january.2⟩

/-- Each step from the first date is a date, and is counted as a day. -/
theorem iterate_next_spec {days : Nat} (within : days < dayCount) :
    (next^[days] first).isValid = true ∧ (next^[days] first).toDays = days := by
  induction days with
  | zero => exact ⟨by decide, by decide⟩
  | succ days inductionHypothesis =>
    obtain ⟨valid, counted⟩ := inductionHypothesis (Nat.lt_of_succ_lt within)
    rw [Function.iterate_succ_apply']
    refine ⟨isValid_next valid (by omega), ?_⟩
    rw [toDays_next valid, counted]

/-- A date is reached from the first one in as many steps as it has days before it. -/
theorem iterate_next_toDays {date : Date} (valid : date.isValid = true) :
    next^[date.toDays] first = date := by
  obtain ⟨reached, counted⟩ := iterate_next_spec (toDays_lt valid)
  exact toDays_inj reached valid counted

/-! ## The date of a day -/

/-- The year of a day and the days of that year before it. -/
theorem yearOf_spec (days : Nat) :
    1 ≤ (yearOf days).1 ∧ (yearOf days).2 < yearLength (yearOf days).1 ∧
      daysBeforeYear (yearOf days).1 + (yearOf days).2 = days := by
  rw [yearOf]
  dsimp only
  generalize cycles400Is : days / 146097 = cycles400
  generalize rest400Is : days % 146097 = rest400
  generalize cycles100Is : min (rest400 / 36524) 3 = cycles100
  generalize rest100Is : rest400 - cycles100 * 36524 = rest100
  generalize cycles4Is : rest100 / 1461 = cycles4
  generalize rest4Is : rest100 % 1461 = rest4
  generalize yearsIs : min (rest4 / 365) 3 = years
  have few4 : cycles4 ≤ 24 := by omega
  rw [daysBeforeYear_of_cycles (by omega) few4 (by omega), yearLength_eq]
  refine ⟨by omega, ?_, by omega⟩
  split <;> omega

/-- The year of a day of the calendar is within the calendar. -/
theorem yearOf_le {days : Nat} (within : days < dayCount) : (yearOf days).1 ≤ maxYear := by
  obtain ⟨-, -, counted⟩ := yearOf_spec days
  by_contra later
  have afterLast : daysBeforeYear (maxYear + 1) = dayCount := by decide
  have ordered := daysBeforeYear_mono (Nat.le_add_left 1 maxYear) (Nat.lt_of_not_le later)
  omega

/-- The month of a day, counted from a month on, and the day in it. -/
theorem monthOf_spec {lengths : List Nat} {days : Nat} (within : days < total lengths)
    (month : Nat) :
    ∃ place day, monthOf month days lengths = (month + place, day + 1) ∧ place < lengths.length ∧
      day < lengths.getD place 0 ∧ total (lengths.take place) + day = days := by
  induction lengths generalizing days month with
  | nil => cases within
  | cons length rest inductionHypothesis =>
    have within : days < length + total rest := within
    rw [monthOf]
    split
    · next inFirst => exact ⟨0, days, rfl, Nat.succ_pos _, inFirst, Nat.zero_add days⟩
    · next later =>
      have withinRest : days - length < total rest := by omega
      obtain ⟨place, day, isMonth, inside, inMonth, counted⟩ :=
        inductionHypothesis withinRest (month + 1)
      refine ⟨place + 1, day, ?_, Nat.succ_lt_succ inside, inMonth, ?_⟩
      · rw [isMonth, Nat.add_assoc, Nat.add_comm 1]
      · have first : total ((length :: rest).take (place + 1)) = length + total (rest.take place) :=
          rfl
        omega

/-- The date of a day lies in its year and in one of the twelve months, and is counted as that
day. -/
theorem ofDays_spec (days : Nat) :
    (ofDays days).year = (yearOf days).1 ∧
      (1 ≤ (ofDays days).month ∧ (ofDays days).month ≤ 12) ∧
        (1 ≤ (ofDays days).day ∧ (ofDays days).day ≤ (ofDays days).monthLength) ∧
          (ofDays days).toDays = days := by
  obtain ⟨-, inYear, counted⟩ := yearOf_spec days
  rw [← total_monthLengths] at inYear
  obtain ⟨place, day, isMonth, inside, inMonth, countedInYear⟩ := monthOf_spec inYear 1
  have inside : place < 12 := inside
  have isDate : ofDays days = ⟨(yearOf days).1, 1 + place, day + 1⟩ := by
    unfold ofDays
    dsimp only
    rw [isMonth]
  rw [isDate, toDays, monthLength]
  dsimp only
  rw [Nat.add_sub_cancel_left, Nat.add_sub_cancel]
  exact ⟨rfl, by omega, ⟨by omega, inMonth⟩, by omega⟩

theorem isValid_ofDays {days : Nat} (within : days < dayCount) : (ofDays days).isValid = true := by
  obtain ⟨year, month, day, -⟩ := ofDays_spec days
  rw [isValid_iff, year]
  exact ⟨⟨(yearOf_spec days).1, yearOf_le within⟩, month, day⟩

/-- The date of a day is counted as that day. -/
theorem toDays_ofDays (days : Nat) : (ofDays days).toDays = days :=
  (ofDays_spec days).2.2.2

end Date

/-- The days before its date, the seconds since midnight and the microseconds of the second make up
an instant. -/
theorem Instant.micros_eq (instant : Instant) :
    (instant.date.toDays * 86400 + instant.secondOfDay) * second + instant.fraction =
      instant.micros := by
  rw [date, Date.toDays_ofDays, secondOfDay, fraction, dayLength, second]
  omega

/-!
## Instants told apart

Two instants have different texts: `Instant.spacedText_injective`. The numbers of the date and of
the clock are told apart by the marks between them, and the date, the seconds since midnight and the
microseconds of the second make up the instant.
-/

/-- A padded number can be told from what follows the mark behind it. -/
theorem zeroPadded_mark_inj {width number other : Nat} {mark : Char} {rest more : List Char}
    (noDigit : mark.isDigit = false)
    (same : (zeroPadded width number).toList ++ mark :: rest =
      (zeroPadded width other).toList ++ mark :: more) : number = other ∧ rest = more := by
  have ends (rest : List Char) : EndsNumber (mark :: rest) := by
    rintro _ ⟨⟩
    exact noDigit
  obtain ⟨sameNumber, sameRest⟩ := zeroPadded_append_inj (ends rest) (ends more) same
  exact ⟨sameNumber, (List.cons.inj sameRest).2⟩

namespace Instant

theorem toList_spacedText (instant : Instant) :
    instant.spacedText.toList =
      (zeroPadded 4 instant.date.year).toList ++
        '-' :: ((zeroPadded 2 instant.date.month).toList ++
          '-' :: ((zeroPadded 2 instant.date.day).toList ++
            ' ' :: ((zeroPadded 2 (instant.secondOfDay / 3600)).toList ++
              ':' :: ((zeroPadded 2 (instant.secondOfDay / 60 % 60)).toList ++
                ':' :: ((zeroPadded 2 (instant.secondOfDay % 60)).toList ++
                  (instant.fractionText.toList ++ "+00:00".toList)))))) := by
  simp [spacedText, written, clockText, joinWith, String.intercalate_cons_cons]

/-- The microseconds and the zone end the number before them. -/
theorem endsNumber_fractionText (instant : Instant) :
    EndsNumber (instant.fractionText.toList ++ "+00:00".toList) := by
  unfold fractionText
  split
  · rintro _ ⟨⟩
    rfl
  · rw [String.toList_append]
    rintro _ ⟨⟩
    rfl

/-- The microseconds can be told from their text. -/
theorem fraction_eq {instant other : Instant}
    (same : instant.fractionText.toList ++ "+00:00".toList =
      other.fractionText.toList ++ "+00:00".toList) : instant.fraction = other.fraction := by
  have same := List.append_cancel_right same
  unfold fractionText at same
  split at same <;> split at same
  · next none otherNone => rw [none, otherNone]
  · rw [String.toList_append] at same
    cases same
  · rw [String.toList_append] at same
    cases same
  · rw [String.toList_append, String.toList_append] at same
    have digits := List.append_cancel_left same
    have values := congrArg (Nat.ofDigitChars 10 · 0) digits
    simpa only [ofDigitChars_zeroPadded] using values

/-- Instants differ in their texts. -/
theorem spacedText_injective : Function.Injective spacedText := by
  intro instant other same
  have same := congrArg String.toList same
  rw [toList_spacedText, toList_spacedText] at same
  obtain ⟨year, same⟩ := zeroPadded_mark_inj rfl same
  obtain ⟨month, same⟩ := zeroPadded_mark_inj rfl same
  obtain ⟨day, same⟩ := zeroPadded_mark_inj rfl same
  obtain ⟨hour, same⟩ := zeroPadded_mark_inj rfl same
  obtain ⟨minute, same⟩ := zeroPadded_mark_inj rfl same
  obtain ⟨second, same⟩ := zeroPadded_append_inj instant.endsNumber_fractionText
    other.endsNumber_fractionText same
  have days : instant.date.toDays = other.date.toDays := by
    rw [Date.toDays, Date.toDays, year, month, day]
  have seconds : instant.secondOfDay = other.secondOfDay := by omega
  have micros := instant.micros_eq
  rw [days, seconds, fraction_eq same, other.micros_eq] at micros
  cases instant
  cases other
  exact congrArg Instant.mk micros.symm

end Instant

end NodeConsole.Time
