import NodeConsole.Text.Integer

/-!
# Calendar

Dates of the years 1 to 9999 in the calendar of today, extended to the past. Days are counted from
0001-01-01, microseconds from its midnight.
-/

namespace NodeConsole.Time

open NodeConsole.Text

/-- A date. -/
structure Date where
  year : Nat
  month : Nat
  day : Nat
  deriving DecidableEq, Repr

/-- The last year. -/
def maxYear : Nat := 9999

/-- A year with a 29th of February. -/
def isLeap (year : Nat) : Bool :=
  year % 4 = 0 && (year % 100 ≠ 0 || year % 400 = 0)

/-- The days of the months of a year. -/
def monthLengths (year : Nat) : List Nat :=
  [31, if isLeap year then 29 else 28, 31, 30, 31, 30, 31, 31, 30, 31, 30, 31]

/-- The days before a year. -/
def daysBeforeYear (year : Nat) : Nat :=
  let before := year - 1
  before * 365 + before / 4 - before / 100 + before / 400

namespace Date

/-- A date that exists. -/
def isValid (date : Date) : Bool :=
  1 ≤ date.year && date.year ≤ maxYear && 1 ≤ date.month && date.month ≤ 12 && 1 ≤ date.day &&
    date.day ≤ (monthLengths date.year).getD (date.month - 1) 0

/-- The days before a date. -/
def toDays (date : Date) : Nat :=
  daysBeforeYear date.year + total ((monthLengths date.year).take (date.month - 1)) + (date.day - 1)

/-- The year that holds a day, and the days of that year before it. -/
def yearOf (days : Nat) : Nat × Nat :=
  let cycles400 := days / 146097
  let rest := days % 146097
  let cycles100 := min (rest / 36524) 3
  let rest := rest - cycles100 * 36524
  let cycles4 := rest / 1461
  let rest := rest % 1461
  let years := min (rest / 365) 3
  (cycles400 * 400 + cycles100 * 100 + cycles4 * 4 + years + 1, rest - years * 365)

/-- The month that holds a day of a year, counted from `month`, and the day in it. -/
def monthOf (month days : Nat) : List Nat → Nat × Nat
  | [] => (month, days + 1)
  | length :: rest =>
    if days < length then (month, days + 1) else monthOf (month + 1) (days - length) rest

/-- The date after a number of days. -/
def ofDays (days : Nat) : Date :=
  let (year, rest) := yearOf days
  let (month, day) := monthOf 1 rest (monthLengths year)
  ⟨year, month, day⟩

end Date

/-- The weekday of a day, Monday being zero. -/
def weekday (days : Nat) : Nat :=
  days % 7

/-- The first day of the first week of a year: the week that holds its first Thursday. It may lie in
the year before. -/
def firstMonday (year : Nat) : Int :=
  let first := daysBeforeYear year
  let place := weekday first
  if place ≤ 3 then (first : Int) - place else (first : Int) - place + 7

/-- A year has a week 53 if it starts on a Thursday, or is a leap year that starts on a
Wednesday. -/
def hasWeek53 (year : Nat) : Bool :=
  let first := weekday (daysBeforeYear year)
  first = 3 || (first = 2 && isLeap year)

/-- Microseconds in a second. -/
def second : Nat := 1000000

/-- Microseconds in a day. -/
def dayLength : Nat := 86400 * second

/-- The days from the first to the last date. -/
def dayCount : Nat := 3652059

/-- A point in time, as microseconds after the midnight that starts 0001-01-01. -/
structure Instant where
  micros : Nat
  deriving DecidableEq, Repr

namespace Instant

/-- The instant at a number of microseconds, if its year is within range. -/
def ofMicros? (micros : Int) : Option Instant :=
  match micros with
  | .ofNat value => if value < dayCount * dayLength then some ⟨value⟩ else none
  | .negSucc _ => none

/-- The date. -/
def date (instant : Instant) : Date :=
  Date.ofDays (instant.micros / dayLength)

/-- The seconds since midnight. -/
def secondOfDay (instant : Instant) : Nat :=
  instant.micros % dayLength / second

/-- The microseconds of the second. -/
def fraction (instant : Instant) : Nat :=
  instant.micros % second

/-- The instant at the start of its second. -/
def wholeSecond (instant : Instant) : Instant :=
  ⟨instant.micros - instant.fraction⟩

/-- Hours, minutes and seconds. -/
def clockText (instant : Instant) : String :=
  let seconds := instant.secondOfDay
  joinWith ":" [zeroPadded 2 (seconds / 3600), zeroPadded 2 (seconds / 60 % 60),
    zeroPadded 2 (seconds % 60)]

/-- Date and clock with a separator between them; the year has at least `yearDigits` digits. -/
def written (yearDigits : Nat) (separator : String) (instant : Instant) : String :=
  let date := instant.date
  joinWith "-" [zeroPadded yearDigits date.year, zeroPadded 2 date.month, zeroPadded 2 date.day] ++
    separator ++ instant.clockText

/-- The microseconds, if there are any. -/
def fractionText (instant : Instant) : String :=
  if instant.fraction = 0 then "" else "." ++ zeroPadded 6 instant.fraction

/-- Date, clock and microseconds without a zone. -/
def localText (instant : Instant) : String :=
  instant.written 4 "T" ++ instant.fractionText

/-- The text of an instant of universal time. -/
def text (instant : Instant) : String :=
  instant.localText ++ "+00:00"

/-- The text of an instant of universal time with a blank before the clock. -/
def spacedText (instant : Instant) : String :=
  instant.written 4 " " ++ instant.fractionText ++ "+00:00"

/-- Date and clock for a panel. -/
def shortText (instant : Instant) : String :=
  instant.written 1 " "

end Instant

end NodeConsole.Time
