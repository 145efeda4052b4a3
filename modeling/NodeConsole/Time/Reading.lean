import NodeConsole.Time.Calendar

/-!
# Reading timestamps

A written time is a date, any one character, a clock, and an optional zone. Dates have four digits
of the year and either month and day or a week and an optional weekday, with or without hyphens;
clocks have up to three two-digit fields, with or without colons, and a fraction.

A status timestamp may have a fraction of any length, may end in `Z`, and may stand for "never".
-/

namespace NodeConsole.Time

open NodeConsole.Text

/-- A written time: the microseconds its fields stand for, and its distance from universal time in
microseconds, if it names a zone. -/
structure Reading where
  micros : Nat
  offset : Option Int
  deriving DecidableEq, Repr

/-- The value of exactly `count` digits at the start of a text, and what follows them. -/
def fixedDigits? (count : Nat) (text : List Char) : Option (Nat × List Char) :=
  let found := text.take count
  if found.length = count ∧ found.all isAsciiDigit then
    some (ofDigits 10 (found.filterMap decimalDigit?), text.drop count)
  else none

/-- The day of a weekday in a week of a year. -/
def weekDay? (year week day : Nat) : Option Nat := do
  guard (1 ≤ year ∧ year ≤ maxYear)
  guard ((1 ≤ week ∧ week < 53) ∨ (week = 53 ∧ hasWeek53 year))
  guard (1 ≤ day ∧ day ≤ 7)
  match firstMonday year + ((week - 1) * 7 + (day - 1) : Nat) with
  | .ofNat days => if days < dayCount then some days else none
  | .negSucc _ => none

/-- The day of a month in a year. -/
def monthDay? (year month day : Nat) : Option Nat :=
  let date : Date := ⟨year, month, day⟩
  if date.isValid then some date.toDays else none

/-- The day that a text of the length of a date stands for. -/
def date? (text : List Char) : Option Nat := do
  let (year, rest) ← fixedDigits? 4 text
  let hyphens := rest.head? = some '-'
  let rest := if hyphens then rest.drop 1 else rest
  match rest with
  | 'W' :: rest =>
    let (week, rest) ← fixedDigits? 2 rest
    if rest = [] then weekDay? year week 1
    else
      let rest ← if hyphens then (if rest.head? = some '-' then some (rest.drop 1) else none)
        else some rest
      let (day, _) ← fixedDigits? 1 rest
      weekDay? year week day
  | _ =>
    let (month, rest) ← fixedDigits? 2 rest
    let rest ← if hyphens then (if rest.head? = some '-' then some (rest.drop 1) else none)
      else some rest
    let (day, rest) ← fixedDigits? 2 rest
    guard (rest = [])
    monthDay? year month day

/-- A character is a digit at a place of a text. -/
def digitAt (text : List Char) (place : Nat) : Bool :=
  (text[place]?.map isAsciiDigit).getD false

/-- How many characters the date of a text takes. -/
def dateLength? (text : List Char) : Option Nat :=
  let length := text.length
  if length < 7 then none
  else if length = 7 then some 7
  else if text[4]? = some '-' then
    if text[5]? = some 'W' then
      if text[8]? = some '-' then
        if length = 9 then none
        else if digitAt text 10 then some 8
        else some 10
      else some 8
    else some 10
  else if text[4]? = some 'W' then
    let last := 7 + ((text.drop 7).takeWhile isAsciiDigit).length
    some (if last < 9 then last else if last % 2 = 0 then 7 else 8)
  else some 8

/-- The fields of a clock, and whether anything is left unread. -/
structure Clock where
  hour : Nat
  minute : Nat
  second : Nat
  micros : Nat
  unread : Bool
  deriving DecidableEq, Repr

/-- The character that stands for the end of a text. -/
def endMark : Char := '\x00'

/-- Digits of a fraction: at most six count, those after them are skipped. -/
def clockFraction? (text : List Char) (follower : Char) : Option (Nat × Bool) := do
  let count := min 6 text.length
  let (value, rest) ← fixedDigits? count text
  let rest := rest.dropWhile isAsciiDigit
  pure (value * Nat.pow 10 (6 - count), rest.headD follower ≠ endMark)

/-- The bytes of a text in UTF-8. -/
def utf8Length (text : List Char) : Nat :=
  total (text.map Char.utf8Size)

/-- The fields of a clock that are still to come, at most so many, as numbers, with the
microseconds. The colons are all there or all absent, as after the first field; a field with at most
one byte after it is the last. -/
def clockFields? (colons : Bool) (follower : Char) :
    Nat → List Char → Option (List Nat × Nat × Bool)
  | 0, text => do
    let (micros, unread) ← clockFraction? text follower
    pure ([], micros, unread)
  | fields + 1, text => do
    let (value, rest) ← fixedDigits? 2 text
    let next := rest.headD follower
    let colons := if fields = 2 then next = ':' else colons
    if utf8Length rest ≤ 1 then pure ([value], 0, next ≠ endMark)
    else if colons ∧ next = ':' then
      let (more, last) ← clockFields? colons follower fields (rest.drop 1)
      pure (value :: more, last)
    else if next = '.' ∨ next = ',' then
      let (micros, unread) ← clockFraction? (rest.drop 1) follower
      pure ([value], micros, unread)
    else if colons then none
    else
      let (more, last) ← clockFields? colons follower fields rest
      pure (value :: more, last)

/-- A clock followed by a character. -/
def clock? (text : List Char) (follower : Char) : Option Clock := do
  let (fields, micros, unread) ← clockFields? true follower 3 text
  pure ⟨fields.getD 0 0, fields.getD 1 0, fields.getD 2 0, micros, unread⟩

/-- A zone starts with its sign or is `Z`. -/
def startsZone (c : Char) : Bool :=
  c = '+' || c = '-' || c = 'Z'

/-- The distance that a zone names, less than a day. -/
def zone? : List Char → Option Int
  | 'Z' :: rest => if rest.headD endMark = endMark then some 0 else none
  | sign :: rest => do
    let clock ← clock? rest endMark
    guard (!clock.unread)
    let seconds := clock.hour * 3600 + clock.minute * 60 + clock.second
    let distance := if seconds = 0 then 0 else seconds * second + clock.micros
    guard (distance < dayLength)
    pure (if sign = '-' then -(distance : Int) else distance)
  | [] => none

/-- The microseconds since midnight of a clock whose fields are in range. -/
def clockMicros? (clock : Clock) : Option Nat :=
  if clock.hour < 24 ∧ clock.minute < 60 ∧ clock.second < 60 then
    some ((clock.hour * 3600 + clock.minute * 60 + clock.second) * second + clock.micros)
  else none

/-- Reads a written time: a date alone, or a date, any one character and a clock. -/
def reading? (text : List Char) : Option Reading := do
  let length ← dateLength? text
  guard (length ≤ text.length)
  let days ← date? (text.take length)
  let midnight := days * dayLength
  match text.drop length with
  | [] => pure ⟨midnight, none⟩
  | _ :: rest =>
    let (written, zone) := leading (fun c => !startsZone c) rest
    let clock ← clock? written (zone.headD endMark)
    let micros ← clockMicros? clock
    if zone = [] then
      guard (!clock.unread)
      pure ⟨midnight + micros, none⟩
    else
      let offset ← zone? zone
      pure ⟨midnight + micros, some offset⟩

/-- Every fraction of a text cut or padded to six digits. `found` holds the digits of the fraction
being read, last digit first. -/
def sixDigitFractions (found : Option (List Char)) : List Char → List Char
  | [] => flush found
  | c :: rest =>
    match found with
    | some digits =>
      if isDecimalDigit c then sixDigitFractions (some (c :: digits)) rest
      else
        flush found ++ (if c = '.' then sixDigitFractions (some []) rest
          else c :: sixDigitFractions none rest)
    | none =>
      if c = '.' then sixDigitFractions (some []) rest else c :: sixDigitFractions none rest
where
  /-- A point and its digits, if any. -/
  flush : Option (List Char) → List Char
    | none => []
    | some [] => ['.']
    | some digits =>
      let kept := digits.reverse.take 6
      '.' :: kept ++ List.replicate (6 - kept.length) '0'

/-- The start of a timestamp that stands for "never". -/
def neverMark : List Char := "0001-01-01".toList

/-- A final `Z` as a numeric zone. -/
def withNumericZone (text : List Char) : List Char :=
  if text.getLast? = some 'Z' then text.dropLast ++ "+00:00".toList else text

/-- A status timestamp: an instant of universal time, or none if the text is empty, stands for
"never" or cannot be read. The instant itself may lie outside the calendar: then the zone moves it
out of range. -/
inductive Timestamp where
  | none
  | at (instant : Instant)
  | outOfRange
  deriving DecidableEq, Repr

/-- Reads a status timestamp. Without a zone it is in universal time. -/
def timestamp (text : List Char) : Timestamp :=
  let text := strip text
  if text = [] ∨ neverMark.isPrefixOf text then .none
  else
    match reading? (sixDigitFractions none (withNumericZone text)) with
    | none => .none
    | some reading =>
      match Instant.ofMicros? (reading.micros - reading.offset.getD 0) with
      | some instant => .at instant
      | none => .outOfRange

end NodeConsole.Time
