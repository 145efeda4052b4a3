import NodeConsole.Proofs.Text.Parts
import NodeConsole.Proofs.Time.Stamps

/-!
# Timestamps read back

A stamp is read as the instant of universal time that it stands for, cut to whole microseconds:
`timestamp_reads`. The text that is read has a numeric zone and six digits of a second or none, so
it is followed field by field.
-/

namespace NodeConsole.Time

open NodeConsole.Text

variable {digits rest : List Char} {width number : Nat}

/-! ## Fields -/

theorem fixedDigits?_append (writes : Writes width number digits) (rest : List Char) :
    fixedDigits? width (digits ++ rest) = some (number, rest) := by
  obtain ⟨rfl, all, rfl⟩ := writes
  have ascii : digits.all isAsciiDigit = true :=
    List.all_eq_true.mpr fun c member => isAsciiDigit_of_isDigit (all c member)
  rw [fixedDigits?, List.take_left, List.drop_left, if_pos ⟨rfl, ascii⟩, ofDigits_filterMap all]

theorem fixedDigits?_whole (writes : Writes width number digits) :
    fixedDigits? width digits = some (number, []) := by
  have read := fixedDigits?_append writes []
  rwa [List.append_nil] at read

/-- A text has a byte for each character, and more. -/
theorem length_le_utf8Length (text : List Char) : text.length ≤ utf8Length text := by
  induction text with
  | nil => exact Nat.zero_le _
  | cons c rest inductionHypothesis =>
    have counted : utf8Length (c :: rest) = c.utf8Size + utf8Length rest := rfl
    have some := c.utf8Size_pos
    rw [List.length_cons, counted]
    omega

/-! ## Clocks -/

section Clocks

variable {number fields hours minutes : Nat} {follower : Char}

/-- A field before a colon is read, and the fields after it are read with colons. -/
theorem clockFields?_colon (fits : number < 100) (filled : rest ≠ []) :
    clockFields? true follower (fields + 1) (twoDigits number ++ ':' :: rest) =
      (clockFields? true follower fields rest).map fun found => (number :: found.1, found.2) := by
  have long : ¬ utf8Length (':' :: rest) ≤ 1 := by
    have bytes := length_le_utf8Length (':' :: rest)
    have some := List.length_pos_of_ne_nil filled
    rw [List.length_cons] at bytes
    omega
  rw [clockFields?, fixedDigits?_append (writes_twoDigits fits)]
  simp only [Option.bind_eq_bind, Option.bind_some, List.headD_cons, long, ↓reduceIte, ite_self,
    List.drop_succ_cons, List.drop_zero, and_self, decide_true]
  rw [Option.map_eq_bind]
  rfl

theorem clockFields?_last (fits : number < 100) :
    clockFields? true follower (fields + 1) (twoDigits number) =
      some ([number], 0, decide (follower ≠ endMark)) := by
  have short : utf8Length [] ≤ 1 := Nat.zero_le 1
  rw [clockFields?, fixedDigits?_whole (writes_twoDigits fits)]
  simp only [Option.bind_eq_bind, Option.bind_some, List.headD_nil, if_pos short]
  rfl

/-- A field before a fraction is the last one. -/
theorem clockFields?_fraction {micros : Nat} (fits : number < 100)
    (writes : Writes 6 micros digits) :
    clockFields? true follower (fields + 1) (twoDigits number ++ '.' :: digits) =
      some ([number], micros, decide (follower ≠ endMark)) := by
  have long : ¬ utf8Length ('.' :: digits) ≤ 1 := by
    have bytes := length_le_utf8Length ('.' :: digits)
    rw [List.length_cons, writes.length_eq] at bytes
    omega
  have fraction : clockFraction? digits follower = some (micros, decide (follower ≠ endMark)) := by
    have power : Nat.pow 10 (6 - 6) = 1 := rfl
    rw [clockFraction?, writes.length_eq, Nat.min_self, fixedDigits?_whole writes]
    simp only [Option.bind_eq_bind, Option.bind_some, power, Nat.mul_one]
    rfl
  rw [clockFields?, fixedDigits?_append (writes_twoDigits fits)]
  simp only [Option.bind_eq_bind, Option.bind_some, List.headD_cons, if_neg long,
    List.drop_succ_cons, List.drop_zero, fraction, Char.reduceEq, and_false, true_or, ↓reduceIte]
  rfl

/-- The distance of a zone is read as microseconds with its sign. -/
theorem zone?_sign (fewHours : hours < 24) (fewMinutes : minutes < 60) {sign : Char}
    (isSign : sign ≠ 'Z') :
    zone? (sign :: (twoDigits hours ++ ':' :: twoDigits minutes)) =
      some (if sign = '-' then -(((hours * 3600 + minutes * 60) * second : Nat) : Int)
        else ((hours * 3600 + minutes * 60) * second : Nat)) := by
  have minutesFit : minutes < 100 := Nat.lt_trans fewMinutes (by decide)
  have filled : twoDigits minutes ≠ [] := by
    obtain ⟨tens, ones, pair, -⟩ := exists_twoDigits minutesFit
    rw [pair]
    exact List.cons_ne_nil tens [ones]
  have clock : clock? (twoDigits hours ++ ':' :: twoDigits minutes) endMark =
      some ⟨hours, minutes, 0, 0, false⟩ := by
    rw [clock?, clockFields?_colon (by omega) filled, clockFields?_last minutesFit]
    rfl
  have distance (seconds : Nat) :
      (if seconds + 0 = 0 then 0 else (seconds + 0) * second + 0) = seconds * second := by
    rw [Nat.add_zero, Nat.add_zero, ite_eq_right_iff]
    rintro rfl
    exact (Nat.zero_mul second).symm
  have lessThanDay : (hours * 3600 + minutes * 60) * second < dayLength :=
    Nat.mul_lt_mul_of_pos_right (by omega) (by decide)
  rw [zone?, clock]
  · simp only [Option.bind_eq_bind, Option.bind_some, distance, lessThanDay, guard, Bool.not_false,
      ↓reduceIte]
    rfl
  · exact isSign

/-- A numeric zone is read as its distance in microseconds. -/
theorem zone?_text {zone : Zone} (valid : zone.IsValid) (numeric : zone ≠ .universal) :
    zone? zone.text = some (zone.distance * 10 ^ 6) := by
  cases zone with
  | universal => exact absurd rfl numeric
  | ahead hours minutes =>
    rw [Zone.text, zone?_sign valid.1 valid.2 (by decide), if_neg (by decide), Zone.distance,
      second]
    norm_cast
  | behind hours minutes =>
    rw [Zone.text, zone?_sign valid.1 valid.2 (by decide), if_pos rfl, Zone.distance, second,
      Int.neg_mul]
    norm_cast

end Clocks

namespace Stamp

variable {stamp : Stamp}

/-- A stamp as it is read: with six digits of a second or none, and a numeric zone. -/
structure IsPlain (stamp : Stamp) : Prop where
  fraction : stamp.fraction = [] ∨ stamp.fraction.length = 6
  zone : stamp.zone ≠ .universal

/-- The rewritten stamp is one as it is read. -/
theorem isPlain_rewritten (valid : stamp.IsValid) : stamp.rewritten.IsPlain where
  fraction := by
    rcases eq_or_ne stamp.fraction [] with none | some
    · exact .inl (if_pos none)
    · exact .inr (length_sixDigits some)
  zone := (Zone.numeric_spec valid.zone).2.2

/-- The clock of a stamp is read field by field. -/
theorem clock?_clockText (valid : stamp.IsValid) (plain : stamp.IsPlain) (follower : Char) :
    clock? stamp.clockText follower =
      some ⟨stamp.hour, stamp.minute, stamp.second, Nat.ofDigitChars 10 stamp.fraction 0,
        decide (follower ≠ endMark)⟩ := by
  have hour : stamp.hour < 100 := Nat.lt_trans valid.hour (by decide)
  have minute : stamp.minute < 100 := Nat.lt_trans valid.minute (by decide)
  have second : stamp.second < 100 := Nat.lt_trans valid.second (by decide)
  have last : clockFields? true follower 1 (twoDigits stamp.second ++ pointText stamp.fraction) =
      some ([stamp.second], Nat.ofDigitChars 10 stamp.fraction 0, decide (follower ≠ endMark)) := by
    obtain none | six := plain.fraction
    · rw [none, pointText, if_pos rfl, List.append_nil]
      exact clockFields?_last second
    · have some : stamp.fraction ≠ [] := List.ne_nil_of_length_pos (six ▸ Nat.succ_pos 5)
      rw [pointText, if_neg some]
      exact clockFields?_fraction second ⟨six, valid.fraction, rfl⟩
  have filled : twoDigits stamp.second ++ pointText stamp.fraction ≠ [] := by
    obtain ⟨tens, ones, pair, -⟩ := exists_twoDigits second
    rw [pair]
    exact List.cons_ne_nil tens (ones :: pointText stamp.fraction)
  rw [clock?, clockText, clockFields?_colon hour (by simp), clockFields?_colon minute filled, last]
  rfl

/-! ## Dates -/

theorem IsValid.date_fits (valid : stamp.IsValid) :
    stamp.date.year < 10 ^ 4 ∧ stamp.date.month < 100 ∧ stamp.date.day < 100 := by
  obtain ⟨⟨-, year⟩, ⟨-, month⟩, -, day⟩ := (Date.isValid_iff stamp.date).mp valid.date
  have days := stamp.date.monthLength_le
  have year : stamp.date.year ≤ 9999 := year
  omega

theorem IsValid.writes_year (valid : stamp.IsValid) :
    Writes 4 stamp.date.year (zeroPadded 4 stamp.date.year).toList :=
  writes_zeroPadded (by decide) valid.date_fits.1

theorem IsValid.writes_month (valid : stamp.IsValid) :
    Writes 2 stamp.date.month (twoDigits stamp.date.month) :=
  writes_twoDigits valid.date_fits.2.1

theorem IsValid.writes_day (valid : stamp.IsValid) :
    Writes 2 stamp.date.day (twoDigits stamp.date.day) :=
  writes_twoDigits valid.date_fits.2.2

theorem length_dateText (valid : stamp.IsValid) : stamp.dateText.length = 10 := by
  simp [dateText, valid.writes_year.length_eq, valid.writes_month.length_eq,
    valid.writes_day.length_eq]

/-- The date of a stamp is read. -/
theorem date?_dateText (valid : stamp.IsValid) :
    date? stamp.dateText = some stamp.date.toDays := by
  obtain ⟨tens, ones, pair, isDigit, -⟩ := exists_twoDigits valid.date_fits.2.1
  have noWeek : tens ≠ 'W' := by
    rintro rfl
    cases isDigit
  have month := fixedDigits?_append valid.writes_month ('-' :: twoDigits stamp.date.day)
  rw [date?, dateText, fixedDigits?_append valid.writes_year]
  simp only [Option.bind_eq_bind, Option.bind_some, List.head?_cons, ↓reduceIte,
    List.drop_succ_cons, List.drop_zero]
  split
  · next rest week =>
    rw [pair] at week
    exact absurd (List.cons.inj week).1 noWeek
  · rw [month]
    simp only [Option.bind_some, List.head?_cons, ↓reduceIte, List.drop_succ_cons, List.drop_zero,
      fixedDigits?_whole valid.writes_day, guard, monthDay?, valid.date]
    rfl

/-- The date of a stamp is told from its clock. -/
theorem dateLength?_text (valid : stamp.IsValid) : dateLength? stamp.text = some 10 := by
  obtain ⟨thousands, hundreds, tens, ones, year⟩ :=
    List.length_eq_four.mp valid.writes_year.length_eq
  obtain ⟨monthTens, monthOnes, month, isDigit, -⟩ := exists_twoDigits valid.date_fits.2.1
  have noWeek : monthTens ≠ 'W' := by
    rintro rfl
    cases isDigit
  have long : 10 ≤ stamp.text.length := by
    rw [text, List.length_append, length_dateText valid]
    omega
  have separator : stamp.text[4]? = some '-' := by simp [text, dateText, year]
  have noWeekMark : stamp.text[5]? ≠ some 'W' := by simp [text, dateText, year, month, noWeek]
  rw [dateLength?, if_neg (by omega), if_neg (by omega), if_pos separator, if_neg noWeekMark]

/-! ## Stamps -/

/-- No zone starts within a clock. -/
theorem startsZone_of_mem_clockText (valid : stamp.IsValid) {c : Char}
    (member : c ∈ stamp.clockText) : startsZone c = false := by
  refine Bool.eq_false_iff.mpr fun starts => ?_
  rcases (startsZone_iff c).mp starts with rfl | rfl | rfl
  · exact not_mem_clockText valid (by decide) (by decide) (by decide) member
  · exact not_mem_clockText valid (by decide) (by decide) (by decide) member
  · exact not_mem_clockText valid (by decide) (by decide) (by decide) member

/-- A stamp as it is read gives its microseconds and its distance from universal time. -/
theorem reading?_text (valid : stamp.IsValid) (plain : stamp.IsPlain) :
    reading? stamp.text =
      some ⟨stamp.localSeconds * Time.second + Nat.ofDigitChars 10 stamp.fraction 0,
        some (stamp.zone.distance * 10 ^ 6)⟩ := by
  obtain ⟨first, rest, isText, starts⟩ := stamp.zone.exists_text
  have length := length_dateText valid
  have date : stamp.text.take 10 = stamp.dateText := by rw [text, ← length, List.take_left]
  have clock : stamp.text.drop 10 = 'T' :: (stamp.clockText ++ stamp.zone.text) := by
    rw [text, ← length, List.drop_left]
  have long : 10 ≤ stamp.text.length := by
    rw [text, List.length_append, length]
    omega
  have split : leading (fun c => !startsZone c) (stamp.clockText ++ first :: rest) =
      (stamp.clockText, first :: rest) :=
    leading_stops (fun c member => by rw [startsZone_of_mem_clockText valid member]; rfl)
      (by rw [starts]; rfl)
  have zone := zone?_text valid.zone plain.zone
  rw [isText] at zone
  have micros : clockMicros? ⟨stamp.hour, stamp.minute, stamp.second,
      Nat.ofDigitChars 10 stamp.fraction 0, decide (first ≠ endMark)⟩ =
        some ((stamp.hour * 3600 + stamp.minute * 60 + stamp.second) * Time.second +
          Nat.ofDigitChars 10 stamp.fraction 0) :=
    if_pos ⟨valid.hour, valid.minute, valid.second⟩
  rw [reading?, dateLength?_text valid]
  simp only [Option.bind_eq_bind, Option.bind_some, guard, long, ↓reduceIte, date,
    date?_dateText valid, clock, isText, split, List.headD_cons, clock?_clockText valid plain,
    micros, zone]
  have sum : stamp.date.toDays * dayLength +
      ((stamp.hour * 3600 + stamp.minute * 60 + stamp.second) * Time.second +
        Nat.ofDigitChars 10 stamp.fraction 0) =
      stamp.localSeconds * Time.second + Nat.ofDigitChars 10 stamp.fraction 0 := by
    rw [localSeconds, dayLength]
    ring
  rw [if_neg (List.cons_ne_nil first rest), sum]
  rfl

/-- Only the first date starts like the mark for "never". -/
theorem date_eq_of_neverMark (valid : stamp.IsValid) (never : neverMark.isPrefixOf stamp.text) :
    stamp.date = Date.first := by
  have mark : neverMark = stamp.dateText := by
    have taken := List.prefix_iff_eq_take.mp (List.isPrefixOf_iff_prefix.mp never)
    have ten : neverMark.length = stamp.dateText.length := (length_dateText valid).symm
    rwa [ten, text, List.take_left] at taken
  have marked : date? neverMark = some 0 := by decide +kernel
  rw [mark, date?_dateText valid] at marked
  exact Date.toDays_inj valid.date (by decide) (Option.some.inj marked)

/-- The moment of a stamp lies in the years of the calendar. -/
structure IsWithinCalendar (stamp : Stamp) : Prop where
  start : 0 ≤ stamp.moment
  stop : stamp.moment < (dayCount * 86400 : Nat)

/-- The whole microseconds of a moment within the calendar are those of an instant. -/
theorem IsWithinCalendar.ofMicros?_floor (within : stamp.IsWithinCalendar) :
    Instant.ofMicros? ⌊stamp.moment * 10 ^ 6⌋ = some ⟨⌊stamp.moment * 10 ^ 6⌋.toNat⟩ ∧
      ⌊stamp.moment * 10 ^ 6⌋.toNat < dayCount * dayLength ∧ 0 ≤ ⌊stamp.moment * 10 ^ 6⌋ := by
  have start : 0 ≤ ⌊stamp.moment * 10 ^ 6⌋ := by
    have start := within.start
    exact Int.floor_nonneg.mpr (by positivity)
  have stop : ⌊stamp.moment * 10 ^ 6⌋ < (dayCount * dayLength : Nat) := by
    refine Int.floor_lt.mpr ?_
    have stop := within.stop
    calc stamp.moment * 10 ^ 6 < ((dayCount * 86400 : Nat) : ℚ) * 10 ^ 6 := by gcongr
      _ = (((dayCount * dayLength : Nat) : Int) : ℚ) := by
        rw [dayLength, Time.second]
        push_cast
        ring
  generalize ⌊stamp.moment * 10 ^ 6⌋ = micros at start stop ⊢
  obtain ⟨value, rfl⟩ := Int.eq_ofNat_of_zero_le start
  have stop : value < dayCount * dayLength := Int.ofNat_lt.mp stop
  exact ⟨if_pos stop, stop, start⟩

/-- A stamp among blanks is read as the whole microseconds of its moment. -/
theorem timestamp_text (valid : stamp.IsValid) (notFirst : stamp.date ≠ Date.first)
    (within : stamp.IsWithinCalendar) {before after : List Char}
    (blankBefore : ∀ c ∈ before, isBlank c = true) (blankAfter : ∀ c ∈ after, isBlank c = true) :
    timestamp (before ++ stamp.text ++ after) = .at ⟨⌊stamp.moment * 10 ^ 6⌋.toNat⟩ := by
  have stripped : strip (before ++ stamp.text ++ after) = stamp.text :=
    trim_between blankBefore (fun _ => isBlank_of_mem_text valid) blankAfter
  have readable : ¬ (stamp.text = [] ∨ neverMark.isPrefixOf stamp.text) := by
    rintro (empty | never)
    · have long := length_dateText valid
      rw [text, List.append_eq_nil_iff] at empty
      rw [empty.1] at long
      cases long
    · exact notFirst (date_eq_of_neverMark valid never)
  have micros : ((stamp.rewritten.localSeconds * Time.second +
      Nat.ofDigitChars 10 stamp.rewritten.fraction 0 : Nat) : Int) -
        stamp.rewritten.zone.distance * 10 ^ 6 = ⌊stamp.moment * 10 ^ 6⌋ := by
    have distance : stamp.rewritten.zone.distance = stamp.zone.distance :=
      (Zone.numeric_spec valid.zone).2.1
    rw [floor_moment valid, distance, Time.second]
    push_cast
    change _ = ((stamp.rewritten.localSeconds : Int) - stamp.zone.distance) * 10 ^ 6 +
      (Nat.ofDigitChars 10 stamp.rewritten.fraction 0 : Int)
    ring
  rw [timestamp, stripped, if_neg readable, rewritten_text valid,
    reading?_text valid.rewritten (isPlain_rewritten valid)]
  simp only [Option.getD_some, micros, within.ofMicros?_floor.1]

end Stamp

/-! ## Instants -/

namespace Instant

variable {instant : Instant}

/-- The date, the clock and six digits of a second of an instant, in universal time. -/
def stamp (instant : Instant) : Stamp where
  date := instant.date
  hour := instant.secondOfDay / 3600
  minute := instant.secondOfDay / 60 % 60
  second := instant.secondOfDay % 60
  fraction := (zeroPadded 6 instant.fraction).toList
  zone := .universal

theorem writes_fraction (instant : Instant) :
    Writes 6 instant.fraction (zeroPadded 6 instant.fraction).toList :=
  writes_zeroPadded (by decide) (Nat.mod_lt _ (by decide))

/-- An instant within the calendar has a date and a time of day. -/
theorem isValid_stamp (within : instant.micros < dayCount * dayLength) :
    instant.stamp.IsValid := by
  have inCalendar : instant.micros / dayLength < dayCount :=
    (Nat.div_lt_iff_lt_mul (by decide)).mpr within
  have inDay : instant.secondOfDay < 86400 := by
    refine (Nat.div_lt_iff_lt_mul (by decide)).mpr ?_
    exact Nat.mod_lt _ (by decide)
  exact {
    date := Date.isValid_ofDays inCalendar
    hour := Nat.div_lt_of_lt_mul inDay
    minute := Nat.mod_lt _ (by decide)
    second := Nat.mod_lt _ (by decide)
    fraction := instant.writes_fraction.digits
    zone := trivial }

/-- The date and the clock of an instant stand for that instant. -/
theorem moment_stamp (instant : Instant) : instant.stamp.moment * 10 ^ 6 = instant.micros := by
  have seconds : instant.stamp.localSeconds * 10 ^ 6 + instant.fraction = instant.micros := by
    rw [← instant.micros_eq, Stamp.localSeconds, stamp]
    dsimp only
    rw [second]
    omega
  have digits := instant.writes_fraction
  rw [Stamp.moment]
  change ((((instant.stamp.localSeconds : Int) - 0 : Int) : ℚ) +
    (Nat.ofDigitChars 10 (zeroPadded 6 instant.fraction).toList 0 : ℚ) /
      10 ^ (zeroPadded 6 instant.fraction).toList.length) * 10 ^ 6 = instant.micros
  rw [digits.value, digits.length_eq, ← seconds]
  push_cast
  ring

end Instant

/-! ## Timestamps -/

/-- Only texts that are empty, stand for "never" or cannot be read give no instant at all. -/
theorem timestamp_eq_none_iff (text : List Char) :
    timestamp text = .none ↔ strip text = [] ∨ neverMark <+: strip text ∨
      reading? (sixDigitFractions none (withNumericZone (strip text))) = none := by
  rw [timestamp, ← or_assoc, ← List.isPrefixOf_iff_prefix]
  split
  · next absent => exact iff_of_true rfl (.inl absent)
  · next present =>
    cases read : reading? (sixDigitFractions none (withNumericZone (strip text))) with
    | none => exact iff_of_true rfl (.inr rfl)
    | some reading =>
      refine iff_of_false ?_ (not_or.mpr ⟨present, nofun⟩)
      dsimp only
      split <;> nofun

/-- A stamp that is not on the first date and whose moment lies within the calendar is read, also
among blanks, as an instant. The instant's own date and clock in universal time exist, and they
stand for the moment of the stamp cut to whole microseconds. A text gives nothing exactly if it is
empty, starts like the first date, or cannot be read after its zone and its fractions have been
rewritten. -/
theorem timestamp_reads :
    (∀ (stamp : Stamp) (before after : List Char), stamp.IsValid → stamp.date ≠ Date.first →
      stamp.IsWithinCalendar → (∀ c ∈ before, isBlank c = true) → (∀ c ∈ after, isBlank c = true) →
      ∃ instant, timestamp (before ++ stamp.text ++ after) = .at instant ∧
        (instant.micros : Int) = ⌊stamp.moment * 10 ^ 6⌋ ∧ instant.stamp.IsValid ∧
        instant.stamp.moment * 10 ^ 6 = (⌊stamp.moment * 10 ^ 6⌋ : Int)) ∧
    ∀ text : List Char, timestamp text = .none ↔ strip text = [] ∨ neverMark <+: strip text ∨
      reading? (sixDigitFractions none (withNumericZone (strip text))) = none := by
  refine ⟨fun stamp before after valid notFirst within blankBefore blankAfter => ?_,
    timestamp_eq_none_iff⟩
  obtain ⟨-, inCalendar, start⟩ := within.ofMicros?_floor
  have micros : (⌊stamp.moment * 10 ^ 6⌋.toNat : Int) = ⌊stamp.moment * 10 ^ 6⌋ :=
    Int.toNat_of_nonneg start
  have moment := Instant.moment_stamp ⟨⌊stamp.moment * 10 ^ 6⌋.toNat⟩
  refine ⟨⟨⌊stamp.moment * 10 ^ 6⌋.toNat⟩,
    Stamp.timestamp_text valid notFirst within blankBefore blankAfter, micros,
    Instant.isValid_stamp inCalendar, moment.trans ?_⟩
  exact_mod_cast micros

/-- A stamp in the last hour of a leap day, behind universal time. -/
def leapDayStamp : Stamp :=
  ⟨⟨2024, 2, 29⟩, 23, 30, 5, "1239994567".toList, .behind 2 30⟩

/-- A stamp of a leap day is read as an instant of the next day, and its fraction is cut. -/
theorem timestamp_reads_leapDay :
    (∃ instant, timestamp " 2024-02-29T23:30:05.1239994567-02:30\n".toList = .at instant ∧
      instant.stamp = ⟨⟨2024, 3, 1⟩, 2, 0, 5, "123999".toList, .universal⟩) ∧
    timestamp "0001-01-01T00:00:00Z".toList = .none := by
  have isValid : leapDayStamp.IsValid := {
    date := by decide
    hour := by decide
    minute := by decide
    second := by decide
    fraction := List.all_eq_true.mp (by decide)
    zone := ⟨by decide, by decide⟩ }
  have moment : leapDayStamp.moment = 63844855205 + 1239994567 / 10 ^ 10 := by
    have seconds : leapDayStamp.localSeconds = 63844846205 := by decide
    have distance : leapDayStamp.zone.distance = -9000 := by decide
    have digits : Nat.ofDigitChars 10 leapDayStamp.fraction 0 = 1239994567 := by decide
    have length : leapDayStamp.fraction.length = 10 := by decide
    rw [Stamp.moment, seconds, distance, digits, length]
    norm_num
  have floor : ⌊leapDayStamp.moment * 10 ^ 6⌋ = 63844855205123999 := by
    rw [moment]
    exact Int.floor_eq_iff.mpr ⟨by norm_num, by norm_num⟩
  have within : leapDayStamp.IsWithinCalendar :=
    ⟨by rw [moment]; norm_num, by rw [moment]; norm_num [dayCount]⟩
  have written : " ".toList ++ leapDayStamp.text ++ "\n".toList =
      " 2024-02-29T23:30:05.1239994567-02:30\n".toList := by decide
  refine ⟨?_, (timestamp_reads.2 _).mpr (.inr (.inl (by decide)))⟩
  obtain ⟨⟨micros⟩, read, isFloor, -⟩ := timestamp_reads.1 leapDayStamp " ".toList "\n".toList
    isValid (by decide) within (List.all_eq_true.mp (by decide)) (List.all_eq_true.mp (by decide))
  obtain rfl : micros = 63844855205123999 := Int.ofNat_inj.mp (isFloor.trans floor)
  exact ⟨_, written ▸ read, by decide⟩

end NodeConsole.Time
