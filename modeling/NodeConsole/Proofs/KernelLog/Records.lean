import NodeConsole.KernelLog.Record
import NodeConsole.Proofs.Text.Digits
import NodeConsole.Proofs.Text.Parts

/-!
# Records read back

A record that is written in a line is read back from it, whatever its message holds and whatever
stands in the header behind the three numbers. Of all lines just the empty ones and those that start
with a blank are no records of their own; each other line is a record with one of the eight levels
or is refused: `record_reads`.
-/

namespace NodeConsole.KernelLog

open NodeConsole.Text NodeConsole.Device

/-! ## Written records -/

/-- What a line of the kernel log says. -/
structure Entry where
  priority : Nat
  sequence : Nat
  micros : Nat
  more : List String
  message : String

namespace Entry

variable {entry : Entry}

/-- The numbers of an entry. -/
def numbers (entry : Entry) : List Nat :=
  [entry.priority, entry.sequence, entry.micros]

/-- The parts of the header: the numbers and what else there is. -/
def parts (entry : Entry) : List String :=
  entry.numbers.map decimalNat ++ entry.more

/-- The header. -/
def header (entry : Entry) : List Char :=
  (joinWith "," entry.parts).toList

/-- The line of an entry. -/
def line (entry : Entry) : List Char :=
  entry.header ++ ';' :: entry.message.toList

/-- The record that an entry stands for: the lowest three bits of the priority are its level. -/
def record (entry : Entry) : KernelRecord :=
  ⟨(entry.priority % 8 : Nat), entry.sequence, entry.micros, entry.message⟩

/-- An entry can be written: its numbers are no longer than a number may be, its further parts have
no separators, and its message does not end the line. -/
structure CanBeWritten (entry : Entry) : Prop where
  short : ∀ number ∈ entry.numbers, (decimalNat number).length ≤ decimalDigitLimit
  clean : ∀ part ∈ entry.more, ',' ∉ part.toList ∧ ';' ∉ part.toList
  unended : entry.message.toList.getLast? ≠ some '\n'

theorem CanBeWritten.clean_parts (written : entry.CanBeWritten) :
    ∀ part ∈ entry.parts, ',' ∉ part.toList ∧ ';' ∉ part.toList := by
  refine List.forall_mem_append.mpr ⟨List.forall_mem_map.mpr fun number _ => ?_, written.clean⟩
  exact ⟨not_mem_decimalNat (by decide) number, not_mem_decimalNat (by decide) number⟩

theorem CanBeWritten.splitOn_header (written : entry.CanBeWritten) :
    splitOn ',' entry.header = entry.parts.map String.toList :=
  splitOn_joinWith (by simp [parts, numbers]) fun part member => (written.clean_parts part member).1

theorem CanBeWritten.not_mem_header (written : entry.CanBeWritten) : ';' ∉ entry.header := by
  intro member
  obtain separator | ⟨part, isPart, inPart⟩ := mem_joinWith member
  · exact absurd separator (by decide)
  · exact (written.clean_parts part isPart).2 inPart

/-- A header starts with a digit. -/
theorem exists_of_header (entry : Entry) :
    ∃ digit rest, entry.header = digit :: rest ∧ digit.isDigit = true := by
  obtain ⟨rest, starts⟩ := exists_of_joinWith_cons "," (decimalNat entry.priority)
    ([entry.sequence, entry.micros].map decimalNat ++ entry.more)
  obtain ⟨digit, digits, first⟩ : ∃ digit digits,
      (decimalNat entry.priority).toList = digit :: digits := by
    rw [decimalNat, String.toList_ofList]
    exact List.exists_cons_of_ne_nil Nat.toDigits_ne_nil
  refine ⟨digit, digits ++ rest, ?_, isDigit_of_mem_decimalNat (first ▸ List.mem_cons_self)⟩
  rw [← List.cons_append, ← first]
  exact starts

/-- The header and the message of an entry are read as its record, whatever line ends follow. -/
theorem CanBeWritten.ofHeader_eq (written : entry.CanBeWritten) (newlines : Nat) :
    ofHeader entry.header (entry.message.toList ++ List.replicate newlines '\n') =
      .ok entry.record := by
  have ends : ∀ c ∈ List.replicate newlines '\n', decide (c = '\n') = true := by
    intro c member
    exact decide_eq_true (List.eq_of_mem_replicate member)
  have keeps : ∀ c ∈ entry.message.toList.getLast?, decide (c = '\n') = false := by
    intro c last
    exact decide_eq_false fun isEnd => written.unended (isEnd ▸ last)
  have message : dropLastWhile (· = '\n')
      (entry.message.toList ++ List.replicate newlines '\n') = entry.message.toList := by
    rw [dropLastWhile_append ends, dropLastWhile_of_keeps keeps]
  have read : ∀ number ∈ entry.numbers, integer? (decimalNat number).toList = some (number : Int) :=
    fun number member => integer?_decimalNat (written.short number member)
  simp only [numbers, List.forall_mem_cons] at read
  obtain ⟨priority, sequence, micros, -⟩ := read
  rw [ofHeader, written.splitOn_header]
  simp only [parts, numbers, List.map_cons, List.map_nil, List.cons_append, List.nil_append,
    priority, sequence, micros, message, String.ofList_toList]
  rfl

/-- The line of an entry starts with a digit, so it continues no record. -/
theorem isContinuation_line (entry : Entry) (rest : List Char) :
    isContinuation (entry.line ++ rest) = false := by
  obtain ⟨digit, others, starts, isDigit⟩ := entry.exists_of_header
  have noSpace : digit ≠ ' ' := by
    rintro rfl
    exact absurd isDigit (by decide)
  have noTab : digit ≠ '\t' := by
    rintro rfl
    exact absurd isDigit (by decide)
  simp [line, starts, isContinuation, noSpace, noTab]

/-- The line of an entry is read as its record, whatever line ends follow. -/
theorem CanBeWritten.record_line (written : entry.CanBeWritten) (newlines : Nat) :
    KernelLog.record (entry.line ++ List.replicate newlines '\n') = .ok (some entry.record) := by
  have inHeader : ∀ c ∈ entry.header, decide (c ≠ ';') = true :=
    fun c member => decide_eq_true fun semicolon => written.not_mem_header (semicolon ▸ member)
  have cut : leading (· ≠ ';') (entry.line ++ List.replicate newlines '\n') =
      (entry.header, ';' :: (entry.message.toList ++ List.replicate newlines '\n')) := by
    rw [line, List.append_assoc, List.cons_append]
    exact leading_stops inHeader (by decide)
  rw [KernelLog.record, if_neg (Bool.eq_false_iff.mp (entry.isContinuation_line _)), cut]
  dsimp only
  rw [written.ofHeader_eq]
  rfl

end Entry

/-! ## Lines -/

/-- A line that continues a record is empty or starts with a blank. -/
theorem isContinuation_iff (line : List Char) :
    isContinuation line = true ↔ line = [] ∨ line.head? = some ' ' ∨ line.head? = some '\t' := by
  cases line <;> simp [isContinuation]

theorem levelOf_bounds (priority : Int) : 0 ≤ levelOf priority ∧ levelOf priority ≤ 7 := by
  unfold levelOf
  omega

/-- A header and a message give a record with one of the eight levels, or are refused. -/
theorem ofHeader_cases (header message : List Char) :
    (∃ fault, ofHeader header message = .error fault) ∨
      ∃ found, ofHeader header message = .ok found ∧ 0 ≤ found.level ∧ found.level ≤ 7 := by
  unfold ofHeader
  split
  · split
    · next priority _ _ _ _ _ => exact .inr ⟨_, rfl, levelOf_bounds priority⟩
    · exact .inl ⟨_, rfl⟩
  · exact .inl ⟨_, rfl⟩

/-- A line that continues no record is a record with one of the eight levels, or is refused. -/
theorem record_cases {line : List Char} (own : isContinuation line = false) :
    (∃ fault, record line = .error fault) ∨
      ∃ found, record line = .ok (some found) ∧ 0 ≤ found.level ∧ found.level ≤ 7 := by
  unfold record
  rw [if_neg (Bool.eq_false_iff.mp own)]
  dsimp only
  split
  · exact .inl ⟨_, rfl⟩
  · next message _ =>
    obtain ⟨fault, refused⟩ | ⟨found, read, level⟩ :=
      ofHeader_cases (leading (· ≠ ';') line).1 message
    · exact .inl ⟨fault, by rw [refused]; rfl⟩
    · exact .inr ⟨found, by rw [read]; rfl, level⟩

/-- An entry that can be written is read from its line, whatever line ends follow. And of all lines
whatsoever just those that are empty or start with a blank are no records of their own; any other is
a record with one of the eight levels, or is refused. -/
theorem record_reads :
    (∀ (entry : Entry) (newlines : Nat), entry.CanBeWritten →
      record (entry.line ++ List.replicate newlines '\n') = .ok (some entry.record)) ∧
    ∀ line : List Char,
      (record line = .ok none ↔ line = [] ∨ line.head? = some ' ' ∨ line.head? = some '\t') ∧
      (record line = .ok none ∨ (∃ fault, record line = .error fault) ∨
        ∃ found, record line = .ok (some found) ∧ 0 ≤ found.level ∧ found.level ≤ 7) := by
  refine ⟨fun entry newlines written => written.record_line newlines, fun line => ?_⟩
  rw [← isContinuation_iff]
  cases own : isContinuation line with
  | true =>
    have continues : record line = .ok none := if_pos own
    exact ⟨iff_of_true continues rfl, .inl continues⟩
  | false =>
    obtain ⟨fault, refused⟩ | ⟨found, read, level⟩ := record_cases own
    · refine ⟨iff_of_false ?_ Bool.false_ne_true, .inr (.inl ⟨fault, refused⟩)⟩
      rw [refused]
      nofun
    · refine ⟨iff_of_false ?_ Bool.false_ne_true, .inr (.inr ⟨found, read, level⟩)⟩
      rw [read]
      nofun

/-- A priority with bits above the level, a further part and a message that holds separators. -/
def systemdEntry : Entry :=
  ⟨30, 339, 5140900, ["-", "caller=T1"], "a;b,c"⟩

/-- The entry is read from its line, with two line ends behind it. -/
theorem record_reads_systemd :
    systemdEntry.CanBeWritten ∧
      record ("30,339,5140900,-,caller=T1;a;b,c".toList ++ ['\n', '\n']) =
        .ok (some ⟨6, 339, 5140900, "a;b,c"⟩) := by
  have written : systemdEntry.CanBeWritten := by
    refine ⟨?_, ?_, ?_⟩
    · decide +kernel
    · decide
    · decide
  exact ⟨written, record_reads.1 systemdEntry 2 written⟩

end NodeConsole.KernelLog
