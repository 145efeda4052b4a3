import NodeConsole.Files.Tree
import NodeConsole.KernelLog.Record
import NodeConsole.Text.Utf8

/-!
# Following the kernel log

A reader opens the log once and takes what has been added since it last read. A line is delivered
when its line break arrives. A log that cannot be opened is given up, and so is a closed one.
-/

namespace NodeConsole.KernelLog

open NodeConsole.Text NodeConsole.Files NodeConsole.Device

/-- The line break. -/
def newline : UInt8 := 10

/-- The complete lines of a byte sequence, and the bytes after the last line break. -/
def completeLines : List UInt8 → List (List UInt8) × List UInt8
  | [] => ([], [])
  | byte :: rest =>
    let (lines, tail) := completeLines rest
    if byte = newline then ([] :: lines, tail)
    else
      match lines with
      | [] => ([], byte :: tail)
      | line :: lines => ((byte :: line) :: lines, tail)

/-- How many bytes are read at once. -/
def readSize : Nat := 8192

/-- Reads bytes to their end, `readSize` at a time: the lines that they complete, and the unfinished
line after them. `unfinished` is the line that earlier bytes have begun. -/
def readToEnd (unfinished bytes : List UInt8) : List (List UInt8) × List UInt8 :=
  if bytes = [] then ([], unfinished)
  else
    let (lines, tail) := completeLines (unfinished ++ bytes.take readSize)
    let (more, tail) := readToEnd tail (bytes.drop readSize)
    (lines ++ more, tail)
  termination_by bytes.length
  decreasing_by
    have : 0 < bytes.length := List.length_pos_iff.mpr ‹_›
    simp only [List.length_drop, readSize]
    omega

/-- A reader: not opened yet, following a file from a position on with the unfinished line read so
far, or given up. -/
inductive State where
  | unopened
  | following (id position : Nat) (unfinished : List UInt8)
  | onDirectory
  | stopped
  deriving DecidableEq, Repr

/-- A reader of the log at a path. -/
structure Reader where
  path : Path
  state : State := .unopened
  deriving DecidableEq, Repr

/-- Why nothing could be read: the log cannot be opened, which ends the reader; its name cannot be a
path; or what was opened has no bytes. -/
inductive ReadFault where
  | cannotOpen (fault : Fault)
  | badName
  | isDirectory
  deriving DecidableEq, Repr

/-- What is wrong with the file. -/
def ReadFault.fault : ReadFault → Fault
  | cannotOpen fault => fault
  | badName => .nulInPath
  | isDirectory => .isDirectory

namespace Reader

/-- The state after opening. -/
def openLog (tree : Tree) (path : Path) : Except ReadFault State :=
  match tree.locate path with
  | .error .nulInPath => .error .badName
  | .error fault => .error (.cannotOpen fault)
  | .ok place =>
    match tree.entry? place with
    | some (.file id _) => .ok (.following id 0 [])
    | _ => .ok .onDirectory

/-- Takes the lines that a state makes available. -/
def take (tree : Tree) : State → Except ReadFault (List (List UInt8) × State)
  | .following id position unfinished =>
    let content := tree.content id
    let (lines, tail) := readToEnd unfinished (content.drop position)
    .ok (lines, .following id (max position content.length) tail)
  | .onDirectory => .error .isDirectory
  | state => .ok ([], state)

/-- Reads the lines that are complete. -/
def read (tree : Tree) (reader : Reader) : Reader × Except ReadFault (List (List Char)) :=
  let opened := match reader.state with
    | .unopened => openLog tree reader.path
    | state => .ok state
  match opened with
  | .error (.cannotOpen fault) => ({ reader with state := .stopped }, .error (.cannotOpen fault))
  | .error fault => (reader, .error fault)
  | .ok state =>
    match take tree state with
    | .error fault => ({ reader with state := state }, .error fault)
    | .ok (lines, state) =>
      ({ reader with state := state }, .ok (lines.map Utf8.decodeReplacing))

/-- Closes the reader; nothing is read after that. -/
def close (reader : Reader) : Reader :=
  { reader with state := .stopped }

end Reader

/-- The records of lines, and the faults of the lines that are none. -/
def records (lines : List (List Char)) : List KernelRecord :=
  lines.filterMap fun line => (record line).toOption.join

/-- The faults of lines. -/
def faults (lines : List (List Char)) : List RecordFault :=
  lines.filterMap fun line =>
    match record line with
    | .error fault => some fault
    | .ok _ => none

end NodeConsole.KernelLog
