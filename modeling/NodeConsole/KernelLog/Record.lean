import NodeConsole.Device.State

/-!
# Kernel log records

A record is a line `priority,sequence,microseconds[,more];message`. Lines that start with a blank
continue the record before them and are no records.
-/

namespace NodeConsole.KernelLog

open NodeConsole.Text NodeConsole.Device

/-- Why a line is no record. -/
inductive RecordFault where
  | noSeparator (line : List Char)
  | headerTooShort (header : List Char)
  | headerNotNumeric (header : List Char)
  deriving DecidableEq, Repr

/-- How much of a line a message shows. -/
def shownLength : Nat := 40

/-- The text of a fault. -/
def RecordFault.message : RecordFault → String
  | noSeparator line =>
    "kmsg record without ';': " ++ String.ofList (quoted (line.take shownLength))
  | headerTooShort header => "kmsg record header too short: " ++ String.ofList (quoted header)
  | headerNotNumeric header => "kmsg record header not numeric: " ++ String.ofList (quoted header)

/-- A line that continues a record, or is empty. -/
def isContinuation : List Char → Bool
  | [] => true
  | c :: _ => c = ' ' || c = '\t'

/-- The level of a priority: its lowest three bits. -/
def levelOf (priority : Int) : Int :=
  priority % 8

/-- The record of a header and a message. -/
def ofHeader (header message : List Char) : Except RecordFault KernelRecord :=
  match splitOn ',' header with
  | priority :: sequence :: micros :: _ =>
    match integer? priority, integer? sequence, integer? micros with
    | some priority, some sequence, some micros =>
      .ok ⟨levelOf priority, sequence, micros,
        String.ofList (dropLastWhile (· = '\n') message)⟩
    | _, _, _ => .error (.headerNotNumeric header)
  | _ => .error (.headerTooShort header)

/-- Reads a line; none if it is no record of its own. -/
def record (line : List Char) : Except RecordFault (Option KernelRecord) :=
  if isContinuation line then .ok none
  else
    let (header, rest) := leading (· ≠ ';') line
    match rest with
    | [] => .error (.noSeparator line)
    | _ :: message => (ofHeader header message).map some

end NodeConsole.KernelLog
