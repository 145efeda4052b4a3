import NodeConsole.Device.Model
import NodeConsole.Files.Document
import NodeConsole.Files.Tree

/-!
# Loading status files

A status file is a document that holds one message. A file that cannot be read, or whose message is
refused, is dropped; a few messages fail in a way that is not a refusal, and stop the pass.
-/

namespace NodeConsole.Collector

open NodeConsole.Files NodeConsole.Wire NodeConsole.Device

/-- Why a file gives no message. -/
inductive LoadFault where
  | unreadable
  | document (fault : DocumentFault)
  | message (failure : Wire.Failure)
  deriving Repr

namespace LoadFault

/-- The file is dropped, and the pass goes on. -/
def isDropped : LoadFault → Bool
  | unreadable => true
  | document (.notUtf8 _) => true
  | document (.notJson .malformed) => true
  | document (.notJson (.tooManyDigits _)) => true
  | document (.notJson .nestedTooDeep) => false
  | message (.refused _) => true
  | message _ => false

/-- The text of a fault. -/
def text : LoadFault → String
  | unreadable => "cannot be read"
  | document (.notUtf8 fault) => encodingMessage fault
  | document (.notJson .malformed) => "not JSON text"
  | document (.notJson (.tooManyDigits _)) => "an integer has too many digits"
  | document (.notJson .nestedTooDeep) => "nested too deep"
  | message (.refused fault) => fault.message
  | message .bytesNotText => "bytes are not written as text"
  | message .timeOutOfRange => "a time is out of range"
  | message .noFields => "no fields"

end LoadFault

/-- What a file gives: the remarks on its message, and the message. -/
structure Loaded (α : Type) where
  remarks : List Remark
  outcome : Except LoadFault α

/-- Reads the message of a file. -/
def load {α : Type} (read : Value → Reading α) (tree : Tree) (path : Path) : Loaded α :=
  match tree.file? path with
  | none => ⟨[], .error .unreadable⟩
  | some (_, _, bytes) =>
    match document bytes with
    | .error fault => ⟨[], .error (.document fault)⟩
    | .ok payload =>
      let reading := read payload
      ⟨reading.remarks, reading.outcome.mapError .message⟩

end NodeConsole.Collector
