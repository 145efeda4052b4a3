import NodeConsole.Json.Parser
import NodeConsole.Text.Utf8

/-!
# Documents

A document is a file of JSON text in UTF-8.
-/

namespace NodeConsole.Files

open NodeConsole.Text

/-- Why a document cannot be read. -/
inductive DocumentFault where
  | notUtf8 (fault : Utf8.Fault)
  | notJson (fault : Json.Fault)
  deriving DecidableEq, Repr

/-- The words for a malformation. -/
def malformationText : Utf8.Malformation → String
  | .invalidStart => "invalid start byte"
  | .invalidContinuation => "invalid continuation byte"
  | .endOfData => "unexpected end of data"

/-- The text of an encoding fault. -/
def encodingMessage (fault : Utf8.Fault) : String :=
  let place :=
    if fault.size = 1 then
      "byte 0x" ++ String.ofList (hexDigits 2 fault.byte.toNat) ++ " in position " ++
        decimalNat fault.position
    else
      "bytes in position " ++ decimalNat fault.position ++ "-" ++
        decimalNat (fault.position + fault.size - 1)
  "'utf-8' codec can't decode " ++ place ++ ": " ++ malformationText fault.cause

/-- Reads a document. -/
def document (bytes : List UInt8) : Except DocumentFault Value := do
  let text ← (Utf8.decode bytes).mapError .notUtf8
  (Json.parse Json.nestingLimit text).mapError .notJson

end NodeConsole.Files
