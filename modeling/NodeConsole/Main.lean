import NodeConsole.Command.Run
import NodeConsole.Json.Printer

/-!
# The program

Reads the files that a call may look at, makes the call, and writes what it gives.
-/

namespace NodeConsole.Main

open NodeConsole.Command NodeConsole.Files

/-- A time of change in nanoseconds. -/
def nanoseconds (metadata : IO.FS.Metadata) : Int :=
  metadata.modified.sec * 1000000000 + metadata.modified.nsec.toNat

/-- Adds what stands at a path, with all that is below it. What cannot be read is left out. -/
partial def addBelow (tree : Tree) (text : String) : IO Tree := do
  let path := Path.ofText text
  try
    let found ← IO.FS.realPath text
    let metadata ← found.metadata
    match metadata.type with
    | .dir =>
      let entries ← found.readDir
      entries.foldlM (fun tree entry => addBelow tree (path.child entry.fileName).text)
        (tree.makeDirectory path).tree
    | .file =>
      let bytes ← IO.FS.readBinFile text
      pure (tree.write path (nanoseconds metadata) bytes.toList).tree
    | _ => pure tree
  catch _ => pure tree

/-- The files that a call may look at: its configuration and the status files. -/
def filesFor (environment : Environment) (words : List String) : IO Tree := do
  match read (environment.profile.getD Profile.release.name) words with
  | .run options =>
    let tree ← match options.config with
      | some path => addBelow {} path
      | none => pure {}
    addBelow tree (options.base environment).text
  | _ => pure {}

/-- All bytes of a stream, after those read before. -/
partial def readAll (stream : IO.FS.Stream) (before : ByteArray) : IO ByteArray := do
  let bytes ← stream.read 4096
  if bytes.isEmpty then pure before else readAll stream (before ++ bytes)

/-- What the program reads from. -/
def input : IO Input := do
  let stdin ← IO.getStdin
  if ← stdin.isTty then
    let bytes ← readAll stdin .empty
    pure (.terminal {} bytes.toList)
  else pure .none

/-- Writes what a call gives. -/
def report (outcome : Outcome) : IO Unit := do
  match outcome.output with
  | .none => pure ()
  | .text text => IO.print text
  | .value value => IO.println (Json.indented 0 value)
  if outcome.error ≠ "" then IO.eprintln outcome.error

/-- Adds the entries of a call to its log. -/
def writeLog (outcome : Outcome) : IO Unit := do
  match outcome.logPath with
  | none => pure ()
  | some path =>
    IO.FS.createDirAll path.parent.text
    let log ← IO.FS.Handle.mk path.text .append
    outcome.log.forM fun entry => log.putStrLn entry.line

/-- Makes a call and gives the number it ends with. -/
def run (words : List String) : IO UInt32 := do
  let environment : Environment := ⟨← IO.getEnv "EVE_TUI_PROFILE", ← IO.getEnv "EVE_RUN_DIR"⟩
  let outcome := call (← filesFor environment words) environment (← input) ⟨0⟩ words
  report outcome
  writeLog outcome
  match outcome.ending with
  | .ok code => pure code.toUInt32
  | .error _ => pure 1

end NodeConsole.Main

/-- The program on the command line. -/
def main (words : List String) : IO UInt32 :=
  NodeConsole.Main.run words
