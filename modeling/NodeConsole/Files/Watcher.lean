import NodeConsole.Files.Glob

/-!
# Watching files

A watcher remembers the files that a pattern selected and when they were changed, and tells at each
scan what is different.
-/

namespace NodeConsole.Files

/-- A file as a scan saw it. -/
structure Seen where
  path : Path
  time : Int
  deriving DecidableEq, Repr

/-- Files in order of change; files changed at the same time in order of their names. -/
def Seen.le (left right : Seen) : Bool :=
  left.time < right.time ||
    (left.time = right.time && !decide (right.path.text < left.path.text))

/-- What a scan tells: the files that are new or changed, oldest change first, and the files that
are gone. -/
structure Changes where
  changed : List Path
  removed : List Path
  deriving DecidableEq, Repr

/-- The files of the last scan of a pattern below a directory. -/
structure Watcher where
  base : Path
  pattern : String
  seen : List Seen := []
  deriving DecidableEq, Repr

namespace Watcher

/-- The time of a file in the last scan. -/
def time? (watcher : Watcher) (path : Path) : Option Int :=
  (watcher.seen.find? (·.path = path)).map (·.time)

/-- The files that a pattern selects now. -/
def current (tree : Tree) (watcher : Watcher) : Except PatternFault (List Seen) := do
  let paths ← resolve tree watcher.base watcher.pattern
  pure (paths.filterMap fun path => (tree.file? path).map fun file => ⟨path, file.2.1⟩)

/-- Compares the files of now with those of the last scan. -/
def compare (watcher : Watcher) (now : List Seen) : Changes where
  changed :=
    let changed := now.filter fun file => watcher.time? file.path ≠ some file.time
    (changed.mergeSort Seen.le).map (·.path)
  removed :=
    (watcher.seen.filter fun file => now.all (·.path ≠ file.path)).map (·.path)

/-- Scans. -/
def scan (tree : Tree) (watcher : Watcher) : Except PatternFault (Changes × Watcher) := do
  let now ← watcher.current tree
  pure (watcher.compare now, { watcher with seen := now })

end Watcher

end NodeConsole.Files
