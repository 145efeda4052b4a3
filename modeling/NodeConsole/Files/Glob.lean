import NodeConsole.Files.Tree
import NodeConsole.Files.Wildcard

/-!
# Path patterns

A pattern names files by the parts of their paths. A part may have wildcards; the part `**` stands
for any number of directories. A relative pattern is taken below a given directory.
-/

namespace NodeConsole.Files

/-- Why a pattern is refused: it is empty, has no parts, is only a slash, or has two stars within a
longer part. -/
inductive PatternFault where
  | empty
  | noParts
  | onlySlash
  | starsWithin
  deriving DecidableEq, Repr

/-- How the next name of a path is chosen. -/
inductive Selector where
  | exactly (name : String)
  | matching (pattern : String)
  | anyDepth
  deriving DecidableEq, Repr

/-- The selector of a part. -/
def Selector.of (part : String) : Except PatternFault Selector :=
  if part = "**" then .ok .anyDepth
  else if Text.occursIn ['*', '*'] part.toList then .error .starsWithin
  else if hasWildcard part then .ok (.matching part)
  else .ok (.exactly part)

/-- A path that has been reached, and where it leads. -/
structure Reached where
  path : Path
  place : Place
  deriving DecidableEq, Repr

namespace Reached

/-- The child of a name. -/
def child (reached : Reached) (name : String) : Reached :=
  ⟨reached.path.child name,
    if name = ".." then reached.place.dropLast else reached.place ++ [name]⟩

/-- A directory and all directories below it, to a depth. -/
def directories (tree : Tree) : Nat → Reached → List Reached
  | 0, reached => [reached]
  | depth + 1, reached =>
    reached :: ((tree.names reached.place).map reached.child).flatMap fun child =>
      if tree.isDirectory child.place then directories tree depth child else []

/-- The longest place of a tree. -/
def depth (tree : Tree) : Nat :=
  tree.entries.foldl (fun longest entry => max longest entry.1.length) 0

/-- What the parts of a pattern select below a directory. All but the last part select directories
only. Nothing stands at a path that is too long. -/
def select (tree : Tree) : List Selector → Bool → Reached → List Reached
  | [], _, reached => [reached]
  | .exactly name :: rest, directoriesOnly, reached =>
    let child := reached.child name
    let found := if rest = [] ∧ !directoriesOnly then (tree.entry? child.place).isSome
      else tree.isDirectory child.place
    if found ∧ !child.path.isTooLong then select tree rest directoriesOnly child else []
  | .matching pattern :: rest, directoriesOnly, reached =>
    let children := ((tree.names reached.place).filter (matchesPattern pattern)).map reached.child
    let children := if rest = [] ∧ !directoriesOnly then children
      else children.filter fun child => tree.isDirectory child.place
    children.flatMap (select tree rest directoriesOnly)
  | .anyDepth :: rest, directoriesOnly, reached =>
    ((directories tree (depth tree) reached).flatMap (select tree rest directoriesOnly)).eraseDups

end Reached

/-- The selectors of a relative pattern, and whether it selects directories only. -/
def selectors (pattern : String) : Except PatternFault (List Selector × Bool) := do
  let parts := Path.namesOf pattern.toList
  let slashLast := pattern.toList.getLast? = some '/'
  if pattern = "" then throw .empty
  if parts = [] then throw (if slashLast then .onlySlash else .noParts)
  let selectors ← parts.mapM Selector.of
  pure (selectors, slashLast)

/-- The paths that a relative pattern selects below a directory. -/
def globBelow (tree : Tree) (base : Path) (pattern : String) :
    Except PatternFault (List Reached) := do
  let (selectors, directoriesOnly) ← selectors pattern
  match tree.locate base with
  | .ok place =>
    if tree.isDirectory place then
      pure (Reached.select tree selectors directoriesOnly ⟨base, place⟩)
    else pure []
  | .error _ => pure []

/-- The files that a pattern selects, in order of their paths. The parts of an absolute pattern are
taken below its root. -/
def resolve (tree : Tree) (base : Path) (pattern : String) : Except PatternFault (List Path) := do
  let path := Path.ofText pattern
  let reached ←
    if path.isAbsolute then globBelow tree ⟨path.root, []⟩ (Path.mk "" path.names).text
    else globBelow tree base pattern
  let files := reached.filter fun found => tree.isFile found.place
  pure ((files.map (·.path)).mergeSort Path.le)

end NodeConsole.Files
