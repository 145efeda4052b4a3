import NodeConsole.Text.Parts

/-!
# Paths

A path is a root mark and names. Doubled slashes, a slash at the end and the name `.` have no
effect; the name `..` is kept. Exactly two slashes at the start are a root of their own.
-/

namespace NodeConsole.Files

open NodeConsole.Text

/-- A path; `root` is empty, one slash or two. -/
structure Path where
  root : String
  names : List String
  deriving DecidableEq, Repr

namespace Path

/-- The names between the slashes of a text. -/
def namesOf (text : List Char) : List String :=
  ((splitOn '/' text).filter fun name => name ≠ [] ∧ name ≠ ['.']).map String.ofList

/-- The root mark of a text. -/
def rootOf (text : List Char) : String :=
  match text with
  | '/' :: '/' :: '/' :: _ => "/"
  | '/' :: '/' :: _ => "//"
  | '/' :: _ => "/"
  | _ => ""

/-- Reads a path. -/
def ofText (text : String) : Path :=
  ⟨rootOf text.toList, namesOf text.toList⟩

/-- A path that starts at a root. -/
def isAbsolute (path : Path) : Bool :=
  path.root ≠ ""

/-- The text of a path; the empty path is `.`. -/
def text (path : Path) : String :=
  if path.root = "" ∧ path.names = [] then "." else path.root ++ joinWith "/" path.names

/-- A path below another, unless it is absolute itself. -/
def join (base path : Path) : Path :=
  if path.isAbsolute then path else ⟨base.root, base.names ++ path.names⟩

/-- The path of a child. -/
def child (path : Path) (name : String) : Path :=
  ⟨path.root, path.names ++ [name]⟩

/-- The path of the directory that a path stands in; a root stands in itself. -/
def parent (path : Path) : Path :=
  ⟨path.root, path.names.dropLast⟩

/-- A path with each `..` and the name before it struck out. A path without a root is left as it is,
since what stands before it is not known. -/
def straightened (path : Path) : Path :=
  if path.isAbsolute then
    ⟨path.root, path.names.foldl
      (fun names name => if name = ".." then names.dropLast else names ++ [name]) []⟩
  else path

/-- The most bytes that a path may have. -/
def maxBytes : Nat := 4095

/-- The most bytes that a name may have. -/
def maxNameBytes : Nat := 255

/-- A path that is longer than any file's. -/
def isTooLong (path : Path) : Bool :=
  maxBytes < path.text.utf8ByteSize

/-- Paths are ordered by their root, then name by name. -/
def le (left right : Path) : Bool :=
  !decide (right.root :: right.names < left.root :: left.names)

end Path

end NodeConsole.Files
