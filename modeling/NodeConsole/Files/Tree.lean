import NodeConsole.Files.Path
import NodeConsole.Text.Quoted

/-!
# File trees

The files and directories below one root, with their contents and times of change. A file keeps its
identity when it is written anew, and loses it when it is removed; who has opened a file goes on
reading the file it opened. A change that is refused leaves in place what it has made by then.
-/

namespace NodeConsole.Files

/-- Why a file cannot be used as asked. The system itself never sees a path with a NUL character,
which cannot be handed to it. -/
inductive Fault where
  | missing
  | notDirectory
  | isDirectory
  | alreadyExists
  | nameTooLong
  | nulInPath
  deriving DecidableEq, Repr

/-- The text of a fault about a path, with the number that the system gives for it. -/
def Fault.message (fault : Fault) (path : Path) : String :=
  let about (text : String) := text ++ ": " ++ String.ofList (Text.quoted path.text.toList)
  match fault with
  | missing => about "[Errno 2] No such file or directory"
  | notDirectory => about "[Errno 20] Not a directory"
  | isDirectory => about "[Errno 21] Is a directory"
  | alreadyExists => about "[Errno 17] File exists"
  | nameTooLong => about "[Errno 36] File name too long"
  | nulInPath => "embedded null byte"

/-- A fault, and the path that it is about. -/
structure Refusal where
  fault : Fault
  path : Path
  deriving DecidableEq, Repr

/-- The text of a refusal. -/
def Refusal.message (refusal : Refusal) : String :=
  refusal.fault.message refusal.path

/-- The names from the root down to a place. -/
abbrev Place := List String

/-- What stands at a place: a directory, or a file with its identity and its time of change in
nanoseconds. -/
inductive Occupant where
  | directory
  | file (id : Nat) (time : Int)
  deriving DecidableEq, Repr

/-- A file tree. The root itself is not an entry. Contents are kept by identity. -/
structure Tree where
  entries : List (Place × Occupant) := []
  contents : List (Nat × List UInt8) := []
  nextId : Nat := 0
  deriving DecidableEq, Repr

/-- How an attempt to change a tree ends: the tree after it, and the refusal if it did not go
through. -/
structure Attempt where
  tree : Tree
  refusal? : Option Refusal := none
  deriving DecidableEq, Repr

namespace Attempt

/-- An attempt at one path, which changes everything or nothing. -/
def atOnce (tree : Tree) (path : Path) : Except Fault Tree → Attempt
  | .ok after => ⟨after, none⟩
  | .error fault => ⟨tree, some ⟨fault, path⟩⟩

/-- Goes on after an attempt, unless it was refused. -/
def andThen (attempt : Attempt) (next : Tree → Attempt) : Attempt :=
  if attempt.refusal?.isSome then attempt else next attempt.tree

end Attempt

namespace Tree

/-- What stands at a place. -/
def entry? (tree : Tree) (place : Place) : Option Occupant :=
  if place = [] then some .directory
  else (tree.entries.find? (·.1 = place)).map (·.2)

/-- A directory stands at a place. -/
def isDirectory (tree : Tree) (place : Place) : Bool :=
  tree.entry? place = some .directory

/-- A file stands at a place. -/
def isFile (tree : Tree) (place : Place) : Bool :=
  match tree.entry? place with
  | some (.file ..) => true
  | _ => false

/-- The names in a directory. -/
def names (tree : Tree) (place : Place) : List String :=
  tree.entries.filterMap fun entry =>
    if entry.1.dropLast = place then entry.1.getLast? else none

/-- The place that a name leads to from another, `..` leading up. -/
def step (tree : Tree) (place : Place) (name : String) : Except Fault Place :=
  match tree.entry? place with
  | none => .error .missing
  | some (.file ..) => .error .notDirectory
  | some .directory =>
    if Path.maxNameBytes < name.utf8ByteSize then .error .nameTooLong
    else .ok (if name = ".." then place.dropLast else place ++ [name])

/-- Follows names from a place. -/
def walk (tree : Tree) (place : Place) : List String → Except Fault Place
  | [] => .ok place
  | name :: rest =>
    match tree.step place name with
    | .error fault => .error fault
    | .ok next => walk tree next rest

/-- The place that a path leads to, whether or not anything stands there. -/
def follow (tree : Tree) (path : Path) : Except Fault Place :=
  if path.text.toList.contains '\x00' then .error .nulInPath
  else if path.isTooLong then .error .nameTooLong
  else tree.walk [] path.names

/-- The place of a path, if something stands there. -/
def locate (tree : Tree) (path : Path) : Except Fault Place := do
  let place ← tree.follow path
  match tree.entry? place with
  | some _ => pure place
  | none => .error .missing

/-- Sets what stands at a place. -/
def set (tree : Tree) (place : Place) (entry : Occupant) : Tree :=
  if tree.entries.any (·.1 = place) then
    { tree with
      entries := tree.entries.map fun found => if found.1 = place then (place, entry) else found }
  else { tree with entries := tree.entries ++ [(place, entry)] }

/-- Makes a directory in one that stands already. It may stand already itself. -/
def makeOne (tree : Tree) (path : Path) : Except Fault Tree := do
  let place ← tree.follow path
  match tree.entry? place with
  | none => pure (tree.set place .directory)
  | some .directory => pure tree
  | some (.file ..) => throw .alreadyExists

/-- Makes the directory whose names, last name first, are given. If those above it are missing, they
are made first. -/
def makeUpward (tree : Tree) (root : String) : List String → Attempt
  | [] => ⟨tree, none⟩
  | name :: above =>
    let path : Path := ⟨root, (name :: above).reverse⟩
    match tree.makeOne path with
    | .error .missing =>
      (makeUpward tree root above).andThen fun tree => .atOnce tree path (tree.makeOne path)
    | made => .atOnce tree path made

/-- Makes a directory and those above it, as far as they are missing. -/
def makeDirectory (tree : Tree) (path : Path) : Attempt :=
  tree.makeUpward path.root path.names.reverse

/-- The contents of a file, by identity. -/
def content (tree : Tree) (id : Nat) : List UInt8 :=
  ((tree.contents.find? (·.1 = id)).map (·.2)).getD []

/-- Sets the contents of a file. -/
def setContent (tree : Tree) (id : Nat) (bytes : List UInt8) : Tree :=
  { tree with contents := (id, bytes) :: tree.contents.filter (·.1 ≠ id) }

/-- Changes the contents of the file at a place, or starts a new file there. -/
def change (tree : Tree) (place : Place) (time : Int) (edit : List UInt8 → List UInt8) :
    Except Fault Tree :=
  match tree.entry? place with
  | some .directory => .error .isDirectory
  | some (.file id _) =>
    .ok ((tree.set place (.file id time)).setContent id (edit (tree.content id)))
  | none =>
    let id := tree.nextId
    .ok ({ tree.set place (.file id time) with nextId := id + 1 }.setContent id (edit []))

/-- Changes the file of a path. The directories above it are made if they are missing. -/
def edit (tree : Tree) (path : Path) (time : Int) (edit : List UInt8 → List UInt8) : Attempt :=
  (tree.makeDirectory path.parent).andThen fun tree => .atOnce tree path do
    let place ← tree.follow path
    tree.change place time edit

/-- Writes a file as a whole. -/
def write (tree : Tree) (path : Path) (time : Int) (bytes : List UInt8) : Attempt :=
  tree.edit path time fun _ => bytes

/-- Adds bytes at the end of a file. -/
def append (tree : Tree) (path : Path) (time : Int) (bytes : List UInt8) : Attempt :=
  tree.edit path time fun before => before ++ bytes

/-- Sets the time of change. The directories above the path are made if they are missing. The time
of a directory is one that nobody asks for. -/
def touch (tree : Tree) (path : Path) (time : Int) : Attempt :=
  (tree.makeDirectory path.parent).andThen fun tree => .atOnce tree path do
    let place ← tree.locate path
    match tree.entry? place with
    | some (.file id _) => pure (tree.set place (.file id time))
    | _ => pure tree

/-- Removes a file, or a directory with all that it holds. A path that ends in `..` passes through
the directory that it names, and so can no longer be followed once that is empty: the directory
itself stays. -/
def remove (tree : Tree) (path : Path) : Attempt :=
  match tree.locate path with
  | .error fault => ⟨tree, some ⟨fault, path⟩⟩
  | .ok place =>
    let left (stays : Place → Bool) : Tree :=
      { tree with
        entries := tree.entries.filter fun entry => stays entry.1 || !place.isPrefixOf entry.1 }
    if path.names.getLast? = some ".." then ⟨left (· = place), some ⟨.missing, path⟩⟩
    else ⟨left fun _ => false, none⟩

/-- The identity, time of change and contents of a file. -/
def file? (tree : Tree) (path : Path) : Option (Nat × Int × List UInt8) := do
  let place ← (tree.locate path).toOption
  match tree.entry? place with
  | some (.file id time) => pure (id, time, tree.content id)
  | _ => none

end Tree

end NodeConsole.Files
