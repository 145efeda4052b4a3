import NodeConsole.App

/-!
# The terminal

While the program runs, the terminal hands on every key at once and shows none of them. However the
run ends, the terminal is left as it was found.
-/

namespace NodeConsole.Command

open NodeConsole.Screen NodeConsole.Time

/-- How a terminal treats what is typed. -/
structure Attributes where
  lineByLine : Bool := true
  echo : Bool := true
  deriving DecidableEq, Repr

/-- The attributes during a run. -/
def Attributes.during (attributes : Attributes) : Attributes :=
  { attributes with lineByLine := false, echo := false }

/-- What the program reads from: no terminal; something that only claims to be one; or a terminal
with its attributes and what is typed. -/
inductive Input where
  | none
  | pretended
  | terminal (attributes : Attributes) (bytes : List UInt8)
  deriving DecidableEq, Repr

/-- The text of the failure to set the attributes. -/
def notConfigurable : String :=
  "cannot configure terminal: (25, 'Inappropriate ioctl for device')"

/-- A run on a terminal: the attributes while it ran and after it, and what it gave. -/
structure Session (α : Type) where
  during : Attributes
  after : Attributes
  result : α

/-- Does something with the attributes of a run, and restores those before it. -/
def withSession {α : Type} (attributes : Attributes) (work : Attributes → α) : Session α :=
  ⟨attributes.during, attributes, work attributes.during⟩

end NodeConsole.Command
