import NodeConsole.Layout.Rect

/-!
# What is painted

Styled texts, tables and panels, as they are handed to the terminal, and the list of what is painted
where.
-/

namespace NodeConsole.Paint

open NodeConsole.Layout

/-- A styled range of a text, by the places of its first character and of the one after its last. -/
structure Span where
  start : Nat
  stop : Nat
  style : String
  deriving DecidableEq, Repr

/-- A text with a style of its own, and styled ranges. -/
structure StyledText where
  text : String
  style : String := ""
  spans : List Span := []
  justify : Option String := none
  overflow : Option String := none
  noWrap : Bool := false
  deriving DecidableEq, Repr

namespace StyledText

/-- Characters that a terminal would act upon, and that no text shows. -/
def isStripped (c : Char) : Bool :=
  c.toNat = 7 || c.toNat = 8 || c.toNat = 11 || c.toNat = 12 || c.toNat = 13

/-- A text without the characters that are not shown. -/
def shown (text : String) : String :=
  String.ofList (text.toList.filter fun c => !isStripped c)

/-- A text in one style. -/
def of (text style : String) : StyledText :=
  { text := shown text, style := style }

/-- Adds text at the end; if it has a style, it becomes a range. -/
def append (styled : StyledText) (text style : String) : StyledText :=
  let added := shown text
  let start := styled.text.length
  let spans := if text ≠ "" ∧ style ≠ "" then [⟨start, start + added.length, style⟩] else []
  { styled with text := styled.text ++ added, spans := styled.spans ++ spans }

end StyledText

/-- A cell of a table. -/
inductive Cell where
  | plain (text : String)
  | styled (text : StyledText)
  deriving DecidableEq, Repr

/-- A column of a table. -/
structure Column where
  header : String
  style : String := ""
  noWrap : Bool := false
  overflow : String := "ellipsis"
  deriving DecidableEq, Repr

/-- A row of a table. -/
structure Row where
  cells : List Cell
  style : Option String := none
  deriving DecidableEq, Repr

/-- A table. -/
structure Table where
  columns : List Column
  rows : List Row
  showHeader : Bool := true
  expand : Bool := true
  padEdge : Bool := true
  deriving DecidableEq, Repr

/-- What a panel holds. -/
inductive Body where
  | text (text : StyledText)
  | table (table : Table)
  deriving DecidableEq, Repr

/-- The lines that frame a panel. -/
inductive BoxStyle where
  | rounded | heavy
  deriving DecidableEq, Repr

/-- A framed panel. A subtitle has an alignment. -/
structure Panel where
  body : Body
  border : String
  title : Option String := none
  subtitle : Option (String × String) := none
  box : BoxStyle := .rounded
  style : String := "none"
  padded : Bool := true
  deriving DecidableEq, Repr

/-- Anything that can be painted. -/
inductive Renderable where
  | text (text : StyledText)
  | panel (panel : Panel)
  | group (panels : List Panel)
  deriving DecidableEq, Repr

/-- A step of painting: something is painted into a rectangle, or a rectangle is cleared. -/
inductive Stroke where
  | paint (area : Rect) (what : Renderable)
  | clear (area : Rect)
  deriving DecidableEq, Repr

/-- The rectangle of a stroke. -/
def Stroke.area : Stroke → Rect
  | paint area _ => area
  | clear area => area

end NodeConsole.Paint
