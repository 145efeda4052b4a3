import NodeConsole.Layout.Rect

/-!
# Splitting an area

How the screen and its parts are divided into panes.
-/

namespace NodeConsole.Layout

/-- How much room a width gives. -/
inductive Mode where
  | narrow | medium | wide
  deriving DecidableEq, Repr

/-- The name of a mode. -/
def Mode.name : Mode → String
  | narrow => "narrow"
  | medium => "medium"
  | wide => "wide"

/-- The mode of a width. -/
def Mode.of (width : Int) : Mode :=
  if width < 100 then narrow else if width < 160 then medium else wide

/-- A rectangle of a size, no larger than the area, in the middle of it. An odd cell that is left
over goes to the right and to the bottom. -/
def centered (width height : Int) (area : Rect) : Rect :=
  let width := min width area.width
  let height := min height area.height
  ⟨area.x + (area.width - width) / 2, area.y + (area.height - height) / 2, width, height⟩

/-- A pane on the left and one of a fixed width on the right. -/
def splitRight (area : Rect) (fixed : Int) : Rect × Rect :=
  let rightWidth := min (max 0 fixed) area.width
  let leftWidth := area.width - rightWidth
  (⟨area.x, area.y, leftWidth, area.height⟩, ⟨area.x + leftWidth, area.y, rightWidth, area.height⟩)

/-- Columns of given widths, side by side from a column of the screen on. -/
def columnsFrom (area : Rect) (x : Int) : List Int → List Rect
  | [] => []
  | width :: rest => ⟨x, area.y, width, area.height⟩ :: columnsFrom area (x + width) rest

/-- The widths of columns that share a width as evenly as possible, wider ones first. -/
def columnWidths (width : Int) (count : Nat) : List Int :=
  (List.range count).map fun (index : Nat) =>
    width / (count : Int) + if (index : Int) < width % (count : Int) then 1 else 0

/-- Columns that share an area. -/
def splitColumns (area : Rect) (count : Int) : List Rect :=
  columnsFrom area area.x (columnWidths area.width count.toNat)

/-- Rows of given heights from a row of the screen on; what lies below the area is cut off. -/
def rowsFrom (area : Rect) (y : Int) : List Int → List Rect
  | [] => []
  | height :: rest =>
    ⟨area.x, y, area.width, max 0 (min height (area.bottom - y))⟩ :: rowsFrom area (y + height) rest

/-- Rows of given heights from the top of an area. -/
def stackRows (area : Rect) (heights : List Int) : List Rect :=
  rowsFrom area area.y heights

/-- The height of the tab bar. -/
def tabsHeight : Int := 3

/-- The height of the status bar. -/
def statusHeight : Int := 3

/-- The parts of the screen. -/
structure Screen where
  tabs : Rect
  body : Rect
  status : Rect
  deriving DecidableEq, Repr

/-- The tab bar at the top, the status bar at the bottom, the body between them. If there is too
little room the body goes first, then the status bar. -/
def Screen.of (area : Rect) : Screen :=
  let tabs := min tabsHeight area.height
  let status := min statusHeight (max 0 (area.height - tabs))
  let body := max 0 (area.height - tabs - status)
  ⟨⟨area.x, area.y, area.width, tabs⟩, ⟨area.x, area.y + tabs, area.width, body⟩,
    ⟨area.x, area.y + tabs + body, area.width, status⟩⟩

end NodeConsole.Layout
