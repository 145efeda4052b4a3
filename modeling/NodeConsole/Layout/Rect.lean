/-!
# Rectangles

Rectangles of terminal cells. Positions and sizes are integers; a rectangle without cells may have a
size of zero or less.
-/

namespace NodeConsole.Layout

/-- A rectangle by its top left cell and its size. -/
structure Rect where
  x : Int
  y : Int
  width : Int
  height : Int
  deriving DecidableEq, Repr

namespace Rect

/-- The first column to the right. -/
def right (rect : Rect) : Int :=
  rect.x + rect.width

/-- The first row below. -/
def bottom (rect : Rect) : Int :=
  rect.y + rect.height

/-- A rectangle without cells. -/
def isEmpty (rect : Rect) : Bool :=
  rect.width ≤ 0 || rect.height ≤ 0

/-- The common part of two rectangles; its size is never negative. -/
def intersection (first second : Rect) : Rect :=
  let x := max first.x second.x
  let y := max first.y second.y
  let right := min first.right second.right
  let bottom := min first.bottom second.bottom
  ⟨x, y, max 0 (right - x), max 0 (bottom - y)⟩

/-- The rectangle inside a margin on all sides. -/
def inner (rect : Rect) (margin : Int) : Rect :=
  ⟨rect.x + margin, rect.y + margin, max 0 (rect.width - 2 * margin),
    max 0 (rect.height - 2 * margin)⟩

end Rect

end NodeConsole.Layout
