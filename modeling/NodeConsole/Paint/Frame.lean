import NodeConsole.Layout.Rect
import NodeConsole.Text.CellWidth

/-!
# The frame

The cells of a terminal screen. Painting overwrites earlier cells, which is what lets a dialog lie
on top of a page. A character that takes two cells is followed by the mark of its right half; when
one half is overwritten, the other becomes a blank, so that every row keeps its width.
-/

namespace NodeConsole.Paint

open NodeConsole.Layout
open NodeConsole.Text

/-- A cell holds a character in a style, or it is the right half of the character before it. -/
inductive FrameCell where
  | glyph (char : Char) (style : Option String)
  | continuation
  deriving DecidableEq, Repr

/-- A cell without anything in it. -/
def FrameCell.blank : FrameCell :=
  .glyph ' ' none

/-- A piece of a line in one style. -/
structure Segment where
  text : String
  style : Option String := none
  deriving DecidableEq, Repr

/-- A line of a painted text, without the segments that only hold codes for the terminal. -/
abbrev Line := List Segment

namespace Line

/-- The characters of a line, each with its style. -/
def glyphs (line : Line) : List (Char × Option String) :=
  line.flatMap fun segment => segment.text.toList.map fun char => (char, segment.style)

/-- The characters that fit into a width, then blanks up to it. A wide character that would reach
beyond the width leaves a blank in its style. -/
def fitGlyphs : Nat → List (Char × Option String) → List (Char × Option String)
  | width, [] => List.replicate width (' ', none)
  | width, (char, style) :: rest =>
    if cellWidth char ≤ width then
      (char, style) :: fitGlyphs (width - cellWidth char) rest
    else
      List.replicate width (' ', style)

/-- A line of exactly the given width. -/
def fit (width : Nat) (line : Line) : Line :=
  (fitGlyphs width line.glyphs).map fun glyph => ⟨String.singleton glyph.1, glyph.2⟩

end Line

/-- A screen of cells. -/
structure Frame where
  width : Nat
  height : Nat
  rows : List (List FrameCell)
  deriving DecidableEq, Repr

namespace Frame

/-- A blank frame; a negative size counts as zero. -/
def ofSize (width height : Int) : Frame :=
  ⟨width.toNat, height.toNat,
    List.replicate height.toNat (List.replicate width.toNat FrameCell.blank)⟩

/-- The rectangle of all cells. -/
def area (frame : Frame) : Rect :=
  ⟨0, 0, frame.width, frame.height⟩

/-- Blanks the half that is left of a wide character cut by the cells from `start` to before
`stop`. -/
def splitWide (start stop : Nat) (row : List FrameCell) : List FrameCell :=
  let left :=
    if 0 < start ∧ row[start]? = some .continuation then row.set (start - 1) .blank else row
  if left[stop]? = some .continuation then left.set stop .blank else left

/-- Replaces the cells from `start` on by as many blanks as asked for. -/
def blankCells (start count : Nat) (row : List FrameCell) : List FrameCell :=
  row.take start ++ List.replicate count .blank ++ row.drop (start + count)

/-- Writes characters from a column on, up to before `right`. Characters without a width are left
out, and the first that would cross the right end stops the writing. -/
def blit (right : Nat) : Nat → List (Char × Option String) → List FrameCell → List FrameCell
  | _, [], row => row
  | column, (char, style) :: rest, row =>
    let width := cellWidth char
    if width = 0 then
      blit right column rest row
    else if right < column + width then
      row
    else
      let opened := (splitWide column (column + width) row).set column (.glyph char style)
      let written := if width = 2 then opened.set (column + 1) .continuation else opened
      blit right (column + width) rest written

/-- Applies a change to the rows from `y` on, one change a row. -/
def modifyRows (y : Nat) (changes : List (List FrameCell → List FrameCell)) (frame : Frame) :
    Frame :=
  let touched := (frame.rows.drop y).take changes.length
  let changed := List.zipWith (fun change row => change row) changes touched
  { frame with rows := frame.rows.take y ++ changed ++ frame.rows.drop (y + changes.length) }

/-- Blanks the cells of a rectangle. -/
def clear (frame : Frame) (target : Rect) : Frame :=
  let clipped := target.intersection frame.area
  let start := clipped.x.toNat
  let change := fun row =>
    blankCells start clipped.width.toNat (splitWide start clipped.right.toNat row)
  frame.modifyRows clipped.y.toNat (List.replicate clipped.height.toNat change)

/-- Writes lines into a rectangle, the first at its top. Nothing is written beyond the rectangle. -/
def render (frame : Frame) (lines : List Line) (target : Rect) : Frame :=
  let clipped := target.intersection frame.area
  if clipped.isEmpty then
    frame
  else
    let shown := lines.take clipped.height.toNat
    frame.modifyRows clipped.y.toNat
      (shown.map fun line => blit clipped.right.toNat clipped.x.toNat line.glyphs)

/-- Fills a rectangle with lines: every line is fitted to the width that is visible, and blank lines
follow the last one. -/
def fill (frame : Frame) (lines : List Line) (target : Rect) : Frame :=
  let clipped := target.intersection frame.area
  let height := clipped.height.toNat
  let all := lines.take height ++ List.replicate (height - lines.length) []
  frame.render (all.map (Line.fit clipped.width.toNat)) target

/-- The characters of a row of cells. -/
def cellsText (row : List FrameCell) : String :=
  String.ofList (row.filterMap fun cell =>
    match cell with
    | .glyph char _ => some char
    | .continuation => none)

/-- The text of a row. Rows are counted from the top, from zero; negative numbers count from the
bottom. -/
def rowText? (frame : Frame) (y : Int) : Option String :=
  let index := if y < 0 then y + frame.rows.length else y
  if index < 0 then none else frame.rows[index.toNat]?.map cellsText

/-- The text of all rows. -/
def text (frame : Frame) : String :=
  "\n".intercalate (frame.rows.map cellsText)

/-- A run of characters in one style as a segment; without characters there is none. -/
def runSegments (run : List Char) (style : Option String) : List Segment :=
  if run = [] then [] else [⟨String.ofList run, style⟩]

/-- The segments of cells that follow a run of characters. A character in another style ends the
run and starts a new one; right halves of wide characters are left out. -/
def segmentsFrom (run : List Char) (runStyle : Option String) : List FrameCell → List Segment
  | [] => runSegments run runStyle
  | .continuation :: rest => segmentsFrom run runStyle rest
  | .glyph char style :: rest =>
    if style = runStyle then segmentsFrom (run ++ [char]) style rest
    else runSegments run runStyle ++ segmentsFrom [char] style rest

/-- A row as segments, each as long as its style goes on. -/
def rowSegments (row : List FrameCell) : List Segment :=
  segmentsFrom [] none row

/-- The segment that ends a row. -/
def lineEnd : Segment :=
  ⟨"\n", none⟩

/-- The frame as segments; every row ends with a line end. -/
def segments (frame : Frame) : List Segment :=
  frame.rows.flatMap fun row => rowSegments row ++ [lineEnd]

end Frame

end NodeConsole.Paint
