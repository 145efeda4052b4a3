import NodeConsole.Proofs.Paint.Rows

/-!
# Integrity of the frame

However a frame is cleared and written to, each of its rows has as many cells as the frame is wide,
and each character in it has the cells that it takes: `performAll_intact`. No cell or row is ever
asked for that is not there. To say so, painting is also defined in steps that fail when they reach
for such a cell or row (`clear?`, `render?`); on an intact frame these steps never fail, and they do
what `clear` and `render` do.
-/

namespace NodeConsole.Paint.Frame

open NodeConsole.Layout NodeConsole.Text

/-! ## Painting that fails when it leaves the frame -/

/-- Sets a cell, if the row has it. -/
def setCell? (column : Nat) (cell : FrameCell) (row : List FrameCell) : Option (List FrameCell) :=
  if column < row.length then some (row.set column cell) else none

/-- Blanks the halves that are left of wide characters, if the row has them. -/
def splitWide? (start stop : Nat) (row : List FrameCell) : Option (List FrameCell) := do
  let left ←
    if 0 < start ∧ row[start]? = some .continuation then setCell? (start - 1) .blank row
    else some row
  if left[stop]? = some .continuation then setCell? stop .blank left else some left

/-- Writes a character, if the row has the cells. -/
def place? (column : Nat) (char : Char) (style : Option String) (row : List FrameCell) :
    Option (List FrameCell) := do
  let opened ← splitWide? column (column + cellWidth char) row
  let written ← setCell? column (.glyph char style) opened
  if cellWidth char = 2 then setCell? (column + 1) .continuation written else some written

/-- Writes characters, if the row has the cells. -/
def blit? (right : Nat) :
    Nat → List (Char × Option String) → List FrameCell → Option (List FrameCell)
  | _, [], row => some row
  | column, (char, style) :: rest, row =>
    let width := cellWidth char
    if width = 0 then
      blit? right column rest row
    else if right < column + width then
      some row
    else do
      let written ← place? column char style row
      blit? right (column + width) rest written

/-- Changes the row at `y`, if the frame has it. -/
def modifyRow? (y : Nat) (change : List FrameCell → Option (List FrameCell)) (frame : Frame) :
    Option Frame := do
  let row ← frame.rows[y]?
  let changed ← change row
  some { frame with rows := frame.rows.set y changed }

/-- Changes the rows from `y` on, one change a row, if the frame has them. -/
def modifyRows? : Nat → List (List FrameCell → Option (List FrameCell)) → Frame → Option Frame
  | _, [], frame => some frame
  | y, change :: rest, frame => do
    let next ← frame.modifyRow? y change
    modifyRows? (y + 1) rest next

/-- Blanks the cells of a rectangle row by row. -/
def clear? (frame : Frame) (target : Rect) : Option Frame :=
  let clipped := target.intersection frame.area
  let start := clipped.x.toNat
  let change := fun row => do
    let opened ← splitWide? start clipped.right.toNat row
    some (blankCells start clipped.width.toNat opened)
  frame.modifyRows? clipped.y.toNat (List.replicate clipped.height.toNat change)

/-- Writes lines into a rectangle row by row. -/
def render? (frame : Frame) (lines : List Line) (target : Rect) : Option Frame :=
  let clipped := target.intersection frame.area
  if clipped.isEmpty then
    some frame
  else
    let shown := lines.take clipped.height.toNat
    frame.modifyRows? clipped.y.toNat
      (shown.map fun line => blit? clipped.right.toNat clipped.x.toNat line.glyphs)

/-- An operation that paints: a rectangle is cleared, or lines are written into it. -/
inductive Operation where
  | clear (target : Rect)
  | render (lines : List Line) (target : Rect)

/-- Performs an operation. -/
def perform (frame : Frame) : Operation → Frame
  | .clear target => frame.clear target
  | .render lines target => frame.render lines target

/-- Performs an operation, if the frame has all that it reaches for. -/
def perform? (frame : Frame) : Operation → Option Frame
  | .clear target => frame.clear? target
  | .render lines target => frame.render? lines target

/-- Performs operations one after another. -/
def performAll (frame : Frame) (operations : List Operation) : Frame :=
  operations.foldl perform frame

/-- Performs operations one after another, as long as the frame has all that they reach for. -/
def performAll? (frame : Frame) (operations : List Operation) : Option Frame :=
  operations.foldlM perform? frame

/-! ## Rows -/

section Rows

variable {row : List FrameCell} {column right : Nat}

theorem setCell?_eq (inside : column < row.length) (cell : FrameCell) :
    setCell? column cell row = some (row.set column cell) :=
  if_pos inside

/-- Only halves that a row has are blanked. -/
theorem splitWide?_eq (start stop : Nat) (row : List FrameCell) :
    splitWide? start stop row = some (splitWide start stop row) := by
  have atStop (cells : List FrameCell) :
      (if cells[stop]? = some .continuation then setCell? stop .blank cells else some cells) =
        some (if cells[stop]? = some .continuation then cells.set stop .blank else cells) := by
    split
    · next half => exact setCell?_eq (List.getElem?_eq_some_iff.mp half).1 _
    · rfl
  unfold splitWide? splitWide
  split
  · next half =>
    have inside := (List.getElem?_eq_some_iff.mp half.2).1
    rw [setCell?_eq (by omega)]
    exact atStop _
  · exact atStop row

/-- A character with room in a row is written into cells that the row has. -/
theorem place?_eq {char : Char} (room : column + cellWidth char ≤ row.length)
    (shown : cellWidth char ≠ 0) (style : Option String) :
    place? column char style row = some (place column char style row) := by
  have length := Whole.length_splitWide column (column + cellWidth char) row
  unfold place? place
  rw [splitWide?_eq, Option.bind_eq_bind, Option.bind_some, setCell?_eq (by omega),
    Option.bind_some]
  dsimp only
  split
  · exact setCell?_eq (by rw [List.length_set]; omega) _
  · rfl

/-- Only cells that a row has are written. -/
theorem blit?_eq (inside : right ≤ row.length) (column : Nat)
    (glyphs : List (Char × Option String)) :
    blit? right column glyphs row = some (blit right column glyphs row) := by
  induction glyphs generalizing column row with
  | nil => rfl
  | cons glyph rest inductionHypothesis =>
    obtain ⟨char, style⟩ := glyph
    unfold blit?
    dsimp only
    by_cases hidden : cellWidth char = 0
    · rw [if_pos hidden, blit_of_hidden hidden]
      exact inductionHypothesis inside column
    · rw [if_neg hidden]
      by_cases crosses : right < column + cellWidth char
      · rw [if_pos crosses, blit_of_crossing hidden crosses]
      · rw [if_neg crosses, blit_of_room hidden crosses]
        rw [place?_eq (by omega) hidden, Option.bind_eq_bind, Option.bind_some]
        exact inductionHypothesis (by rwa [length_place]) _

end Rows

/-! ## Intact frames -/

/-- A frame has the rows and each row the cells that its size says, and each character has the cells
that it takes. -/
structure IsIntact (frame : Frame) : Prop where
  height : frame.rows.length = frame.height
  width : ∀ row ∈ frame.rows, row.length = frame.width
  whole : ∀ row ∈ frame.rows, Whole row

/-- What painting does to a frame: it reaches for nothing that the frame lacks, and it leaves the
frame intact and of its size. -/
structure Keeps (frame : Frame) (reached : Option Frame) (painted : Frame) : Prop where
  reached : reached = some painted
  intact : painted.IsIntact
  width : painted.width = frame.width
  height : painted.height = frame.height

/-- A change that reaches for no cell that a row of a width lacks, and leaves whole rows of that
width whole and of that width. -/
structure Suits (width : Nat) (change? : List FrameCell → Option (List FrameCell))
    (change : List FrameCell → List FrameCell) : Prop where
  reached : ∀ row, row.length = width → change? row = some (change row)
  length : ∀ row, row.length = width → (change row).length = width
  whole : ∀ row, row.length = width → Whole row → Whole (change row)

/-- A blank frame is intact. -/
theorem ofSize_isIntact (width height : Int) : (ofSize width height).IsIntact where
  height := List.length_replicate
  width := by
    intro row found
    rw [(List.mem_replicate.mp found).2]
    exact List.length_replicate
  whole := by
    intro row found
    rw [(List.mem_replicate.mp found).2]
    exact .blanks _

section Painting

variable {frame : Frame}

theorem Keeps.refl (intact : frame.IsIntact) : Keeps frame (some frame) frame :=
  ⟨rfl, intact, rfl, rfl⟩

theorem Keeps.trans {reached : Option Frame} {next painted : Frame} {more : Frame → Option Frame}
    (first : Keeps frame reached next) (second : Keeps next (more next) painted) :
    Keeps frame (reached.bind more) painted where
  reached := by rw [first.reached, Option.bind_some, second.reached]
  intact := second.intact
  width := second.width.trans first.width
  height := second.height.trans first.height

theorem modifyRows_nil (y : Nat) (frame : Frame) : frame.modifyRows y [] = frame := by
  simp only [modifyRows, List.length_nil, List.take_zero, List.zipWith_nil_left, List.append_nil,
    Nat.add_zero, List.take_append_drop]

/-- The first change is to the row at `y`, the others are to the rows below. -/
theorem modifyRows_cons {y : Nat} (inside : y < frame.rows.length)
    (change : List FrameCell → List FrameCell) (rest : List (List FrameCell → List FrameCell)) :
    frame.modifyRows y (change :: rest) =
      { frame with rows := frame.rows.set y (change frame.rows[y]) }.modifyRows (y + 1) rest := by
  have front : ((frame.rows.set y (change frame.rows[y])).take (y + 1)) =
      frame.rows.take y ++ [change frame.rows[y]] := by
    rw [List.take_succ_eq_append_getElem (by rwa [List.length_set]),
      List.take_set_of_le (Nat.le_refl y), List.getElem_set_self]
  have back (column : Nat) (below : y < column) :
      (frame.rows.set y (change frame.rows[y])).drop column = frame.rows.drop column :=
    List.drop_set_of_lt below
  unfold modifyRows
  dsimp only
  rw [front, back _ (Nat.lt_succ_self y), back _ (by omega), List.drop_eq_getElem_cons inside,
    List.length_cons, List.take_succ_cons, List.zipWith_cons_cons, List.append_cons,
    Nat.add_right_comm y 1]
  rfl

/-- A suitable change to one row. -/
theorem IsIntact.modifyRow {y : Nat} (intact : frame.IsIntact) (inside : y < frame.rows.length)
    {change? : List FrameCell → Option (List FrameCell)} {change : List FrameCell → List FrameCell}
    (suits : Suits frame.width change? change) :
    Keeps frame (frame.modifyRow? y change?)
      { frame with rows := frame.rows.set y (change frame.rows[y]) } := by
  have found := List.getElem_mem inside
  have length := intact.width _ found
  refine ⟨?_, ⟨?_, ?_, ?_⟩, rfl, rfl⟩
  · unfold modifyRow?
    rw [List.getElem?_eq_getElem inside, Option.bind_eq_bind, Option.bind_some,
      suits.reached _ length]
    rfl
  · exact List.length_set.trans intact.height
  · intro row changed
    obtain kept | rfl := List.mem_or_eq_of_mem_set changed
    · exact intact.width row kept
    · exact suits.length _ length
  · intro row changed
    obtain kept | rfl := List.mem_or_eq_of_mem_set changed
    · exact intact.whole row kept
    · exact suits.whole _ length (intact.whole _ found)

/-- Suitable changes to rows that the frame has. -/
theorem IsIntact.modifyRows {Item : Type}
    {change? : Item → List FrameCell → Option (List FrameCell)}
    {change : Item → List FrameCell → List FrameCell} (intact : frame.IsIntact)
    (suits : ∀ item, Suits frame.width (change? item) (change item)) (y : Nat) (items : List Item)
    (inside : items.length = 0 ∨ y + items.length ≤ frame.height) :
    Keeps frame (frame.modifyRows? y (items.map change?))
      (frame.modifyRows y (items.map change)) := by
  induction items generalizing y frame with
  | nil =>
    rw [List.map_nil, List.map_nil, modifyRows_nil]
    exact .refl intact
  | cons item rest inductionHypothesis =>
    rw [List.length_cons] at inside
    have row : y < frame.rows.length := by
      rw [intact.height]
      omega
    rw [List.map_cons, List.map_cons, modifyRows_cons row]
    have first := intact.modifyRow row (suits item)
    exact first.trans (inductionHypothesis first.intact suits (y + 1) (by dsimp only; omega))

/-! ## Operations -/

/-- The cells of a rectangle that a frame has, as numbers. -/
structure Bounds (frame : Frame) (clipped : Rect) : Prop where
  right : clipped.right.toNat = clipped.x.toNat + clipped.width.toNat
  columns : clipped.width.toNat = 0 ∨ clipped.right.toNat ≤ frame.width
  rows : clipped.height.toNat = 0 ∨ clipped.y.toNat + clipped.height.toNat ≤ frame.height

theorem intersection_bounds (frame : Frame) (target : Rect) :
    Bounds frame (target.intersection frame.area) := by
  constructor <;> simp only [Rect.intersection, Rect.right, Rect.bottom, area] <;> omega

/-- Blanking cells suits all rows. -/
theorem suits_clear {clipped : Rect} (bounds : Bounds frame clipped) :
    Suits frame.width
      (fun row => do
        let opened ← splitWide? clipped.x.toNat clipped.right.toNat row
        some (blankCells clipped.x.toNat clipped.width.toNat opened))
      fun row => blankCells clipped.x.toNat clipped.width.toNat
        (splitWide clipped.x.toNat clipped.right.toNat row) where
  reached row _ := by rw [splitWide?_eq, Option.bind_eq_bind, Option.bind_some]
  length row length := by
    have columns := bounds.columns
    rw [length_blankCells, Whole.length_splitWide, length]
    rw [Whole.length_splitWide, length, ← bounds.right]
    exact columns
  whole row _ whole := by
    rw [bounds.right]
    exact whole.blankCells _ _

theorem suits_blit {right : Nat} (inside : right ≤ frame.width) (column : Nat) (line : Line) :
    Suits frame.width (blit? right column line.glyphs) (blit right column line.glyphs) where
  reached row length := blit?_eq (by rwa [length]) column line.glyphs
  length row length := by rw [length_blit, length]
  whole row length whole := whole.blit (by rwa [length]) column line.glyphs

/-- Clearing a rectangle keeps a frame intact. -/
theorem IsIntact.clear (intact : frame.IsIntact) (target : Rect) :
    Keeps frame (frame.clear? target) (frame.clear target) := by
  have bounds := intersection_bounds frame target
  unfold clear? Frame.clear
  dsimp only
  generalize target.intersection frame.area = clipped at bounds ⊢
  have kept := intact.modifyRows (fun _ => suits_clear bounds) clipped.y.toNat
    (List.replicate clipped.height.toNat ()) (by rw [List.length_replicate]; exact bounds.rows)
  rwa [List.map_replicate, List.map_replicate] at kept

/-- Rendering into a rectangle keeps a frame intact. -/
theorem IsIntact.render (intact : frame.IsIntact) (lines : List Line) (target : Rect) :
    Keeps frame (frame.render? lines target) (frame.render lines target) := by
  have bounds := intersection_bounds frame target
  unfold render? Frame.render
  dsimp only
  generalize target.intersection frame.area = clipped at bounds ⊢
  split
  · exact .refl intact
  · next shown =>
    have inside : clipped.right.toNat ≤ frame.width := by
      have columns := bounds.columns
      simp only [Rect.isEmpty, Bool.or_eq_true, decide_eq_true_eq] at shown
      omega
    refine intact.modifyRows (fun line => suits_blit inside _ line) _ _ ?_
    have rows := bounds.rows
    rw [List.length_take]
    omega

theorem IsIntact.perform (intact : frame.IsIntact) (operation : Operation) :
    Keeps frame (frame.perform? operation) (frame.perform operation) := by
  cases operation with
  | clear target => exact intact.clear target
  | render lines target => exact intact.render lines target

/-- Operations keep a frame intact. -/
theorem IsIntact.performAll (intact : frame.IsIntact) (operations : List Operation) :
    Keeps frame (frame.performAll? operations) (frame.performAll operations) := by
  induction operations generalizing frame with
  | nil => exact .refl intact
  | cons operation rest inductionHypothesis =>
    have first := intact.perform operation
    exact first.trans (inductionHypothesis first.intact)

end Painting

/-- The text of a row that is asked for is that of a row of the frame. -/
theorem exists_of_rowText? {frame : Frame} {y : Int} {text : String}
    (shown : frame.rowText? y = some text) : ∃ row ∈ frame.rows, cellsText row = text := by
  unfold rowText? at shown
  dsimp only at shown
  generalize (if y < 0 then y + (frame.rows.length : Int) else y) = index at shown
  split at shown
  · cases shown
  · obtain ⟨row, found, same⟩ := Option.map_eq_some_iff.mp shown
    exact ⟨row, List.mem_of_getElem? found, same⟩

/-- However a frame is painted, no cell or row is reached for that is not there, and each row is as
long as the frame is wide, pairs the halves of its wide characters, and reads as a text of that
width. -/
theorem performAll_intact (width height : Int) (operations : List Operation) :
    let painted := (ofSize width height).performAll operations
    (ofSize width height).performAll? operations = some painted ∧
      painted.width = width.toNat ∧ painted.height = height.toNat ∧
      painted.rows.length = height.toNat ∧
      (∀ row ∈ painted.rows, row.length = width.toNat ∧ IsPaired row) ∧
      (∀ y : Int, 0 ≤ y → y < height → ∃ text, painted.rowText? y = some text) ∧
      ∀ y text, painted.rowText? y = some text → textWidth text = width.toNat := by
  intro painted
  have kept := (ofSize_isIntact width height).performAll operations
  have wide : painted.width = width.toNat := kept.width
  have rows : painted.rows.length = height.toNat := kept.intact.height.trans kept.height
  refine ⟨kept.reached, wide, kept.height, rows, ?_, ?_, ?_⟩
  · intro row found
    exact ⟨(kept.intact.width row found).trans wide, (kept.intact.whole row found).isPaired⟩
  · intro y notNegative below
    have inside : y.toNat < painted.rows.length := by omega
    refine ⟨cellsText painted.rows[y.toNat], ?_⟩
    unfold rowText?
    dsimp only
    rw [if_neg (by omega), if_neg (by omega), List.getElem?_eq_getElem inside]
    rfl
  · intro y text shown
    obtain ⟨row, found, rfl⟩ := exists_of_rowText? shown
    rw [(kept.intact.whole row found).textWidth_cellsText]
    exact (kept.intact.width row found).trans wide

-- A cleared column cuts one wide character, and a written one cuts the other.
example : ((ofSize 4 1).performAll
    [.render [[⟨"中文", none⟩]] ⟨0, 0, 4, 1⟩, .clear ⟨1, 0, 1, 1⟩,
      .render [[⟨"a", none⟩]] ⟨2, 0, 1, 1⟩]).rowText? 0 = some "  a " := by
  decide +kernel

end NodeConsole.Paint.Frame
