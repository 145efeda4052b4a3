import NodeConsole.Proofs.Paint.Rows

/-!
# Cells of a row

What painting does to each cell of a row. Beside the cells that are painted it changes at most two:
a wide character that is painted over by half loses its other half, which becomes blank
(`IsCutOff`). Blanked cells cut off both halves in any case (`getElem?_cleared`). Written characters
may end before the right end and leave the half there (`getElem?_blit`), but not if they take all
the cells (`getElem?_blit_of_isCutOff`).
-/

namespace NodeConsole.Paint

open NodeConsole.Text NodeConsole.Paint.Frame

section Row

variable {row : List FrameCell} {start stop right column : Nat}

/-- The cells from `start` to before `stop` cut a wide character, and this column has the half that
they leave. -/
def IsCutOff (row : List FrameCell) (start stop column : Nat) : Prop :=
  column + 1 = start ∧ row[start]? = some .continuation ∨
    column = stop ∧ row[stop]? = some .continuation

instance (row : List FrameCell) (start stop column : Nat) :
    Decidable (IsCutOff row start stop column) :=
  inferInstanceAs (Decidable (_ ∨ _))

theorem IsCutOff.beside (cut : IsCutOff row start stop column) :
    column < start ∨ stop ≤ column := by
  obtain ⟨next, -⟩ | ⟨same, -⟩ := cut <;> omega

theorem IsCutOff.widen (cut : IsCutOff row start stop column) (ordered : start ≤ stop)
    (more : stop ≤ right) (beside : column < start ∨ right ≤ column) :
    IsCutOff row start right column := by
  obtain before | ⟨rfl, half⟩ := cut
  · exact .inl before
  · obtain rfl : column = right := by omega
    exact .inr ⟨rfl, half⟩

/-- A cell that is set under a condition. -/
theorem getElem?_set_if (condition : Prop) [Decidable condition] {row : List FrameCell}
    {place : Nat} (inside : condition → place < row.length) (cell : FrameCell) (column : Nat) :
    (if condition then row.set place cell else row)[column]? =
      if condition ∧ column = place then some cell else row[column]? := by
  by_cases met : condition
  · by_cases same : column = place
    · rw [if_pos met, if_pos ⟨met, same⟩, same, List.getElem?_set_self (inside met)]
    · rw [if_pos met, if_neg fun both => same both.2, List.getElem?_set_ne (Ne.symm same)]
  · rw [if_neg met, if_neg fun both => met both.1]

/-- Cutting a row blanks the halves that are cut off. -/
theorem getElem?_splitWide (ordered : start ≤ stop) (row : List FrameCell) (column : Nat) :
    (splitWide start stop row)[column]? =
      if IsCutOff row start stop column then some .blank else row[column]? := by
  have inside {cells : List FrameCell} {place : Nat} (half : cells[place]? = some .continuation) :
      place < cells.length := (List.getElem?_eq_some_iff.mp half).1
  have bound (cuts : 0 < start ∧ row[start]? = some .continuation) : start - 1 < row.length := by
    have := inside cuts.2
    omega
  have first (column : Nat) := getElem?_set_if (0 < start ∧ row[start]? = some .continuation) bound
    .blank column
  unfold splitWide
  dsimp only
  generalize (if 0 < start ∧ row[start]? = some .continuation then row.set (start - 1) .blank
    else row) = opened at first ⊢
  have atStop : opened[stop]? = row[stop]? := by
    rw [first, if_neg]
    rintro ⟨⟨positive, -⟩, same⟩
    omega
  rw [getElem?_set_if (opened[stop]? = some .continuation) inside, atStop, first]
  by_cases behind : row[stop]? = some .continuation ∧ column = stop
  · rw [if_pos behind, if_pos (.inr ⟨behind.2, behind.1⟩)]
  · rw [if_neg behind]
    by_cases before : (0 < start ∧ row[start]? = some .continuation) ∧ column = start - 1
    · rw [if_pos before, if_pos (.inl ⟨by omega, before.1.2⟩)]
    · rw [if_neg before, if_neg]
      rintro (⟨next, half⟩ | ⟨same, half⟩)
      · exact before ⟨⟨by omega, half⟩, by omega⟩
      · exact behind ⟨half, same⟩

/-- Blanking cells that a row has blanks these, and no others. -/
theorem getElem?_blankCells {count : Nat} (inside : start + count ≤ row.length) (column : Nat) :
    (blankCells start count row)[column]? =
      if start ≤ column ∧ column < start + count then some .blank else row[column]? := by
  have front : (row.take start).length = start := List.length_take_of_le (by omega)
  have middle : (row.take start ++ List.replicate count FrameCell.blank).length =
      start + count := by
    rw [List.length_append, front, List.length_replicate]
  unfold blankCells
  obtain before | ⟨from', before⟩ | behind : column < start ∨
      (start ≤ column ∧ column < start + count) ∨ start + count ≤ column := by
    omega
  · rw [if_neg (by omega), List.append_assoc, List.getElem?_append_left (by omega),
      List.getElem?_take_of_lt before]
  · rw [if_pos ⟨from', before⟩, List.getElem?_append_left (by omega),
      List.getElem?_append_right (by omega), List.getElem?_replicate, if_pos (by omega)]
  · rw [if_neg (by omega), List.getElem?_append_right (by omega), middle, List.getElem?_drop]
    congr 1
    omega

/-- A row after its cells from `start` to before `stop` have been blanked. -/
theorem getElem?_cleared (ordered : start ≤ stop) (inside : start = stop ∨ stop ≤ row.length)
    (column : Nat) :
    (blankCells start (stop - start) (splitWide start stop row))[column]? =
      if start ≤ column ∧ column < stop then some .blank
      else if IsCutOff row start stop column then some .blank else row[column]? := by
  obtain rfl | inside := inside
  · rw [Nat.sub_self, if_neg (by omega), ← getElem?_splitWide ordered]
    unfold blankCells
    rw [List.replicate_zero, List.append_nil, Nat.add_zero, List.take_append_drop]
  · have length := Whole.length_splitWide start stop row
    rw [getElem?_blankCells (by omega), Nat.add_sub_cancel' ordered, getElem?_splitWide ordered]

/-- A row after a character has been placed, beside that character. -/
theorem getElem?_place {char : Char} (shown : cellWidth char ≠ 0) (style : Option String)
    (row : List FrameCell) (column other : Nat)
    (beside : other < column ∨ column + cellWidth char ≤ other) :
    (place column char style row)[other]? =
      if IsCutOff row column (column + cellWidth char) other then some .blank
      else row[other]? := by
  rw [← getElem?_splitWide (Nat.le_add_right column (cellWidth char))]
  unfold place
  dsimp only
  split
  · rw [List.getElem?_set_ne (by omega), List.getElem?_set_ne (by omega)]
  · rw [List.getElem?_set_ne (by omega)]

/-- Writing leaves the cells beside those that are written to, except for halves that it cuts
off. -/
theorem getElem?_blit (glyphs : List (Char × Option String)) (row : List FrameCell)
    (beside : column < start ∨ right ≤ column) :
    (blit right start glyphs row)[column]? = row[column]? ∨
      IsCutOff row start right column ∧ (blit right start glyphs row)[column]? = some .blank := by
  induction glyphs generalizing start row with
  | nil => exact .inl rfl
  | cons glyph rest inductionHypothesis =>
    obtain ⟨char, style⟩ := glyph
    by_cases hidden : cellWidth char = 0
    · rw [blit_of_hidden hidden]
      exact inductionHypothesis row beside
    · by_cases crosses : right < start + cellWidth char
      · rw [blit_of_crossing hidden crosses]
        exact .inl rfl
      · rw [blit_of_room hidden crosses]
        have placed := getElem?_place hidden style row start column (by omega)
        have later : column < start + cellWidth char ∨ right ≤ column := by omega
        obtain same | ⟨cut, blank⟩ := inductionHypothesis (place start char style row) later
        · rw [same, placed]
          split
          · next cut => exact .inr ⟨cut.widen (by omega) (by omega) beside, rfl⟩
          · exact .inl rfl
        · refine .inr ⟨?_, blank⟩
          obtain ⟨next, -⟩ | ⟨rfl, half⟩ := cut
          · omega
          · rw [placed] at half
            split at half
            · cases half
            · exact .inr ⟨rfl, half⟩

/-- The cells that characters take. -/
def glyphsWidth (glyphs : List (Char × Option String)) : Nat :=
  glyphs.foldr (fun glyph following => cellWidth glyph.1 + following) 0

/-- Nothing is written where there is no room. -/
theorem blit_full (glyphs : List (Char × Option String)) (row : List FrameCell) :
    blit right right glyphs row = row := by
  induction glyphs with
  | nil => rfl
  | cons glyph rest inductionHypothesis =>
    obtain ⟨char, style⟩ := glyph
    by_cases hidden : cellWidth char = 0
    · rw [blit_of_hidden hidden, inductionHypothesis]
    · exact blit_of_crossing hidden (by omega)

/-- Characters that take all the cells that are written to leave no half that they cut off. -/
theorem getElem?_blit_of_isCutOff {glyphs : List (Char × Option String)} {row : List FrameCell}
    (room : start < right) (wide : start + glyphsWidth glyphs = right)
    (cut : IsCutOff row start right column) :
    (blit right start glyphs row)[column]? = some .blank := by
  induction glyphs generalizing start row with
  | nil => exact absurd wide (Nat.ne_of_lt room)
  | cons glyph rest inductionHypothesis =>
    obtain ⟨char, style⟩ := glyph
    have total : start + (cellWidth char + glyphsWidth rest) = right := wide
    by_cases hidden : cellWidth char = 0
    · rw [blit_of_hidden hidden]
      exact inductionHypothesis room (by omega) cut
    · rw [blit_of_room hidden (by omega)]
      have beside := cut.beside
      have placed := getElem?_place hidden style row start column (by omega)
      by_cases last : start + cellWidth char = right
      · rw [last, blit_full, placed, last]
        exact if_pos cut
      · obtain ⟨next, half⟩ | ⟨rfl, half⟩ := cut
        · -- The first character cuts this half off, and the others leave the blank.
          rw [if_pos (.inl ⟨next, half⟩)] at placed
          have later : column < start + cellWidth char ∨ right ≤ column := by omega
          obtain same | ⟨-, blank⟩ := getElem?_blit rest (place start char style row) later
          · exact same.trans placed
          · exact blank
        · refine inductionHypothesis (by omega) (by omega) (.inr ⟨rfl, ?_⟩)
          rw [placed, if_neg, half]
          rintro (⟨_, _⟩ | ⟨_, _⟩) <;> omega

/-- Characters that are fitted to a width take it. -/
theorem glyphsWidth_fitGlyphs (width : Nat) (glyphs : List (Char × Option String)) :
    glyphsWidth (Line.fitGlyphs width glyphs) = width := by
  have blanks (width : Nat) (style : Option String) :
      glyphsWidth (List.replicate width (' ', style)) = width := by
    have one : cellWidth ' ' = 1 := by decide
    induction width with
    | zero => rfl
    | succ width inductionHypothesis =>
      have total : glyphsWidth (List.replicate (width + 1) (' ', style)) =
          cellWidth ' ' + glyphsWidth (List.replicate width (' ', style)) := rfl
      omega
  induction glyphs generalizing width with
  | nil => exact blanks width none
  | cons glyph rest inductionHypothesis =>
    obtain ⟨char, style⟩ := glyph
    rw [Line.fitGlyphs]
    split
    · next room =>
      have others : glyphsWidth (Line.fitGlyphs (width - cellWidth char) rest) =
          width - cellWidth char := inductionHypothesis (width - cellWidth char)
      have total : glyphsWidth ((char, style) :: Line.fitGlyphs (width - cellWidth char) rest) =
          cellWidth char + glyphsWidth (Line.fitGlyphs (width - cellWidth char) rest) := rfl
      omega
    · exact blanks width style

/-- A line that is fitted to a width has the characters that fit. -/
theorem glyphs_fit (width : Nat) (line : Line) :
    (Line.fit width line).glyphs = Line.fitGlyphs width line.glyphs := by
  unfold Line.fit
  generalize Line.fitGlyphs width line.glyphs = glyphs
  induction glyphs with
  | nil => rfl
  | cons glyph rest inductionHypothesis =>
    simp only [Line.glyphs, List.map_cons, List.flatMap_cons] at *
    rw [inductionHypothesis]
    simp

end Row

end NodeConsole.Paint
