import NodeConsole.Paint.Frame

/-!
# Rows of cells

A row is whole when each of its characters has the cells that it takes. Whole rows stay whole side
by side, and a whole row can be cut at any column once the character that the cut goes through is
blanked: `Whole.splitWide_take`, `Whole.splitWide_drop`. All that is ever done to a row is to put
whole cells between two such cuts (`Whole.patch`), so rows stay whole: `Whole.blit`,
`Whole.blankCells`.
-/

namespace NodeConsole.Paint

open NodeConsole.Text NodeConsole.Paint.Frame

/-- A row in which every character takes one cell, or two of which the second marks its right
half. -/
inductive Whole : List FrameCell → Prop
  | nil : Whole []
  | narrow {char : Char} {style : Option String} {rest : List FrameCell}
      (one : cellWidth char = 1) (whole : Whole rest) : Whole (.glyph char style :: rest)
  | wide {char : Char} {style : Option String} {rest : List FrameCell}
      (two : cellWidth char = 2) (whole : Whole rest) :
      Whole (.glyph char style :: .continuation :: rest)

/-- The cells of a character. -/
def glyphCells (char : Char) (style : Option String) : List FrameCell :=
  if cellWidth char = 2 then [.glyph char style, .continuation] else [.glyph char style]

namespace Whole

variable {row left right : List FrameCell} {start stop : Nat}

theorem blanks (count : Nat) : Whole (List.replicate count .blank) := by
  induction count with
  | zero => exact .nil
  | succ count inductionHypothesis => exact .narrow (by decide) inductionHypothesis

/-- The cells of a character that takes any are whole. -/
theorem glyphCells {char : Char} (shown : cellWidth char ≠ 0) (style : Option String) :
    Whole (glyphCells char style) := by
  unfold Paint.glyphCells
  split
  · next two => exact .wide two .nil
  · next notTwo =>
    have most := cellWidth_le_two char
    exact .narrow (by omega) .nil

theorem append (leftWhole : Whole left) (rightWhole : Whole right) : Whole (left ++ right) := by
  induction leftWhole with
  | nil => exact rightWhole
  | narrow one _ inductionHypothesis => exact .narrow one inductionHypothesis
  | wide two _ inductionHypothesis => exact .wide two inductionHypothesis

/-- A cut through a whole row leaves two whole rows, unless it goes through a character: then the
rows on either side of that character are whole. -/
theorem cut (whole : Whole row) (column : Nat) :
    (row[column]? ≠ some .continuation ∧ Whole (row.take column) ∧ Whole (row.drop column)) ∨
      (row[column]? = some .continuation ∧ ∃ before, column = before + 1 ∧
        Whole (row.take before) ∧ Whole (row.drop (column + 1))) := by
  induction whole generalizing column with
  | nil => exact .inl (by simp [Whole.nil])
  | narrow one rest inductionHypothesis =>
    cases column with
    | zero => exact .inl ⟨by simp, .nil, .narrow one rest⟩
    | succ column =>
      obtain ⟨clear, before, after⟩ | ⟨through, before, rfl, front, back⟩ :=
        inductionHypothesis column
      · exact .inl ⟨clear, .narrow one before, after⟩
      · exact .inr ⟨through, before + 1, rfl, .narrow one front, back⟩
  | wide two rest inductionHypothesis =>
    match column with
    | 0 => exact .inl ⟨by simp, .nil, .wide two rest⟩
    | 1 => exact .inr ⟨rfl, 0, rfl, .nil, rest⟩
    | column + 2 =>
      obtain ⟨clear, before, after⟩ | ⟨through, before, rfl, front, back⟩ :=
        inductionHypothesis column
      · exact .inl ⟨clear, .wide two before, after⟩
      · exact .inr ⟨through, before + 2, rfl, .wide two front, back⟩

/-! ## Cuts that blank a character -/

/-- The cells before the first cut. -/
theorem splitWide_take (whole : Whole row) (ordered : start ≤ stop) :
    Whole ((splitWide start stop row).take start) := by
  have untouched (cells : List FrameCell) :
      (if cells[stop]? = some .continuation then cells.set stop .blank else cells).take start =
        cells.take start := by
    split
    · exact List.take_set_of_le ordered
    · rfl
  unfold splitWide
  rw [untouched]
  obtain ⟨clear, before, -⟩ | ⟨through, before, rfl, front, -⟩ := whole.cut start
  · rw [if_neg fun both => clear both.2]
    exact before
  · have inside : before < (row.set before .blank).length := by
      have bound := (List.getElem?_eq_some_iff.mp through).1
      rw [List.length_set]
      omega
    rw [if_pos ⟨Nat.succ_pos before, through⟩, Nat.add_sub_cancel,
      List.take_succ_eq_append_getElem inside, List.take_set_of_le (Nat.le_refl before),
      List.getElem_set_self]
    exact front.append (blanks 1)

/-- The cells from the second cut on. -/
theorem splitWide_drop (whole : Whole row) (ordered : start ≤ stop) :
    Whole ((splitWide start stop row).drop stop) := by
  have untouched (cells : List FrameCell)
      (same : ∀ column, stop ≤ column → cells[column]? = row[column]?) :
      Whole ((if cells[stop]? = some .continuation then cells.set stop .blank else cells).drop
        stop) := by
    have sameDrop (column : Nat) (beyond : stop ≤ column) :
        cells.drop column = row.drop column := by
      refine List.ext_getElem? fun offset => ?_
      rw [List.getElem?_drop, List.getElem?_drop]
      exact same _ (by omega)
    rw [same stop (Nat.le_refl stop)]
    obtain ⟨clear, -, after⟩ | ⟨through, before, rfl, -, back⟩ := whole.cut stop
    · rw [if_neg clear, sameDrop stop (Nat.le_refl stop)]
      exact after
    · have inside : before + 1 < (cells.set (before + 1) .blank).length := by
        rw [← same _ (Nat.le_refl _)] at through
        rw [List.length_set]
        exact (List.getElem?_eq_some_iff.mp through).1
      rw [if_pos through, List.drop_eq_getElem_cons inside, List.getElem_set_self,
        List.drop_set_of_lt (Nat.lt_succ_self _), sameDrop _ (Nat.le_succ _)]
      exact (blanks 1).append back
  unfold splitWide
  refine untouched _ fun column beyond => ?_
  split
  · next cutsLeft => exact List.getElem?_set_ne (by omega)
  · rfl

theorem length_splitWide (start stop : Nat) (row : List FrameCell) :
    (splitWide start stop row).length = row.length := by
  unfold splitWide
  dsimp only
  split <;> split <;> simp only [List.length_set]

/-- Whole cells between two cuts through a whole row give a whole row. -/
theorem patch (whole : Whole row) (ordered : start ≤ stop) {cells : List FrameCell}
    (cellsWhole : Whole cells) :
    Whole ((splitWide start stop row).take start ++ cells ++
      (splitWide start stop row).drop stop) :=
  ((whole.splitWide_take ordered).append cellsWhole).append (whole.splitWide_drop ordered)

/-! ## Painting -/

/-- Cells that are blanked leave a row whole. -/
theorem blankCells (whole : Whole row) (start count : Nat) :
    Whole (blankCells start count (splitWide start (start + count) row)) :=
  whole.patch (Nat.le_add_right start count) (blanks count)

end Whole

/-- A row after a character has been written that has room in it. -/
def place (column : Nat) (char : Char) (style : Option String) (row : List FrameCell) :
    List FrameCell :=
  let opened := (splitWide column (column + cellWidth char) row).set column (.glyph char style)
  if cellWidth char = 2 then opened.set (column + 1) .continuation else opened

section Place

variable {column right : Nat} {char : Char} {style : Option String} {row : List FrameCell}
  {rest : List (Char × Option String)}

theorem blit_of_hidden (hidden : cellWidth char = 0) :
    blit right column ((char, style) :: rest) row = blit right column rest row := by
  rw [blit]
  exact if_pos hidden

theorem blit_of_crossing (shown : cellWidth char ≠ 0) (crosses : right < column + cellWidth char) :
    blit right column ((char, style) :: rest) row = row := by
  rw [blit]
  exact (if_neg shown).trans (if_pos crosses)

theorem blit_of_room (shown : cellWidth char ≠ 0) (room : ¬right < column + cellWidth char) :
    blit right column ((char, style) :: rest) row =
      blit right (column + cellWidth char) rest (place column char style row) := by
  rw [blit]
  exact (if_neg shown).trans (if_neg room)

theorem length_place (column : Nat) (char : Char) (style : Option String) (row : List FrameCell) :
    (place column char style row).length = row.length := by
  unfold place
  dsimp only
  split <;> simp only [List.length_set, Whole.length_splitWide]

/-- Placing a character puts its cells between two cuts. -/
theorem place_eq (shown : cellWidth char ≠ 0) (room : column + cellWidth char ≤ row.length) :
    place column char style row =
      (splitWide column (column + cellWidth char) row).take column ++ glyphCells char style ++
        (splitWide column (column + cellWidth char) row).drop (column + cellWidth char) := by
  have bound := Whole.length_splitWide column (column + cellWidth char) row
  have most := cellWidth_le_two char
  unfold place glyphCells
  dsimp only
  generalize splitWide column (column + cellWidth char) row = cells at bound ⊢
  have opened : cells.set column (.glyph char style) =
      cells.take column ++ .glyph char style :: cells.drop (column + 1) := by
    rw [List.set_eq_take_append_cons_drop, if_pos (by omega)]
  rw [opened]
  split
  · next two =>
    rw [two] at room ⊢
    have second : column + 1 < cells.length := by omega
    have front : (cells.take column).length = column := List.length_take_of_le (by omega)
    rw [List.set_append_right _ _ (by omega), front, Nat.add_sub_cancel_left,
      List.drop_eq_getElem_cons second, List.append_assoc]
    rfl
  · next notTwo =>
    have one : cellWidth char = 1 := by omega
    rw [one, List.append_assoc]
    rfl

theorem Whole.place (whole : Whole row) (shown : cellWidth char ≠ 0)
    (room : column + cellWidth char ≤ row.length) (style : Option String) :
    Whole (place column char style row) := by
  rw [place_eq shown room]
  exact whole.patch (Nat.le_add_right _ _) (Whole.glyphCells shown style)

/-- Writing leaves the length of a row. -/
theorem length_blit (right column : Nat) (glyphs : List (Char × Option String))
    (row : List FrameCell) : (blit right column glyphs row).length = row.length := by
  induction glyphs generalizing column row with
  | nil => rfl
  | cons glyph rest inductionHypothesis =>
    obtain ⟨char, style⟩ := glyph
    by_cases hidden : cellWidth char = 0
    · rw [blit_of_hidden hidden]
      exact inductionHypothesis column row
    · by_cases crosses : right < column + cellWidth char
      · rw [blit_of_crossing hidden crosses]
      · rw [blit_of_room hidden crosses, inductionHypothesis, length_place]

/-- Writing up to a column of a row leaves the row whole. -/
theorem Whole.blit (whole : Whole row) (inside : right ≤ row.length) (column : Nat)
    (glyphs : List (Char × Option String)) : Whole (blit right column glyphs row) := by
  induction glyphs generalizing column row with
  | nil => exact whole
  | cons glyph rest inductionHypothesis =>
    obtain ⟨char, style⟩ := glyph
    by_cases hidden : cellWidth char = 0
    · rw [blit_of_hidden hidden]
      exact inductionHypothesis whole inside column
    · by_cases crosses : right < column + cellWidth char
      · rw [blit_of_crossing hidden crosses]
        exact whole
      · rw [blit_of_room hidden crosses]
        have room : column + cellWidth char ≤ row.length := by omega
        refine inductionHypothesis (whole.place hidden room style) ?_ _
        rwa [length_place]

end Place

theorem length_blankCells {start count : Nat} {row : List FrameCell}
    (inside : count = 0 ∨ start + count ≤ row.length) :
    (blankCells start count row).length = row.length := by
  simp only [blankCells, List.length_append, List.length_take, List.length_replicate,
    List.length_drop]
  omega

/-! ## What a whole row shows -/

/-- The cells that a text takes. -/
def textWidth (text : String) : Nat :=
  text.toList.foldr (fun char following => cellWidth char + following) 0

/-- The cells of a row go together: a right half comes directly after a character that takes two
cells, and directly after each such character comes its right half. -/
structure IsPaired (row : List FrameCell) : Prop where
  led : ∀ column, row[column]? = some .continuation → ∃ before char style,
    column = before + 1 ∧ row[before]? = some (.glyph char style) ∧ cellWidth char = 2
  followed : ∀ column char style, row[column]? = some (.glyph char style) → cellWidth char = 2 →
    row[column + 1]? = some .continuation

namespace Whole

variable {row : List FrameCell}

/-- The cells of a whole row go together. -/
theorem isPaired (whole : Whole row) : IsPaired row := by
  induction whole with
  | nil => exact ⟨nofun, nofun⟩
  | @narrow char style rest one whole inductionHypothesis =>
    constructor
    · intro column half
      cases column with
      | zero => cases half
      | succ column =>
        obtain ⟨before, wide, style, rfl, found, two⟩ := inductionHypothesis.led column half
        exact ⟨before + 1, wide, style, rfl, found, two⟩
    · intro column wide style found two
      cases column with
      | zero =>
        cases found
        omega
      | succ column => exact inductionHypothesis.followed column wide style found two
  | @wide char style rest two whole inductionHypothesis =>
    constructor
    · intro column half
      match column with
      | 0 => cases half
      | 1 => exact ⟨0, char, style, rfl, rfl, two⟩
      | column + 2 =>
        obtain ⟨before, wide, style, rfl, found, two⟩ := inductionHypothesis.led column half
        exact ⟨before + 2, wide, style, rfl, found, two⟩
    · intro column wide style found two
      match column with
      | 0 => rfl
      | 1 => cases found
      | column + 2 => exact inductionHypothesis.followed column wide style found two

/-- The text of a whole row is as wide as the row. -/
theorem textWidth_cellsText (whole : Whole row) : textWidth (cellsText row) = row.length := by
  unfold textWidth cellsText
  rw [String.toList_ofList]
  induction whole with
  | nil => rfl
  | narrow one whole inductionHypothesis =>
    simp only [List.filterMap_cons, List.foldr_cons, List.length_cons, one, inductionHypothesis]
    omega
  | wide two whole inductionHypothesis =>
    simp only [List.filterMap_cons, List.foldr_cons, List.length_cons, two, inductionHypothesis]
    omega

end Whole

end NodeConsole.Paint
