import Mathlib.Data.List.Basic
import Mathlib.Data.List.Chain
import NodeConsole.Proofs.Paint.Integrity

/-!
# The frame as it is printed

A frame is printed as one line for each row. The segments of a line, read character by character,
are the characters of the row in their own styles, and each segment goes on for as long as its style
does: `segments_print`.

A run of characters that has not been written yet stands for cells that have been read already. So
what holds of `segmentsFrom` is said of that run and of the cells that follow it together.
-/

namespace NodeConsole.Paint

/-- The character of a cell with its style; right halves of wide characters have none. -/
def FrameCell.glyph? : FrameCell → Option (Char × Option String)
  | glyph char style => some (char, style)
  | continuation => none

namespace Line

/-- The text of a line. -/
def text (line : Line) : String :=
  String.join (line.map (·.text))

/-- A line prints a row: it has the characters of the row, each in the style of its cell, and is cut
only where the style changes. -/
structure Prints (line : Line) (row : List FrameCell) : Prop where
  glyphs : line.glyphs = row.filterMap FrameCell.glyph?
  text : line.text = Frame.cellsText row
  filled : ∀ segment ∈ line, segment.text ≠ ""
  cuts : line.IsChain fun segment next => segment.style ≠ next.style

/-- The text of a line has its characters. -/
theorem toList_text (line : Line) : line.text.toList = line.glyphs.map (·.1) := by
  induction line with
  | nil => rfl
  | cons segment rest inductionHypothesis =>
    have own : (segment.text.toList.map fun char => (char, segment.style)).map (·.1) =
        segment.text.toList := by
      rw [List.map_map]
      exact List.map_id _
    unfold text glyphs at *
    rw [List.map_cons, String.join_cons, String.toList_append, inductionHypothesis,
      List.flatMap_cons, List.map_append, own]

end Line

namespace Frame

open NodeConsole.Text

variable {run : List Char} {runStyle : Option String} {row : List FrameCell}

theorem toList_cellsText (row : List FrameCell) :
    (cellsText row).toList = (row.filterMap FrameCell.glyph?).map (·.1) := by
  rw [cellsText, String.toList_ofList, List.map_filterMap]
  congr 1
  funext cell
  cases cell <;> rfl

/-! ## Runs -/

theorem glyphs_runSegments (run : List Char) (runStyle : Option String) :
    Line.glyphs (runSegments run runStyle) = run.map (·, runStyle) := by
  unfold runSegments
  split
  · next none => rw [none]; rfl
  · simp [Line.glyphs]

/-- The characters of the run come first, and then those of the cells. -/
theorem glyphs_segmentsFrom (run : List Char) (runStyle : Option String) (row : List FrameCell) :
    Line.glyphs (segmentsFrom run runStyle row) =
      run.map (·, runStyle) ++ row.filterMap FrameCell.glyph? := by
  induction row generalizing run runStyle with
  | nil => rw [segmentsFrom, glyphs_runSegments, List.filterMap_nil, List.append_nil]
  | cons cell rest inductionHypothesis =>
    cases cell with
    | continuation =>
      rw [segmentsFrom, inductionHypothesis]
      rfl
    | glyph char style =>
      have shown : (FrameCell.glyph char style :: rest).filterMap FrameCell.glyph? =
          (char, style) :: rest.filterMap FrameCell.glyph? := rfl
      rw [segmentsFrom, shown]
      split
      · next goesOn =>
        rw [inductionHypothesis, goesOn, List.map_append, List.append_assoc]
        rfl
      · rw [Line.glyphs, List.flatMap_append, ← Line.glyphs, ← Line.glyphs, glyphs_runSegments,
          inductionHypothesis]
        rfl

/-- No segment is empty. -/
theorem text_ne_of_mem_segmentsFrom {segment : Segment}
    (member : segment ∈ segmentsFrom run runStyle row) : segment.text ≠ "" := by
  have inRun {run : List Char} {runStyle : Option String}
      (member : segment ∈ runSegments run runStyle) : segment.text ≠ "" := by
    unfold runSegments at member
    split at member
    · cases member
    · next some =>
      obtain rfl := List.mem_singleton.mp member
      simpa using some
  fun_induction segmentsFrom run runStyle row with
  | case1 => exact inRun member
  | case2 _ _ _ inductionHypothesis => exact inductionHypothesis member
  | case3 _ _ _ _ inductionHypothesis => exact inductionHypothesis member
  | case4 _ _ _ _ _ _ inductionHypothesis =>
    obtain first | later := List.mem_append.mp member
    · exact inRun first
    · exact inductionHypothesis later

/-- The first segment is that of the run, if the run has characters. -/
theorem style_head?_segmentsFrom (some : run ≠ []) :
    (segmentsFrom run runStyle row).head?.map (·.style) = .some runStyle := by
  fun_induction segmentsFrom run runStyle row with
  | case1 => rw [runSegments, if_neg some]; rfl
  | case2 _ _ _ inductionHypothesis => exact inductionHypothesis some
  | case3 _ _ _ _ inductionHypothesis => exact inductionHypothesis (by simp)
  | case4 => rw [runSegments, if_neg some]; rfl

/-- Segments that follow one another differ in their styles. -/
theorem isChain_segmentsFrom (run : List Char) (runStyle : Option String) (row : List FrameCell) :
    (segmentsFrom run runStyle row).IsChain fun segment next => segment.style ≠ next.style := by
  have ofRun (run : List Char) (runStyle : Option String) :
      (runSegments run runStyle).IsChain fun segment next => segment.style ≠ next.style := by
    unfold runSegments
    split
    · exact .nil
    · exact .singleton _
  fun_induction segmentsFrom run runStyle row with
  | case1 run runStyle => exact ofRun run runStyle
  | case2 _ _ _ inductionHypothesis => exact inductionHypothesis
  | case3 _ _ _ _ inductionHypothesis => exact inductionHypothesis
  | case4 run runStyle char style rest changes inductionHypothesis =>
    refine List.isChain_append.mpr ⟨ofRun run runStyle, inductionHypothesis, ?_⟩
    intro last isLast next isNext
    have ended : last.style = runStyle := by
      unfold runSegments at isLast
      split at isLast
      · cases isLast
      · cases isLast
        rfl
    have started : (segmentsFrom [char] style rest).head?.map (·.style) = some style :=
      style_head?_segmentsFrom (List.cons_ne_nil char [])
    rw [isNext] at started
    have started : next.style = style := Option.some.inj started
    rw [ended, started]
    exact Ne.symm changes

/-! ## Rows -/

/-- The segments of a row print it. -/
theorem rowSegments_prints (row : List FrameCell) : Line.Prints (rowSegments row) row where
  glyphs := glyphs_segmentsFrom [] none row
  text := by
    rw [← String.toList_inj, Line.toList_text, toList_cellsText]
    exact congrArg _ (glyphs_segmentsFrom [] none row)
  filled _ member := text_ne_of_mem_segmentsFrom member
  cuts := isChain_segmentsFrom [] none row

/-- A whole row has no characters without a width. -/
theorem cellWidth_of_whole (whole : Whole row) {glyph : Char × Option String}
    (member : glyph ∈ row.filterMap FrameCell.glyph?) : cellWidth glyph.1 ≠ 0 := by
  induction whole with
  | nil => cases member
  | narrow one _ inductionHypothesis =>
    obtain rfl | later := List.mem_cons.mp member
    · rw [one]; decide
    · exact inductionHypothesis later
  | wide two _ inductionHypothesis =>
    obtain rfl | later := List.mem_cons.mp member
    · rw [two]; decide
    · exact inductionHypothesis later

/-- A whole row is not printed with a line end in it. -/
theorem lineEnd_not_mem_rowSegments (whole : Whole row) : lineEnd ∉ rowSegments row := by
  intro member
  have breaks : ('\n', none) ∈ Line.glyphs (rowSegments row) :=
    List.mem_flatMap.mpr ⟨lineEnd, member, List.mem_singleton.mpr rfl⟩
  rw [(rowSegments_prints row).glyphs] at breaks
  exact cellWidth_of_whole whole breaks (by decide)

/-- Whole rows are printed as a line each. -/
theorem splitOn_lineEnd {rows : List (List FrameCell)} (whole : ∀ row ∈ rows, Whole row) :
    (rows.flatMap fun row => rowSegments row ++ [lineEnd]).splitOn lineEnd =
      rows.map rowSegments ++ [[]] := by
  induction rows with
  | nil => rfl
  | cons row rest inductionHypothesis =>
    rw [List.forall_mem_cons] at whole
    rw [List.flatMap_cons, List.append_assoc, List.singleton_append,
      List.splitOn_append_cons_self_of_not_mem (lineEnd_not_mem_rowSegments whole.1),
      inductionHypothesis whole.2]
    rfl

/-- However an intact frame is styled, its segments are one line for each row, and a line end after
each of them. Each line prints its row, so it reads as the text of that row. -/
theorem segments_print {frame : Frame} (intact : frame.IsIntact) :
    ∃ lines : List Line, lines.length = frame.height ∧
      frame.segments = lines.flatMap (· ++ [lineEnd]) ∧
      frame.segments.splitOn lineEnd = lines ++ [[]] ∧
      ∀ (y : Nat) (line : Line), lines[y]? = some line →
        (∃ row, frame.rows[y]? = some row ∧ line.Prints row) ∧
          frame.rowText? y = some line.text := by
  refine ⟨frame.rows.map rowSegments, ?_, ?_, splitOn_lineEnd intact.whole, ?_⟩
  · rw [List.length_map, intact.height]
  · rw [List.flatMap_map, segments]
  · intro y line found
    rw [List.getElem?_map] at found
    obtain ⟨row, isRow, rfl⟩ := Option.map_eq_some_iff.mp found
    have prints := rowSegments_prints row
    refine ⟨⟨row, isRow, prints⟩, ?_⟩
    rw [prints.text, rowText?, if_neg (by omega), if_neg (by omega), Int.toNat_natCast, isRow,
      Option.map_some]

/-- A frame with a wide character that goes on in the style before it, and a row without any. -/
def styledFrame : Frame :=
  (ofSize 5 2).performAll
    [.render [[⟨"a", some "bold"⟩, ⟨"中", some "bold"⟩, ⟨"b", some "red"⟩]] ⟨0, 0, 5, 2⟩]

/-- The frame is printed with one segment for each of its styles. -/
theorem segments_print_styled :
    styledFrame.IsIntact ∧
      styledFrame.segments = [⟨"a中", some "bold"⟩, ⟨"b", some "red"⟩, ⟨" ", none⟩, lineEnd,
        ⟨"     ", none⟩, lineEnd] ∧
      ∃ lines : List Line, lines.length = 2 ∧
        styledFrame.segments = lines.flatMap (· ++ [lineEnd]) ∧
        styledFrame.segments.splitOn lineEnd = lines ++ [[]] ∧
        ∀ (y : Nat) (line : Line), lines[y]? = some line →
          (∃ row, styledFrame.rows[y]? = some row ∧ line.Prints row) ∧
            styledFrame.rowText? y = some line.text := by
  have intact : styledFrame.IsIntact := ((ofSize_isIntact 5 2).performAll _).intact
  exact ⟨intact, by decide +kernel, segments_print intact⟩

end Frame

end NodeConsole.Paint
