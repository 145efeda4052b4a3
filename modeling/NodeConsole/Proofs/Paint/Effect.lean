import NodeConsole.Proofs.Layout.Parts
import NodeConsole.Proofs.Paint.Cuts
import NodeConsole.Proofs.Paint.Extent

/-!
# The effect of painting

Clearing a rectangle and writing into it change the cells that it covers and, of each wide character
that it covers by half, the other half, which becomes blank: `Confines`, `Repairs`. This holds for
all rectangles but one kind (`staysInside_iff`). Clearing asks for the halves at both ends of a
rectangle before it asks whether there is anything between them, so an empty rectangle that lies
between the halves of a character blanks both (`DividesWide`); writing looks at the size first.
-/

namespace NodeConsole.Paint.Frame

open NodeConsole.Layout

/-! ## Cells of a frame -/

/-- The cell at a column and a row. -/
def cell? (frame : Frame) (column row : Nat) : Option FrameCell :=
  frame.rows[row]?.bind fun cells => cells[column]?

/-- A rectangle covers a cell that the frame has. -/
def Shows (frame : Frame) (target : Rect) (column row : Nat) : Prop :=
  (column < frame.width ∧ row < frame.height) ∧ target.Covers column row

/-- A cell that a rectangle does not cover has one half of a wide character, and the rectangle
covers the other half. -/
def IsCutHalf (frame : Frame) (target : Rect) (column row : Nat) : Prop :=
  ¬frame.Shows target column row ∧
    (frame.Shows target (column + 1) row ∧ frame.cell? (column + 1) row = some .continuation ∨
      0 < column ∧ frame.Shows target (column - 1) row ∧
        frame.cell? column row = some .continuation)

/-- What has been painted differs only in the cells of a rectangle and in halves that it cuts off,
which are blank where they differ. -/
structure Confines (frame : Frame) (target : Rect) (painted : Frame) : Prop where
  width : painted.width = frame.width
  height : painted.height = frame.height
  rows : painted.rows.length = frame.rows.length
  beside : ∀ column row, ¬frame.Shows target column row →
    painted.cell? column row = frame.cell? column row ∨
      frame.IsCutHalf target column row ∧ painted.cell? column row = some .blank

/-- What has been painted is confined to a rectangle, and no half is left that it cuts off. -/
structure Repairs (frame : Frame) (target : Rect) (painted : Frame) : Prop
    extends frame.Confines target painted where
  blanks : ∀ column row, frame.IsCutHalf target column row →
    painted.cell? column row = some .blank

/-- An empty rectangle has its column between the halves of a wide character. -/
def DividesWide (frame : Frame) (target : Rect) : Prop :=
  target.width ≤ 0 ∧ ∃ column row : Nat, (column : Int) = target.x ∧
    (target.y ≤ row ∧ row < target.bottom) ∧ frame.cell? column row = some .continuation

/-- Painting in a rectangle stays in it. Cells beside it only become blank, as the other halves of
wide characters that it cuts, and a rectangle without cells leaves the frame. -/
structure StaysInside (frame : Frame) (target : Rect) : Prop where
  clear : frame.Repairs target (frame.clear target)
  cleared : ∀ column row, frame.Shows target column row →
    (frame.clear target).cell? column row = some .blank
  render : ∀ lines, frame.Confines target (frame.render lines target)
  fill : ∀ lines, frame.Repairs target (frame.fill lines target)
  apart : (∀ column row, ¬frame.Shows target column row) → frame.clear target = frame ∧
    ∀ lines, frame.render lines target = frame ∧ frame.fill lines target = frame

variable {frame : Frame} {target clipped : Rect} {column row : Nat} {cells : List FrameCell}

theorem cell?_of_row (found : frame.rows[row]? = some cells) (column : Nat) :
    frame.cell? column row = cells[column]? := by
  rw [cell?, found, Option.bind_some]

/-- The cells that a rectangle shows, as numbers. -/
theorem shows_iff (clips : target.intersection frame.area = clipped) :
    frame.Shows target column row ↔
      (clipped.x.toNat ≤ column ∧ column < clipped.right.toNat) ∧
        clipped.y.toNat ≤ row ∧ row < clipped.y.toNat + clipped.height.toNat := by
  subst clips
  simp only [Shows, Rect.Covers, Rect.intersection, Rect.right, Rect.bottom, area]
  omega

theorem Confines.refl (frame : Frame) (target : Rect) : frame.Confines target frame :=
  ⟨rfl, rfl, rfl, fun _ _ _ => .inl rfl⟩

/-- What is confined to no cell at all changes nothing. -/
theorem Confines.eq_self {painted : Frame} (confined : frame.Confines target painted)
    (apart : ∀ column row, ¬frame.Shows target column row) : painted = frame := by
  have cells (column row : Nat) : painted.cell? column row = frame.cell? column row := by
    obtain same | ⟨⟨-, ⟨shown, -⟩ | ⟨-, shown, -⟩⟩, -⟩ := confined.beside column row (apart _ _)
    · exact same
    · exact absurd shown (apart _ _)
    · exact absurd shown (apart _ _)
  have rows : painted.rows = frame.rows := by
    refine List.ext_getElem confined.rows fun row before after => ?_
    refine List.ext_getElem? fun column => ?_
    have same := cells column row
    unfold cell? at same
    rwa [List.getElem?_eq_getElem before, List.getElem?_eq_getElem after] at same
  obtain ⟨width, height, _⟩ := painted
  obtain rfl : width = frame.width := confined.width
  obtain rfl : height = frame.height := confined.height
  obtain rfl : _ = frame.rows := rows
  rfl

/-- The right half of a wide character has a cell before it. -/
theorem IsIntact.half_bounds (intact : frame.IsIntact)
    (found : frame.rows[row]? = some cells) (half : cells[column]? = some .continuation) :
    0 < column ∧ column < frame.width ∧ row < frame.height := by
  have member := List.mem_of_getElem? found
  obtain ⟨before, _, _, rfl, -⟩ := (intact.whole cells member).isPaired.led column half
  have inRow := (List.getElem?_eq_some_iff.mp half).1
  have inFrame := (List.getElem?_eq_some_iff.mp found).1
  rw [intact.width cells member] at inRow
  rw [intact.height] at inFrame
  exact ⟨Nat.succ_pos before, inRow, inFrame⟩

theorem IsIntact.dividesWide (intact : frame.IsIntact)
    (clips : target.intersection frame.area = clipped)
    (empty : clipped.right.toNat = clipped.x.toNat)
    (shown : clipped.y.toNat ≤ row ∧ row < clipped.y.toNat + clipped.height.toNat)
    (found : frame.rows[row]? = some cells)
    (half : cells[clipped.x.toNat]? = some .continuation) : frame.DividesWide target := by
  have bounds := intact.half_bounds found half
  rw [← cell?_of_row found] at half
  refine ⟨?_, clipped.x.toNat, row, ?_, ⟨?_, ?_⟩, half⟩ <;>
    simp only [← clips, Rect.intersection, Rect.right, Rect.bottom, area] at * <;> omega

/-- A half that is cut off in a row that a rectangle shows is cut off by the rectangle. -/
theorem IsIntact.isCutHalf (intact : frame.IsIntact) (undivided : ¬frame.DividesWide target)
    (clips : target.intersection frame.area = clipped)
    (shown : clipped.y.toNat ≤ row ∧ row < clipped.y.toNat + clipped.height.toNat)
    (found : frame.rows[row]? = some cells)
    (cut : IsCutOff cells clipped.x.toNat clipped.right.toNat column) :
    frame.IsCutHalf target column row := by
  have cell (column : Nat) := cell?_of_row found column
  have bounds := intersection_bounds frame target
  rw [clips] at bounds
  have ends := bounds.right
  by_cases visible : clipped.x.toNat < clipped.right.toNat
  · refine ⟨fun covered => ?_, ?_⟩
    · rw [shows_iff clips] at covered
      have beside := cut.beside
      omega
    · rw [shows_iff clips, shows_iff clips, cell, cell]
      obtain ⟨next, half⟩ | ⟨same, half⟩ := cut
      · rw [next]
        exact .inl ⟨⟨⟨Nat.le_refl _, visible⟩, shown⟩, half⟩
      · rw [same]
        exact .inr ⟨by omega, ⟨⟨by omega, by omega⟩, shown⟩, half⟩
  · have empty : clipped.right.toNat = clipped.x.toNat := by omega
    refine absurd (intact.dividesWide clips empty shown found ?_) undivided
    obtain ⟨-, half⟩ | ⟨-, half⟩ := cut
    · exact half
    · rwa [empty] at half

/-- A half that a rectangle cuts off is cut off in a row that it shows. -/
theorem IsCutHalf.isCutOff (cut : frame.IsCutHalf target column row)
    (clips : target.intersection frame.area = clipped) :
    clipped.x.toNat < clipped.right.toNat ∧
      (clipped.y.toNat ≤ row ∧ row < clipped.y.toNat + clipped.height.toNat) ∧
      ∃ cells, frame.rows[row]? = some cells ∧
        IsCutOff cells clipped.x.toNat clipped.right.toNat column := by
  obtain ⟨beside, cut⟩ := cut
  rw [shows_iff clips] at beside
  obtain ⟨shown, half⟩ | ⟨positive, shown, half⟩ := cut
  all_goals
    rw [shows_iff clips] at shown
    obtain ⟨cells, found, half⟩ := Option.bind_eq_some_iff.mp half
    refine ⟨by omega, shown.2, cells, found, ?_⟩
  · have next : column + 1 = clipped.x.toNat := by omega
    exact .inl ⟨next, next ▸ half⟩
  · have same : column = clipped.right.toNat := by omega
    exact .inr ⟨same, same ▸ half⟩

/-- Changes to rows that a rectangle shows are confined to it, if each leaves the cells beside those
shown, except for halves that are cut off. -/
theorem IsIntact.confines_modifyRows (intact : frame.IsIntact)
    (undivided : ¬frame.DividesWide target) (clips : target.intersection frame.area = clipped)
    {changes : List (List FrameCell → List FrameCell)}
    (few : changes.length ≤ clipped.height.toNat)
    (beside : ∀ change ∈ changes, ∀ cells, cells.length = frame.width → ∀ column,
      column < clipped.x.toNat ∨ clipped.right.toNat ≤ column →
      (change cells)[column]? = cells[column]? ∨
        IsCutOff cells clipped.x.toNat clipped.right.toNat column ∧
          (change cells)[column]? = some .blank) :
    frame.Confines target (frame.modifyRows clipped.y.toNat changes) where
  width := rfl
  height := rfl
  rows := length_modifyRows _ changes
  beside column row outside := by
    by_cases touched : clipped.y.toNat ≤ row ∧ row < clipped.y.toNat + changes.length
    · have listed : row - clipped.y.toNat < changes.length := by omega
      have changed := rows_modifyRows_of_change frame touched.1
        (List.getElem?_eq_getElem listed)
      unfold cell?
      rw [changed]
      cases found : frame.rows[row]? with
      | none => exact .inl rfl
      | some cells =>
        have length := intact.width cells (List.mem_of_getElem? found)
        rw [shows_iff clips] at outside
        have shown : clipped.y.toNat ≤ row ∧ row < clipped.y.toNat + clipped.height.toNat := by
          omega
        obtain same | ⟨cut, blank⟩ :=
          beside _ (List.getElem_mem listed) cells length column (by omega)
        · exact .inl same
        · exact .inr ⟨intact.isCutHalf undivided clips shown found cut, blank⟩
    · left
      unfold cell?
      rw [rows_modifyRows (by omega)]

/-- Changes to all the rows that a rectangle shows leave no half that the rectangle cuts off, if
none of them leaves one. -/
theorem Confines.repairs_modifyRows {changes : List (List FrameCell → List FrameCell)}
    (confined : frame.Confines target (frame.modifyRows clipped.y.toNat changes))
    (intact : frame.IsIntact) (clips : target.intersection frame.area = clipped)
    (all : changes.length = clipped.height.toNat)
    (blanks : ∀ change ∈ changes, ∀ cells, cells.length = frame.width → ∀ column,
      clipped.x.toNat < clipped.right.toNat →
      IsCutOff cells clipped.x.toNat clipped.right.toNat column →
      (change cells)[column]? = some .blank) :
    frame.Repairs target (frame.modifyRows clipped.y.toNat changes) where
  toConfines := confined
  blanks column row cut := by
    obtain ⟨visible, shown, cells, found, cut⟩ := cut.isCutOff clips
    have listed : row - clipped.y.toNat < changes.length := by omega
    have changed := rows_modifyRows_of_change frame shown.1
      (List.getElem?_eq_getElem listed)
    have length := intact.width cells (List.mem_of_getElem? found)
    rw [found] at changed
    rw [cell?_of_row changed]
    exact blanks _ (List.getElem_mem listed) cells length column visible cut

/-! ## Operations -/

theorem Bounds.getElem?_cleared (bounds : Bounds frame clipped)
    (length : cells.length = frame.width) (column : Nat) :
    (blankCells clipped.x.toNat clipped.width.toNat
        (splitWide clipped.x.toNat clipped.right.toNat cells))[column]? =
      if clipped.x.toNat ≤ column ∧ column < clipped.right.toNat then some .blank
      else if IsCutOff cells clipped.x.toNat clipped.right.toNat column then some .blank
      else cells[column]? := by
  obtain ⟨ends, columns, -⟩ := bounds
  have width : clipped.width.toNat = clipped.right.toNat - clipped.x.toNat := by omega
  rw [width]
  exact Paint.getElem?_cleared (by omega) (by omega) column

/-- The cells of a cleared frame in the rows that it shows of the rectangle. -/
theorem IsIntact.cell?_clear (intact : frame.IsIntact)
    (clips : target.intersection frame.area = clipped)
    (shown : clipped.y.toNat ≤ row ∧ row < clipped.y.toNat + clipped.height.toNat)
    (found : frame.rows[row]? = some cells) (column : Nat) :
    (frame.clear target).cell? column row =
      if clipped.x.toNat ≤ column ∧ column < clipped.right.toNat then some .blank
      else if IsCutOff cells clipped.x.toNat clipped.right.toNat column then some .blank
      else cells[column]? := by
  have bounds := intersection_bounds frame target
  unfold Frame.clear
  dsimp only
  rw [clips] at bounds ⊢
  have listed : row - clipped.y.toNat < clipped.height.toNat := by omega
  rw [cell?, rows_modifyRows_of_change frame shown.1
      (List.getElem?_replicate.trans (if_pos listed)), found, Option.map_some, Option.bind_some]
  exact bounds.getElem?_cleared (intact.width cells (List.mem_of_getElem? found)) column

/-- Clearing is confined to its rectangle and repairs the characters that this cuts. -/
theorem IsIntact.clear_repairs (intact : frame.IsIntact) (undivided : ¬frame.DividesWide target) :
    frame.Repairs target (frame.clear target) := by
  have bounds := intersection_bounds frame target
  refine Confines.repairs_modifyRows ?_ intact rfl List.length_replicate ?_
  · refine intact.confines_modifyRows undivided rfl (Nat.le_of_eq List.length_replicate) ?_
    intro change member cells length column beside
    rw [List.eq_of_mem_replicate member, bounds.getElem?_cleared length, if_neg (by omega)]
    split
    · next cut => exact .inr ⟨cut, rfl⟩
    · exact .inl rfl
  · intro change member cells length column _ cut
    have beside := cut.beside
    rw [List.eq_of_mem_replicate member, bounds.getElem?_cleared length, if_neg (by omega),
      if_pos cut]

theorem not_shows (empty : target.width ≤ 0) (column row : Nat) :
    ¬frame.Shows target column row := by
  simp only [Shows, Rect.Covers, Rect.right]
  omega

/-- Clearing an empty rectangle that divides a wide character changes the frame. -/
theorem IsIntact.clear_ne (intact : frame.IsIntact) (divides : frame.DividesWide target) :
    frame.clear target ≠ frame := by
  intro unchanged
  obtain ⟨empty, column, row, place, level, half⟩ := divides
  obtain ⟨cells, found, inRow⟩ := Option.bind_eq_some_iff.mp half
  have inside := intact.half_bounds found inRow
  have clipped : (target.intersection frame.area).x.toNat = column ∧
      (target.intersection frame.area).right.toNat = column ∧
      (target.intersection frame.area).y.toNat ≤ row ∧
      row < (target.intersection frame.area).y.toNat +
        (target.intersection frame.area).height.toNat := by
    simp only [Rect.intersection, Rect.right, Rect.bottom, area] at *
    omega
  have cleared := intact.cell?_clear rfl clipped.2.2 found column
  rw [unchanged, half, clipped.1, clipped.2.1, if_neg (by omega), if_pos (.inr ⟨rfl, inRow⟩)]
    at cleared
  cases cleared

/-- All cells that a rectangle shows are blank after it has been cleared. -/
theorem IsIntact.cell?_clear_of_shows (intact : frame.IsIntact)
    (shown : frame.Shows target column row) :
    (frame.clear target).cell? column row = some .blank := by
  have inside : row < frame.rows.length := by
    rw [intact.height]
    exact shown.1.2
  rw [shows_iff rfl] at shown
  rw [intact.cell?_clear rfl shown.2 (List.getElem?_eq_getElem inside), if_pos shown.1]

theorem not_dividesWide (visible : (target.intersection frame.area).isEmpty = false) :
    ¬frame.DividesWide target := by
  rintro ⟨empty, -⟩
  have shown := isEmpty_intersection ((Rect.isEmpty_iff target).mpr (.inl empty)) frame
  exact absurd (visible.symm.trans shown) (by decide)

theorem render_of_visible (visible : (target.intersection frame.area).isEmpty = false)
    (lines : List Line) : frame.render lines target =
      frame.modifyRows (target.intersection frame.area).y.toNat
        ((lines.take (target.intersection frame.area).height.toNat).map fun line =>
          blit (target.intersection frame.area).right.toNat
            (target.intersection frame.area).x.toNat line.glyphs) := by
  unfold Frame.render
  exact if_neg (by rw [visible]; decide)

/-- Writing is confined to its rectangle. -/
theorem IsIntact.render_confines (intact : frame.IsIntact) (target : Rect) (lines : List Line) :
    frame.Confines target (frame.render lines target) := by
  cases empty : (target.intersection frame.area).isEmpty with
  | true =>
    rw [Frame.render, if_pos empty]
    exact .refl frame target
  | false =>
    rw [render_of_visible empty]
    refine intact.confines_modifyRows (not_dividesWide empty) rfl ?_ ?_
    · rw [List.length_map]
      exact List.length_take_le _ _
    · intro change member cells _ column beside
      obtain ⟨line, -, rfl⟩ := List.mem_map.mp member
      exact getElem?_blit line.glyphs cells beside

/-- As many lines as a frame shows of a rectangle, each as wide as what it shows, repair the
characters that the rectangle cuts. -/
theorem IsIntact.render_repairs (intact : frame.IsIntact) {lines : List Line}
    (count : lines.length = (target.intersection frame.area).height.toNat)
    (wide : ∀ line ∈ lines,
      glyphsWidth line.glyphs = (target.intersection frame.area).width.toNat) :
    frame.Repairs target (frame.render lines target) := by
  have confined := intact.render_confines target lines
  have bounds := intersection_bounds frame target
  cases empty : (target.intersection frame.area).isEmpty with
  | true =>
    refine ⟨confined, fun column row cut => ?_⟩
    obtain ⟨visible, shown, -⟩ := cut.isCutOff rfl
    have ends := bounds.right
    rw [Rect.isEmpty_iff] at empty
    omega
  | false =>
    rw [render_of_visible empty, List.take_of_length_le (Nat.le_of_eq count)] at confined ⊢
    refine confined.repairs_modifyRows intact rfl ?_ ?_
    · rw [List.length_map, count]
    · intro change member cells _ column visible cut
      obtain ⟨line, written, rfl⟩ := List.mem_map.mp member
      refine getElem?_blit_of_isCutOff visible ?_ cut
      rw [wide line written, bounds.right]

/-- Filling repairs the characters that its rectangle cuts. -/
theorem IsIntact.fill_repairs (intact : frame.IsIntact) (target : Rect) (lines : List Line) :
    frame.Repairs target (frame.fill lines target) := by
  refine intact.render_repairs ?_ ?_
  · rw [List.length_map, List.length_append, List.length_take, List.length_replicate]
    omega
  · intro line fitted
    obtain ⟨line, -, rfl⟩ := List.mem_map.mp fitted
    rw [glyphs_fit, glyphsWidth_fitGlyphs]

theorem IsIntact.fill (intact : frame.IsIntact) (lines : List Line) (target : Rect) :
    (frame.fill lines target).IsIntact :=
  (intact.render _ target).intact

/-- Painting in a rectangle stays in it, unless the rectangle is empty and divides a wide
character: then clearing it blanks both halves. -/
theorem staysInside_iff (intact : frame.IsIntact) (target : Rect) :
    frame.StaysInside target ↔ ¬frame.DividesWide target := by
  constructor
  · intro stays divides
    exact intact.clear_ne divides (stays.apart (not_shows divides.1)).1
  · intro undivided
    have clear := intact.clear_repairs undivided
    exact {
      clear
      cleared := fun _ _ shown => intact.cell?_clear_of_shows shown
      render := intact.render_confines target
      fill := intact.fill_repairs target
      apart := fun apart => ⟨clear.toConfines.eq_self apart, fun lines =>
        ⟨(intact.render_confines target lines).eq_self apart,
          (intact.fill_repairs target lines).toConfines.eq_self apart⟩⟩ }

/-- Two wide characters on a row of four cells. -/
def wideFrame : Frame :=
  (ofSize 4 1).fill [[⟨"漢漢", none⟩]] ⟨0, 0, 4, 1⟩

theorem wideFrame_isIntact : wideFrame.IsIntact :=
  (ofSize_isIntact 4 1).fill _ _

/-- Painting over one half of each of two wide characters stays inside. -/
theorem staysInside_wideFrame :
    wideFrame.IsIntact ∧ wideFrame.StaysInside ⟨1, 0, 2, 1⟩ :=
  ⟨wideFrame_isIntact, (staysInside_iff wideFrame_isIntact ⟨1, 0, 2, 1⟩).mpr
    fun divides => absurd divides.1 (by decide)⟩

/-- An empty rectangle between the halves of a character is cleared, and the character is gone. -/
theorem wideFrame_not_staysInside :
    wideFrame.IsIntact ∧ ¬wideFrame.StaysInside ⟨1, 0, 0, 1⟩ := by
  refine ⟨wideFrame_isIntact, fun stays => ?_⟩
  have unchanged := (stays.apart (not_shows (by decide))).1
  exact absurd unchanged (by decide +kernel)

end NodeConsole.Paint.Frame
