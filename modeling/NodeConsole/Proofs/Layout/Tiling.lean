import Mathlib.Algebra.Order.BigOperators.Group.List
import Mathlib.Algebra.Ring.Int.Defs
import Mathlib.Data.List.Chain
import NodeConsole.Proofs.Layout.Parts

/-!
# Splits tile their area

Nothing of an area is lost when it is divided, and nothing is given away twice: `splits_tile`.
Columns and panes stand side by side over its whole width, and the parts of the screen one below the
other over its whole height. Rows of given heights fill it from the top as far as they reach.
-/

namespace NodeConsole.Layout

namespace Rect

/-- Rectangles stand side by side in an area: they are as high as it is, the first starts where it
starts, each of the others where the one to its left ends, and together they are as wide. -/
structure AreColumnsOf (area : Rect) (columns : List Rect) : Prop where
  fullHeight : ∀ column ∈ columns, column.y = area.y ∧ column.height = area.height
  width_nonneg : ∀ column ∈ columns, 0 ≤ column.width
  first : ∀ column ∈ columns.head?, column.x = area.x
  adjacent : columns.IsChain fun left right => right.x = left.right
  total : (columns.map (·.width)).sum = area.width

/-- Rectangles stand one below the other in an area: they are as wide as it is, the first starts
where it starts, each of the others where the one above it ends, and together they are as high. -/
structure AreStackOf (area : Rect) (parts : List Rect) : Prop where
  fullWidth : ∀ part ∈ parts, part.x = area.x ∧ part.width = area.width
  height_nonneg : ∀ part ∈ parts, 0 ≤ part.height
  first : ∀ part ∈ parts.head?, part.y = area.y
  adjacent : parts.IsChain fun upper lower => lower.y = upper.bottom
  total : (parts.map (·.height)).sum = area.height

/-- Rows of some heights fill an area from the top: they are as wide as it is, no two of them have
the same line, what can be seen of one is inside the area, and together they have the lines of the
area that the heights reach. -/
structure FillTopOf (area : Rect) (heights : List Int) (rows : List Rect) : Prop where
  count : rows.length = heights.length
  fullWidth : ∀ row ∈ rows, row.x = area.x ∧ row.width = area.width
  disjoint : rows.Pairwise fun first second => ∀ line, first.HasLine line → ¬second.HasLine line
  inside : ∀ row ∈ rows, row.height = 0 ∨ row.IsInside area
  covered : ∀ line, (∃ row ∈ rows, row.HasLine line) ↔
    area.y ≤ line ∧ line < area.y + min heights.sum area.height

end Rect

open Rect

variable {area : Rect}

/-! ## Columns -/

theorem map_width_columnsFrom (area : Rect) (x : Int) (widths : List Int) :
    (columnsFrom area x widths).map (·.width) = widths := by
  induction widths generalizing x with
  | nil => rfl
  | cons width rest inductionHypothesis =>
    exact congrArg (width :: ·) (inductionHypothesis (x + width))

/-- The first column starts where the area starts, and the others are columns of what is to its
right. -/
theorem areColumnsOf_cons {column : Rect} {rest : List Rect} :
    area.AreColumnsOf (column :: rest) ↔
      (column.x = area.x ∧ column.y = area.y ∧ column.height = area.height) ∧ 0 ≤ column.width ∧
        Rect.AreColumnsOf
          ⟨area.x + column.width, area.y, area.width - column.width, area.height⟩ rest := by
  constructor
  · rintro ⟨fullHeight, width_nonneg, first, adjacent, total⟩
    rw [List.forall_mem_cons] at fullHeight width_nonneg
    rw [List.isChain_cons] at adjacent
    rw [List.map_cons, List.sum_cons] at total
    have start : column.x = area.x := first column rfl
    refine ⟨⟨start, fullHeight.1⟩, width_nonneg.1,
      ⟨fullHeight.2, width_nonneg.2, ?_, adjacent.2, ?_⟩⟩
    · intro next isNext
      rw [adjacent.1 next isNext, Rect.right, start]
    · dsimp only
      omega
  · rintro ⟨⟨start, placed⟩, positive, fullHeight, width_nonneg, first, adjacent, total⟩
    refine ⟨List.forall_mem_cons.mpr ⟨placed, fullHeight⟩,
      List.forall_mem_cons.mpr ⟨positive, width_nonneg⟩, ?_,
      List.isChain_cons.mpr ⟨?_, adjacent⟩, ?_⟩
    · rintro _ ⟨⟩
      exact start
    · intro next isNext
      rw [first next isNext, Rect.right, start]
    · rw [List.map_cons, List.sum_cons, total]
      dsimp only
      omega

/-- Columns of an area tile it. -/
theorem Rect.AreColumnsOf.isTiledBy {columns : List Rect} (columnsOf : area.AreColumnsOf columns) :
    area.IsTiledBy columns := by
  induction columns generalizing area with
  | nil =>
    have none : (0 : Int) = area.width := columnsOf.total
    refine ⟨fun column row => ?_, .nil⟩
    simp only [List.not_mem_nil, false_and, exists_false, iff_false, Covers, Rect.right]
    omega
  | cons column rest inductionHypothesis =>
    obtain ⟨⟨x, y, height⟩, positive, others⟩ := areColumnsOf_cons.mp columnsOf
    obtain ⟨covered, disjoint⟩ := inductionHypothesis others
    have total : (rest.map (·.width)).sum = area.width - column.width := others.total
    have wide : 0 ≤ (rest.map (·.width)).sum :=
      List.sum_nonneg (List.forall_mem_map.mpr others.width_nonneg)
    constructor
    case covered =>
      intro column row
      rw [List.exists_mem_cons_iff, ← covered]
      simp only [Covers, Rect.right, Rect.bottom]
      omega
    case disjoint =>
      refine List.pairwise_cons.mpr ⟨fun other member column row inFirst inOther => ?_, disjoint⟩
      have toTheRight := (covered column row).mpr ⟨other, member, inOther⟩
      simp only [Covers, Rect.right] at inFirst toTheRight
      omega

/-- Columns of given widths are columns of an area that is as wide as all of them. -/
theorem columnsFrom_areColumnsOf (area : Rect) (x : Int) {widths : List Int}
    (positive : ∀ width ∈ widths, 0 ≤ width) :
    Rect.AreColumnsOf ⟨x, area.y, widths.sum, area.height⟩ (columnsFrom area x widths) := by
  induction widths generalizing x with
  | nil => exact ⟨nofun, nofun, nofun, .nil, rfl⟩
  | cons width rest inductionHypothesis =>
    rw [List.forall_mem_cons] at positive
    refine areColumnsOf_cons.mpr ⟨⟨rfl, rfl, rfl⟩, positive.1, ?_⟩
    rw [List.sum_cons, add_sub_cancel_left]
    exact inductionHypothesis (x + width) positive.2

/-- Columns end after the sum of their widths. -/
theorem columnsEnd_eq (x : Int) (widths : List Int) : columnsEnd x widths = x + widths.sum := by
  induction widths generalizing x with
  | nil => exact (Int.add_zero x).symm
  | cons width rest inductionHypothesis =>
    have next : columnsEnd x (width :: rest) = columnsEnd (x + width) rest := rfl
    rw [next, inductionHypothesis, List.sum_cons, Int.add_assoc]

/-- Columns that share an area are columns of it, as many as are asked for. -/
theorem splitColumns_areColumnsOf (wide : 0 ≤ area.width) {count : Int} (some : 1 ≤ count) :
    area.AreColumnsOf (splitColumns area count) ∧
      ((splitColumns area count).length : Int) = count := by
  have total : (columnWidths area.width count.toNat).sum = area.width := by
    have counted : 0 < count.toNat := by omega
    have ends := columnsEnd_columnWidths area.x area.width counted
    rw [columnsEnd_eq] at ends
    omega
  constructor
  · have columns := columnsFrom_areColumnsOf area area.x (columnWidths_nonneg wide count.toNat)
    rwa [total] at columns
  · have widths := congrArg List.length
      (map_width_columnsFrom area area.x (columnWidths area.width count.toNat))
    rw [List.length_map, columnWidths, List.length_map, List.length_range, ← columnWidths] at widths
    rw [splitColumns, widths, Int.toNat_of_nonneg (by omega)]

/-- A column is at most one cell wider than one to its right, and no narrower. -/
theorem splitColumns_widths (area : Rect) (count : Int) :
    (splitColumns area count).Pairwise fun left right =>
      right.width ≤ left.width ∧ left.width ≤ right.width + 1 := by
  have shares : (columnWidths area.width count.toNat).Pairwise fun left right =>
      right ≤ left ∧ left ≤ right + 1 := by
    refine List.pairwise_map.mpr (List.pairwise_lt_range.imp fun ordered => ?_)
    split <;> split <;> omega
  rw [← map_width_columnsFrom area area.x (columnWidths area.width count.toNat)] at shares
  exact List.pairwise_map.mp shares

theorem splitRight_areColumnsOf (wide : 0 ≤ area.width) (fixed : Int) :
    area.AreColumnsOf [(splitRight area fixed).1, (splitRight area fixed).2] := by
  refine areColumnsOf_cons.mpr ⟨⟨rfl, rfl, rfl⟩, ?_, areColumnsOf_cons.mpr
    ⟨⟨rfl, rfl, rfl⟩, ?_, nofun, nofun, nofun, .nil, ?_⟩⟩ <;>
    simp only [splitRight, List.map_nil, List.sum_nil] <;> omega

/-! ## The screen -/

/-- The parts of the screen are stacked in it. -/
theorem Screen.areStackOf (high : 0 ≤ area.height) :
    area.AreStackOf [(Screen.of area).tabs, (Screen.of area).body, (Screen.of area).status] := by
  constructor
  case fullWidth => simp [Screen.of]
  case height_nonneg =>
    simp only [List.forall_mem_cons, Screen.of, tabsHeight, statusHeight]
    exact ⟨by omega, by omega, by omega, List.forall_mem_nil _⟩
  case first =>
    rintro _ ⟨⟩
    rfl
  case adjacent => exact .cons_cons rfl (.cons_cons rfl (.singleton _))
  case total =>
    simp only [List.map_cons, List.map_nil, List.sum_cons, List.sum_nil, Screen.of, tabsHeight,
      statusHeight]
    omega

/-! ## Rows -/

/-- Rows of given heights have the lines that the heights reach, as far as the area goes. -/
theorem hasLine_rowsFrom {y : Int} {heights : List Int}
    (heights_nonneg : ∀ height ∈ heights, 0 ≤ height) (line : Int) :
    (∃ row ∈ rowsFrom area y heights, row.HasLine line) ↔
      y ≤ line ∧ line < y + heights.sum ∧ line < area.bottom := by
  induction heights generalizing y with
  | nil =>
    simp only [rowsFrom, List.not_mem_nil, false_and, exists_false, List.sum_nil, false_iff]
    omega
  | cons height rest inductionHypothesis =>
    rw [List.forall_mem_cons] at heights_nonneg
    have below : 0 ≤ rest.sum := List.sum_nonneg heights_nonneg.2
    rw [rowsFrom, List.exists_mem_cons_iff, inductionHypothesis heights_nonneg.2, List.sum_cons]
    simp only [HasLine, Rect.bottom]
    omega

/-- Rows of an area fill it from the top. -/
theorem stackRows_fillTopOf (area : Rect) {heights : List Int}
    (heights_nonneg : ∀ height ∈ heights, 0 ≤ height) :
    area.FillTopOf heights (stackRows area heights) where
  count := length_stackRows area heights
  fullWidth := by
    have placed (y : Int) :
        ∀ row ∈ rowsFrom area y heights, row.x = area.x ∧ row.width = area.width := by
      induction heights generalizing y with
      | nil => nofun
      | cons height rest inductionHypothesis =>
        rw [List.forall_mem_cons] at heights_nonneg
        exact List.forall_mem_cons.mpr ⟨⟨rfl, rfl⟩, inductionHypothesis heights_nonneg.2 _⟩
    exact placed area.y
  disjoint := rowsFrom_shareNoLine heights_nonneg
  inside := rowsFrom_isInside (Int.le_refl _) heights_nonneg
  covered line := by
    rw [stackRows, hasLine_rowsFrom heights_nonneg, Rect.bottom]
    omega

/-! ## All splits -/

/-- However an area is divided, the parts tile it: columns of nearly one width, of which the wider
ones come first, a pane beside one of a fixed width, and the parts of the screen. Rows of given
heights tile as much of it as they reach. -/
theorem splits_tile {area : Rect} (wide : 0 ≤ area.width) (high : 0 ≤ area.height) :
    (∀ count : Int, 1 ≤ count →
      area.IsTiledBy (splitColumns area count) ∧ area.AreColumnsOf (splitColumns area count) ∧
        ((splitColumns area count).length : Int) = count ∧
        (splitColumns area count).Pairwise fun left right =>
          right.width ≤ left.width ∧ left.width ≤ right.width + 1) ∧
    (∀ fixed : Int,
      area.IsTiledBy [(splitRight area fixed).1, (splitRight area fixed).2] ∧
        area.AreColumnsOf [(splitRight area fixed).1, (splitRight area fixed).2]) ∧
    (area.IsTiledBy [(Screen.of area).tabs, (Screen.of area).body, (Screen.of area).status] ∧
      area.AreStackOf [(Screen.of area).tabs, (Screen.of area).body, (Screen.of area).status]) ∧
    ∀ heights : List Int, (∀ height ∈ heights, 0 ≤ height) →
      area.FillTopOf heights (stackRows area heights) := by
  refine ⟨fun count some => ?_, fun fixed => ?_, ?_, fun heights => stackRows_fillTopOf area⟩
  · obtain ⟨columns, length⟩ := splitColumns_areColumnsOf wide some
    exact ⟨columns.isTiledBy, columns, length, splitColumns_widths area count⟩
  · exact ⟨splitRight_isTiledBy area fixed, splitRight_areColumnsOf wide fixed⟩
  · exact ⟨Screen.isTiledBy_of area, Screen.areStackOf high⟩

/-- Ten cells are shared by three columns, and four lines are filled by three rows: the second is
cut off, and the third is below the area. -/
theorem splits_tile_lowArea :
    splitColumns ⟨2, 1, 10, 4⟩ 3 = [⟨2, 1, 4, 4⟩, ⟨6, 1, 3, 4⟩, ⟨9, 1, 3, 4⟩] ∧
      Rect.AreColumnsOf ⟨2, 1, 10, 4⟩ (splitColumns ⟨2, 1, 10, 4⟩ 3) ∧
      stackRows ⟨2, 1, 10, 4⟩ [3, 2, 1] = [⟨2, 1, 10, 3⟩, ⟨2, 4, 10, 1⟩, ⟨2, 6, 10, 0⟩] ∧
      Rect.FillTopOf ⟨2, 1, 10, 4⟩ [3, 2, 1] (stackRows ⟨2, 1, 10, 4⟩ [3, 2, 1]) := by
  obtain ⟨columns, -, -, rows⟩ := @splits_tile ⟨2, 1, 10, 4⟩ (by decide) (by decide)
  exact ⟨by decide, (columns 3 (by decide)).2.1, by decide,
    rows [3, 2, 1] (by simp)⟩

end NodeConsole.Layout
