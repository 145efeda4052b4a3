import NodeConsole.Layout.Splits

/-!
# Parts of an area

Whatever an area is divided into stays in it: a part is empty, or none of its sides is beyond the
side of the area. That is a relation that can be followed from part to part (`Rect.StaysIn.trans`),
so one lemma for each way of dividing is enough. Rows are kept in by their heights alone; that an
area has no height makes them empty.
-/

namespace NodeConsole.Layout

namespace Rect

/-- A rectangle covers a cell. -/
def Covers (rect : Rect) (column row : Int) : Prop :=
  (rect.x ≤ column ∧ column < rect.right) ∧ rect.y ≤ row ∧ row < rect.bottom

/-- A rectangle has a line of the screen, however wide it is. -/
def HasLine (rect : Rect) (line : Int) : Prop :=
  rect.y ≤ line ∧ line < rect.bottom

/-- No side of a rectangle is beyond that of an area. -/
structure IsInside (rect area : Rect) : Prop where
  left : area.x ≤ rect.x
  right : rect.right ≤ area.right
  top : area.y ≤ rect.y
  bottom : rect.bottom ≤ area.bottom

/-- A rectangle is empty or inside an area. -/
def StaysIn (rect area : Rect) : Prop :=
  rect.isEmpty = true ∨ rect.IsInside area

/-- Rectangles tile an area: together they cover its cells and no others, and no two of them cover
the same cell. -/
structure IsTiledBy (area : Rect) (parts : List Rect) : Prop where
  covered : ∀ column row, area.Covers column row ↔ ∃ part ∈ parts, part.Covers column row
  disjoint : parts.Pairwise fun first second =>
    ∀ column row, first.Covers column row → ¬second.Covers column row

variable {rect inner area : Rect}

/-- A rectangle is empty when it has no width or no height. -/
theorem isEmpty_iff (rect : Rect) : rect.isEmpty = true ↔ rect.width ≤ 0 ∨ rect.height ≤ 0 := by
  simp only [isEmpty, Bool.or_eq_true, decide_eq_true_eq]

theorem IsInside.refl (area : Rect) : area.IsInside area :=
  ⟨Int.le_refl _, Int.le_refl _, Int.le_refl _, Int.le_refl _⟩

theorem StaysIn.refl (area : Rect) : area.StaysIn area :=
  .inr (.refl area)

theorem IsInside.isEmpty (inside : inner.IsInside rect) (empty : rect.isEmpty = true) :
    inner.isEmpty = true := by
  obtain ⟨left, right, top, bottom⟩ := inside
  simp only [Rect.isEmpty_iff, Rect.right, Rect.bottom] at *
  omega

/-- What stays in a part of an area stays in the area. -/
theorem StaysIn.trans (stays : inner.StaysIn rect) (part : rect.StaysIn area) :
    inner.StaysIn area := by
  obtain empty | inside := stays
  · exact .inl empty
  · obtain empty | ⟨left, right, top, bottom⟩ := part
    · exact .inl (inside.isEmpty empty)
    · exact .inr ⟨Int.le_trans left inside.left, Int.le_trans inside.right right,
        Int.le_trans top inside.top, Int.le_trans inside.bottom bottom⟩

theorem inner_staysIn {margin : Int} (positive : 0 ≤ margin) (rect : Rect) :
    (rect.inner margin).StaysIn rect := by
  by_cases empty : (rect.inner margin).isEmpty = true
  · exact .inl empty
  · refine .inr ⟨?_, ?_, ?_, ?_⟩ <;>
      simp only [Rect.inner, Rect.isEmpty_iff, Rect.right, Rect.bottom] at * <;> omega

end Rect

open Rect

/-! ## Panes and columns -/

theorem centered_isInside (width height : Int) (area : Rect) :
    (centered width height area).IsInside area := by
  constructor <;> simp only [centered, Rect.right, Rect.bottom] <;> omega

/-- The pane on the left stays in the area. -/
theorem splitRight_left_staysIn (area : Rect) (fixed : Int) :
    (splitRight area fixed).1.StaysIn area := by
  by_cases empty : area.width < 0
  · left
    simp only [Rect.isEmpty_iff, splitRight]
    omega
  · right
    constructor <;> simp only [splitRight, Rect.right, Rect.bottom] <;> omega

theorem splitRight_right_staysIn (area : Rect) (fixed : Int) :
    (splitRight area fixed).2.StaysIn area := by
  right
  constructor <;> simp only [splitRight, Rect.right, Rect.bottom] <;> omega

/-- The two panes tile the area. -/
theorem splitRight_isTiledBy (area : Rect) (fixed : Int) :
    area.IsTiledBy [(splitRight area fixed).1, (splitRight area fixed).2] where
  covered column row := by
    simp only [List.mem_cons, List.not_mem_nil, or_false, exists_eq_or_imp, exists_eq_left, Covers,
      splitRight, Rect.right, Rect.bottom]
    omega
  disjoint := by
    refine List.pairwise_pair.mpr fun column row => ?_
    simp only [Covers, splitRight, Rect.right, Rect.bottom]
    omega

/-- Where columns of given widths end that start at a column of the screen. -/
def columnsEnd (x : Int) (widths : List Int) : Int :=
  widths.foldl (fun x width => x + width) x

/-- Columns without a negative width end no further left than they start. -/
theorem le_columnsEnd {x : Int} {widths : List Int} (positive : ∀ width ∈ widths, 0 ≤ width) :
    x ≤ columnsEnd x widths := by
  induction widths generalizing x with
  | nil => exact Int.le_refl x
  | cons width rest inductionHypothesis =>
    rw [List.forall_mem_cons] at positive
    have others : x + width ≤ columnsEnd x (width :: rest) := inductionHypothesis positive.2
    omega

/-- Columns that share a width end where it ends. -/
theorem columnsEnd_columnWidths (x width : Int) {count : Nat} (some : 0 < count) :
    columnsEnd x (columnWidths width count) = x + width := by
  -- The first columns have one cell more, as many of them as the remainder says.
  have shares (base : Int) (extra count : Nat) :
      columnsEnd x ((List.range count).map fun (index : Nat) =>
        base + if (index : Int) < extra then 1 else 0) = x + (base * count + min count extra) := by
    induction count with
    | zero => simp [columnsEnd]
    | succ count inductionHypothesis =>
      unfold columnsEnd at *
      rw [List.range_succ, List.map_append, List.foldl_append, inductionHypothesis]
      simp only [List.map_cons, List.map_nil, List.foldl_cons, List.foldl_nil]
      rw [Int.natCast_succ, Int.mul_add]
      split <;> omega
  have positive : (0 : Int) < count := by omega
  have notNegative := Int.emod_nonneg width (Int.ne_of_gt positive)
  obtain ⟨extra, remainder⟩ := Int.eq_ofNat_of_zero_le notNegative
  have small := Int.emod_lt_of_pos width positive
  have whole := Int.mul_ediv_add_emod width count
  unfold columnWidths
  rw [remainder, shares, Int.mul_comm]
  omega

theorem columnWidths_nonneg {width : Int} (wide : 0 ≤ width) (count : Nat) :
    ∀ share ∈ columnWidths width count, 0 ≤ share := by
  have base : 0 ≤ width / (count : Int) := Int.ediv_nonneg wide (Int.natCast_nonneg count)
  intro share listed
  obtain ⟨index, -, rfl⟩ := List.mem_map.mp listed
  split <;> omega

/-- Columns without a negative width that end no further right than an area are inside it. -/
theorem columnsFrom_isInside {area : Rect} {x : Int} {widths : List Int} (left : area.x ≤ x)
    (positive : ∀ width ∈ widths, 0 ≤ width) (right : columnsEnd x widths ≤ area.right) :
    ∀ column ∈ columnsFrom area x widths, column.IsInside area := by
  induction widths generalizing x with
  | nil => nofun
  | cons width rest inductionHypothesis =>
    rw [List.forall_mem_cons] at positive
    have others : x + width ≤ columnsEnd (x + width) rest := le_columnsEnd positive.2
    have ends : columnsEnd (x + width) rest ≤ area.right := right
    refine List.forall_mem_cons.mpr ⟨⟨left, ?_, Int.le_refl _, Int.le_refl _⟩, ?_⟩
    · exact Int.le_trans others ends
    · exact inductionHypothesis (by omega) positive.2 ends

/-- Columns without a positive width are empty. -/
theorem columnsFrom_isEmpty {area : Rect} {x : Int} {widths : List Int}
    (none : ∀ width ∈ widths, width ≤ 0) :
    ∀ column ∈ columnsFrom area x widths, column.isEmpty = true := by
  induction widths generalizing x with
  | nil => nofun
  | cons width rest inductionHypothesis =>
    rw [List.forall_mem_cons] at none
    exact List.forall_mem_cons.mpr
      ⟨(Rect.isEmpty_iff _).mpr (.inl none.1), inductionHypothesis none.2⟩

/-- Columns that share an area stay in it. -/
theorem splitColumns_staysIn (area : Rect) {count : Int} (some : 0 < count) :
    ∀ column ∈ splitColumns area count, column.StaysIn area := by
  have positive : (0 : Int) < count.toNat := by omega
  intro column member
  by_cases wide : 0 ≤ area.width
  · refine .inr (columnsFrom_isInside (Int.le_refl _) (columnWidths_nonneg wide _) ?_ column member)
    rw [columnsEnd_columnWidths _ _ (by omega)]
    exact Int.le_refl _
  · refine .inl (columnsFrom_isEmpty ?_ column member)
    have share := Int.ediv_neg_of_neg_of_pos (Int.not_le.mp wide) positive
    intro width listed
    obtain ⟨index, -, rfl⟩ := List.mem_map.mp listed
    split <;> omega

/-! ## Rows -/

/-- There is a row for each height. -/
theorem length_stackRows (area : Rect) (heights : List Int) :
    (stackRows area heights).length = heights.length := by
  have continued (y : Int) : (rowsFrom area y heights).length = heights.length := by
    induction heights generalizing y with
    | nil => rfl
    | cons height rest inductionHypothesis =>
      exact congrArg (· + 1) (inductionHypothesis (y + height))
  exact continued area.y

/-- What can be seen of rows from a row of an area on is inside it. -/
theorem rowsFrom_isInside {area : Rect} {y : Int} {heights : List Int} (top : area.y ≤ y)
    (heights_nonneg : ∀ height ∈ heights, 0 ≤ height) :
    ∀ row ∈ rowsFrom area y heights, row.height = 0 ∨ row.IsInside area := by
  induction heights generalizing y with
  | nil => nofun
  | cons height rest inductionHypothesis =>
    rw [List.forall_mem_cons] at heights_nonneg
    refine List.forall_mem_cons.mpr ⟨?_, inductionHypothesis (by omega) heights_nonneg.2⟩
    by_cases visible : 0 < min height (area.bottom - y)
    · refine .inr ⟨Int.le_refl _, Int.le_refl _, top, ?_⟩
      simp only [Rect.bottom] at *
      omega
    · left
      dsimp only
      omega

theorem rowsFrom_staysIn {area : Rect} {y : Int} {heights : List Int} (top : area.y ≤ y)
    (heights_nonneg : ∀ height ∈ heights, 0 ≤ height) :
    ∀ row ∈ rowsFrom area y heights, row.StaysIn area := by
  intro row member
  obtain none | inside := rowsFrom_isInside top heights_nonneg row member
  · exact .inl ((Rect.isEmpty_iff row).mpr (.inr (Int.le_of_eq none)))
  · exact .inr inside

theorem stackRows_staysIn (area : Rect) {heights : List Int}
    (heights_nonneg : ∀ height ∈ heights, 0 ≤ height) :
    ∀ row ∈ stackRows area heights, row.StaysIn area :=
  rowsFrom_staysIn (Int.le_refl _) heights_nonneg

/-- Rows from a row of the screen on are not above it. -/
theorem le_of_mem_rowsFrom {area : Rect} {y : Int} {heights : List Int}
    (heights_nonneg : ∀ height ∈ heights, 0 ≤ height) :
    ∀ row ∈ rowsFrom area y heights, y ≤ row.y := by
  induction heights generalizing y with
  | nil => nofun
  | cons height rest inductionHypothesis =>
    rw [List.forall_mem_cons] at heights_nonneg
    refine List.forall_mem_cons.mpr ⟨Int.le_refl y, fun row member => ?_⟩
    have below := inductionHypothesis (y := y + height) heights_nonneg.2 row member
    omega

/-- No two rows have the same line of the screen. -/
theorem rowsFrom_shareNoLine {area : Rect} {y : Int} {heights : List Int}
    (heights_nonneg : ∀ height ∈ heights, 0 ≤ height) :
    (rowsFrom area y heights).Pairwise fun first second =>
      ∀ line, first.HasLine line → ¬second.HasLine line := by
  induction heights generalizing y with
  | nil => exact .nil
  | cons height rest inductionHypothesis =>
    rw [List.forall_mem_cons] at heights_nonneg
    refine List.pairwise_cons.mpr ⟨fun second member line => ?_,
      inductionHypothesis heights_nonneg.2⟩
    have below := le_of_mem_rowsFrom heights_nonneg.2 second member
    simp only [HasLine, Rect.bottom]
    omega

theorem rowsFrom_disjoint {area : Rect} {y : Int} {heights : List Int}
    (heights_nonneg : ∀ height ∈ heights, 0 ≤ height) :
    (rowsFrom area y heights).Pairwise fun first second =>
      ∀ column row, first.Covers column row → ¬second.Covers column row :=
  (rowsFrom_shareNoLine heights_nonneg).imp fun apart _ row inFirst inSecond =>
    apart row inFirst.2 inSecond.2

/-- Rows of one height stand one below the other. -/
theorem getElem?_rowsFrom {area : Rect} {y height : Int} {heights : List Int}
    (equal : ∀ other ∈ heights, other = height) {index : Nat} {row : Rect}
    (found : (rowsFrom area y heights)[index]? = some row) :
    row = ⟨area.x, y + height * index, area.width,
      max 0 (min height (area.bottom - (y + height * index)))⟩ := by
  induction heights generalizing y index with
  | nil => cases found
  | cons first rest inductionHypothesis =>
    rw [List.forall_mem_cons] at equal
    obtain ⟨rfl, equal⟩ := equal
    cases index with
    | zero =>
      cases found
      simp
    | succ index =>
      rw [inductionHypothesis equal found, Int.natCast_succ, Int.mul_add, Int.mul_one,
        Int.add_assoc, Int.add_comm first]

/-! ## The screen -/

/-- The tab bar, the body and the status bar tile the screen. -/
theorem Screen.isTiledBy_of (area : Rect) :
    area.IsTiledBy [(Screen.of area).tabs, (Screen.of area).body, (Screen.of area).status] where
  covered column row := by
    simp only [List.mem_cons, List.not_mem_nil, or_false, exists_eq_or_imp, exists_eq_left, Covers,
      Screen.of, tabsHeight, statusHeight, Rect.right, Rect.bottom]
    omega
  disjoint := by
    simp only [List.pairwise_cons, List.mem_cons, List.not_mem_nil, or_false, forall_eq_or_imp,
      forall_eq, false_imp_iff, implies_true, List.Pairwise.nil, and_true, Covers, Screen.of,
      tabsHeight, statusHeight, Rect.right, Rect.bottom]
    refine ⟨⟨fun column row => ?_, fun column row => ?_⟩, fun column row => ?_⟩ <;> omega

end NodeConsole.Layout
