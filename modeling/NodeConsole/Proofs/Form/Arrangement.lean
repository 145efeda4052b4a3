import Mathlib.Data.List.Basic
import NodeConsole.Form.Dialog
import NodeConsole.Proofs.Layout.Parts

/-!
# The arrangement of a dialog

A dialog is arranged in an area when there is room for its border, the column of its buttons and one
cell of its form: `layout_arranges`. Then its frame is in the middle of the area, the form and the
column tile what the border leaves, and the buttons are rows of the column, one below the other. The
last of them may be below the end of the column, and are empty then.
-/

namespace NodeConsole.Form

open NodeConsole.Layout

namespace Dialog

/-! ## Parts of a dialog -/

/-- The row of a button, by its place among the buttons: it covers what the column has of the three
lines that are the button's. -/
structure IsButtonRow (column : Rect) (index : Nat) (label : String) (row : Rect) : Prop where
  left : row.x = column.x
  top : row.y = column.y + 3 * index
  height : row.height ≤ 3
  width : (label.length : Int) + 2 ≤ row.width
  empty : row.isEmpty = true → column.bottom ≤ row.y
  covers : ∀ x y, row.Covers x y ↔ column.Covers x y ∧ row.y ≤ y ∧ y < row.y + 3

/-- A dialog is arranged in an area by its frame, its form, the column of its buttons and the rows
of the buttons. -/
structure IsArranged (dialog : Dialog) (area frame content column : Rect) (rows : List Rect) :
    Prop where
  inside : frame.IsInside area
  width : frame.width = min dialog.width area.width
  height : frame.height = min dialog.height area.height
  leftRight : ((frame.x - area.x) - (area.right - frame.right)).natAbs ≤ 1
  topBottom : ((frame.y - area.y) - (area.bottom - frame.bottom)).natAbs ≤ 1
  /-- The form and the column tile what is inside the border. -/
  tiled : (frame.inner 1).IsTiledBy [content, column]
  contentWidth : 1 ≤ content.width
  /-- The column is as wide as its widest button. -/
  columnWidth : dialog.buttons = [] ∧ column.width = 0 ∨
    ∃ label ∈ dialog.buttons, column.width = label.length + 2
  count : rows.length = dialog.buttons.length
  button : ∀ index label row, dialog.buttons[index]? = some label → rows[index]? = some row →
    IsButtonRow column index label row
  disjoint : rows.Pairwise fun first second => ∀ x y, first.Covers x y → ¬second.Covers x y

/-! ## The column of buttons -/

/-- The column is as wide as its widest button, and no narrower than any. -/
theorem buttonWidth_spec (buttons : List String) :
    (buttons = [] ∧ buttonWidth buttons = 0 ∨
        ∃ label ∈ buttons, buttonWidth buttons = label.length + 2) ∧
      ∀ label ∈ buttons, (label.length : Int) + 2 ≤ buttonWidth buttons := by
  have widest : (0 :: buttons.map fun label => (label.length : Int) + 2).max? =
      some (buttonWidth buttons) := by
    rw [List.max?_cons', List.foldl_map]
    rfl
  obtain ⟨reached, widest⟩ := List.max?_eq_some_iff.mp widest
  obtain ⟨-, others⟩ := List.forall_mem_cons.mp widest
  rw [List.forall_mem_map] at others
  refine ⟨?_, others⟩
  obtain none | listed := List.mem_cons.mp reached
  · cases buttons with
    | nil => exact .inl ⟨rfl, none⟩
    | cons label rest =>
      have enough := others label List.mem_cons_self
      omega
  · obtain ⟨label, member, same⟩ := List.mem_map.mp listed
    exact .inr ⟨label, member, same.symm⟩

/-- The row of a button. -/
theorem isButtonRow {column row : Rect} {buttons : List String} {index : Nat} {label : String}
    (wide : buttonWidth buttons ≤ column.width) (listed : buttons[index]? = some label)
    (found : (stackRows column (buttons.map fun _ => buttonHeight))[index]? = some row) :
    IsButtonRow column index label row := by
  have own := (buttonWidth_spec buttons).2 label (List.mem_of_getElem? listed)
  have equal : ∀ height ∈ buttons.map fun _ => buttonHeight, height = 3 := by
    intro height member
    obtain ⟨label, -, rfl⟩ := List.mem_map.mp member
    rfl
  obtain rfl := getElem?_rowsFrom equal found
  constructor
  case left => rfl
  case top => rfl
  case height => dsimp only; omega
  case width => exact Int.le_trans own wide
  case empty =>
    intro empty
    rw [Rect.isEmpty_iff] at empty
    dsimp only at *
    omega
  case covers =>
    intro x y
    simp only [Rect.Covers, Rect.right, Rect.bottom]
    omega

/-! ## Rectangles by name -/

/-- Rectangles of new names are added one after another. -/
theorem Areas.sets_new {areas entries : Areas}
    (distinct : ((areas ++ entries).map (·.1)).Nodup) :
    entries.foldl (fun areas entry => Areas.set areas entry.1 entry.2) areas =
      areas ++ entries := by
  induction entries generalizing areas with
  | nil => exact (List.append_nil areas).symm
  | cons entry rest inductionHypothesis =>
    have unknown : areas.any (·.1 = entry.1) = false := by
      rw [List.map_append, List.nodup_append] at distinct
      refine List.any_eq_false.mpr fun other member same => ?_
      exact distinct.2.2 other.1 (List.mem_map_of_mem member) entry.1 (by simp)
        (of_decide_eq_true same)
    have added : Areas.set areas entry.1 entry.2 = areas ++ [entry] := by
      rw [Areas.set, unknown]
      rfl
    rw [List.foldl_cons, added, inductionHypothesis (by rwa [← List.append_cons]),
      ← List.append_cons]

variable {dialog : Dialog} {area : Rect}

/-- A rectangle has no room for the column and one more cell exactly when it is empty, or some
button is as wide as it is. -/
theorem noRoom_iff (inside : Rect) :
    (inside.isEmpty || inside.width ≤ buttonWidth dialog.buttons) = true ↔
      inside.isEmpty = true ∨ ∃ label ∈ dialog.buttons, inside.width ≤ label.length + 2 := by
  obtain ⟨reached, others⟩ := buttonWidth_spec dialog.buttons
  rw [Bool.or_eq_true, decide_eq_true_eq]
  constructor
  · rintro (empty | narrow)
    · exact .inl empty
    · obtain ⟨-, none⟩ | ⟨label, member, widest⟩ := reached
      · exact .inl ((Rect.isEmpty_iff inside).mpr (.inl (none ▸ narrow)))
      · exact .inr ⟨label, member, widest ▸ narrow⟩
  · rintro (empty | ⟨label, member, narrow⟩)
    · exact .inl empty
    · exact .inr (Int.le_trans narrow (others label member))

/-- A dialog whose frame has room inside its border is arranged in the area. -/
theorem isArranged (dialog : Dialog) (area : Rect) {inside : Rect}
    (bordered : inside = (centered dialog.width dialog.height area).inner 1)
    (room : buttonWidth dialog.buttons < inside.width) :
    dialog.IsArranged area (centered dialog.width dialog.height area)
      (splitRight inside (buttonWidth dialog.buttons)).1
      (splitRight inside (buttonWidth dialog.buttons)).2
      (stackRows (splitRight inside (buttonWidth dialog.buttons)).2
        (dialog.buttons.map fun _ => buttonHeight)) := by
  have positive : 0 ≤ buttonWidth dialog.buttons := by
    obtain ⟨⟨-, none⟩ | ⟨label, -, widest⟩, -⟩ := buttonWidth_spec dialog.buttons <;> omega
  have columnWidth : (splitRight inside (buttonWidth dialog.buttons)).2.width =
      buttonWidth dialog.buttons := by
    dsimp only [splitRight]
    omega
  have heights_nonneg : ∀ height ∈ dialog.buttons.map fun _ => buttonHeight, 0 ≤ height := by
    intro height member
    obtain ⟨label, -, rfl⟩ := List.mem_map.mp member
    decide
  constructor
  case inside => exact centered_isInside _ _ _
  case width => rfl
  case height => rfl
  case leftRight =>
    simp only [centered, Rect.right]
    omega
  case topBottom =>
    simp only [centered, Rect.bottom]
    omega
  case tiled => exact bordered ▸ splitRight_isTiledBy _ _
  case contentWidth =>
    dsimp only [splitRight]
    omega
  case columnWidth => exact columnWidth.symm ▸ (buttonWidth_spec dialog.buttons).1
  case count => rw [length_stackRows, List.length_map]
  case button => exact fun index label row => isButtonRow (Int.le_of_eq columnWidth.symm)
  case disjoint => exact rowsFrom_disjoint heights_nonneg

/-- A dialog whose buttons differ from each other, and from the names of its frame and its form, is
laid out in an area unless its frame, which is in the middle of the area and no larger than it, has
no room inside the border for the widest button and one more cell. When it is laid out, its
rectangles are those of its frame, its form and its buttons, and these are arranged in the area. -/
theorem layout_arranges (distinct : dialog.buttons.Nodup)
    (unreserved : ∀ label ∈ dialog.buttons, label ≠ "frame" ∧ label ≠ "content") (area : Rect) :
    (dialog.layout area = none ↔
      let inside := (centered dialog.width dialog.height area).inner 1
      inside.isEmpty = true ∨ ∃ label ∈ dialog.buttons, inside.width ≤ label.length + 2) ∧
    ∀ areas, dialog.layout area = some areas →
      ∃ frame content column rows,
        areas = ("frame", frame) :: ("content", content) :: dialog.buttons.zip rows ∧
          dialog.IsArranged area frame content column rows := by
  constructor
  · rw [layout]
    dsimp only
    split
    · next noRoom => exact iff_of_true rfl ((noRoom_iff _).mp noRoom)
    · next room => exact iff_of_false nofun (mt (noRoom_iff _).mpr room)
  · intro areas laidOut
    rw [layout] at laidOut
    dsimp only at laidOut
    split at laidOut
    · cases laidOut
    · next room =>
      cases laidOut
      rw [Bool.or_eq_true, decide_eq_true_eq, not_or, Int.not_le] at room
      have arranged := isArranged dialog area rfl room.2
      refine ⟨_, _, _, _, Areas.sets_new ?_, arranged⟩
      have count : dialog.buttons.length ≤ (stackRows (splitRight
          ((centered dialog.width dialog.height area).inner 1) (buttonWidth dialog.buttons)).2
            (dialog.buttons.map fun _ => buttonHeight)).length := Nat.le_of_eq arranged.count.symm
      rw [List.map_append, List.map_fst_zip count]
      simp only [List.map_cons, List.map_nil, List.cons_append, List.nil_append, List.nodup_cons,
        List.mem_cons, not_or]
      exact ⟨⟨by decide, fun listed => (unreserved _ listed).1 rfl⟩,
        fun listed => (unreserved _ listed).2 rfl, distinct⟩

/-- A dialog that leaves its form one column is arranged in the middle of an area. Its second button
is below the end of the column. -/
theorem layout_arranges_narrow :
    let dialog := of "Edit" 11 4 ["Ok", "Cancel"] (.plain { name := "Port" }) none ignoreButton
    let area : Rect := ⟨0, 0, 50, 20⟩
    dialog.buttons.Nodup ∧ (∀ label ∈ dialog.buttons, label ≠ "frame" ∧ label ≠ "content") ∧
      dialog.layout area = some [("frame", ⟨19, 8, 11, 4⟩), ("content", ⟨20, 9, 1, 2⟩),
        ("Ok", ⟨21, 9, 8, 2⟩), ("Cancel", ⟨21, 12, 8, 0⟩)] ∧
      ∃ column, dialog.IsArranged area ⟨19, 8, 11, 4⟩ ⟨20, 9, 1, 2⟩ column
        [⟨21, 9, 8, 2⟩, ⟨21, 12, 8, 0⟩] := by
  intro dialog area
  have distinct : dialog.buttons.Nodup := by decide
  have unreserved : ∀ label ∈ dialog.buttons, label ≠ "frame" ∧ label ≠ "content" := by decide
  have laidOut : dialog.layout area = some [("frame", ⟨19, 8, 11, 4⟩), ("content", ⟨20, 9, 1, 2⟩),
      ("Ok", ⟨21, 9, 8, 2⟩), ("Cancel", ⟨21, 12, 8, 0⟩)] := by
    decide
  obtain ⟨frame, content, column, rows, areas, arranged⟩ :=
    (layout_arranges distinct unreserved area).2 _ laidOut
  obtain ⟨first, second, rfl⟩ := List.length_eq_two.mp arranged.count
  cases areas
  exact ⟨distinct, unreserved, laidOut, column, arranged⟩

end Dialog

end NodeConsole.Form
