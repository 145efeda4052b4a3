import NodeConsole.Proofs.Layout.Parts
import NodeConsole.Proofs.Paint.Integrity

/-!
# The extent of painting

Painting leaves the rows above and below the area that it stays in: `rows_performAll`. Lines that
are written into an empty rectangle leave everything. A rectangle that is cleared has to be inside
the area even if it is empty, since clearing repairs the wide characters at both of its ends.
-/

namespace NodeConsole.Paint

open NodeConsole.Layout

/-- A row is above or below an area. -/
def IsBeyond (row : Nat) (area : Rect) : Prop :=
  (row : Int) < area.y ∨ area.bottom ≤ row

namespace Frame

/-- An operation stays in an area. -/
def Operation.StaysIn (area : Rect) : Operation → Prop
  | .clear target => target.IsInside area
  | .render _ target => target.StaysIn area

variable {frame : Frame} {area : Rect} {row : Nat}

theorem length_modifyRows (y : Nat) (changes : List (List FrameCell → List FrameCell)) :
    (frame.modifyRows y changes).rows.length = frame.rows.length := by
  simp only [modifyRows, List.length_append, List.length_take, List.length_zipWith,
    List.length_drop]
  omega

/-- Changes to rows leave the rows above the first and below the last of them. -/
theorem rows_modifyRows {y : Nat} {changes : List (List FrameCell → List FrameCell)}
    (outside : row < y ∨ y + changes.length ≤ row) :
    (frame.modifyRows y changes).rows[row]? = frame.rows[row]? := by
  by_cases present : row < frame.rows.length
  · unfold modifyRows
    dsimp only
    obtain above | below := outside
    · rw [List.append_assoc, List.getElem?_append_left (by rw [List.length_take]; omega),
        List.getElem?_take_of_lt above]
    · have length : (frame.rows.take y ++ List.zipWith (fun change row => change row) changes
          ((frame.rows.drop y).take changes.length)).length = y + changes.length := by
        simp only [List.length_append, List.length_take, List.length_zipWith, List.length_drop]
        omega
      rw [List.getElem?_append_right (by omega), length, List.getElem?_drop]
      congr 1
      omega
  · have absent : (frame.modifyRows y changes).rows.length = frame.rows.length :=
      length_modifyRows y changes
    exact (List.getElem?_eq_none (by omega)).trans (List.getElem?_eq_none (by omega)).symm

/-- The row that a change is for. -/
theorem rows_modifyRows_of_change (frame : Frame) {y : Nat}
    {changes : List (List FrameCell → List FrameCell)} {change : List FrameCell → List FrameCell}
    (below : y ≤ row) (found : changes[row - y]? = some change) :
    (frame.modifyRows y changes).rows[row]? = frame.rows[row]?.map change := by
  have listed := (List.getElem?_eq_some_iff.mp found).1
  by_cases present : row < frame.rows.length
  · have shown : row - y < (List.zipWith (fun change row => change row) changes
        ((frame.rows.drop y).take changes.length)).length := by
      simp only [List.length_zipWith, List.length_take, List.length_drop]
      omega
    have front : (frame.rows.take y).length = y := List.length_take_of_le (by omega)
    unfold modifyRows
    dsimp only
    rw [List.append_assoc, List.getElem?_append_right (by omega), front,
      List.getElem?_append_left shown, List.getElem?_zipWith, found,
      List.getElem?_take_of_lt listed, List.getElem?_drop, Nat.add_sub_cancel' below,
      List.getElem?_eq_getElem present]
    rfl
  · have length : (frame.modifyRows y changes).rows.length = frame.rows.length :=
      length_modifyRows y changes
    rw [List.getElem?_eq_none (by omega), List.getElem?_eq_none (by omega)]
    rfl

theorem outside_of_isBeyond {target : Rect} (beyond : IsBeyond row area)
    (inside : target.IsInside area) (frame : Frame) {count : Nat}
    (shown : count ≤ (target.intersection frame.area).height.toNat) :
    row < (target.intersection frame.area).y.toNat ∨
      (target.intersection frame.area).y.toNat + count ≤ row := by
  obtain ⟨-, -, top, bottom⟩ := inside
  simp only [IsBeyond, Rect.intersection, Rect.bottom, Frame.area] at *
  omega

theorem isEmpty_intersection {target : Rect} (empty : target.isEmpty = true) (frame : Frame) :
    (target.intersection frame.area).isEmpty = true := by
  simp only [Rect.isEmpty_iff, Rect.intersection, Rect.right, Rect.bottom, Frame.area] at *
  omega

/-- An operation leaves the rows beyond the area that it stays in. -/
theorem rows_perform {operation : Operation} (stays : operation.StaysIn area)
    (beyond : IsBeyond row area) : (frame.perform operation).rows[row]? = frame.rows[row]? := by
  cases operation with
  | clear target =>
    refine rows_modifyRows (outside_of_isBeyond beyond stays frame ?_)
    exact Nat.le_of_eq List.length_replicate
  | render lines target =>
    unfold perform render
    dsimp only
    split
    · rfl
    · next shown =>
      obtain empty | inside := stays
      · exact absurd (isEmpty_intersection empty frame) shown
      · refine rows_modifyRows (outside_of_isBeyond beyond inside frame ?_)
        rw [List.length_map]
        exact List.length_take_le _ _

/-- Operations leave the rows beyond the area that they stay in. -/
theorem rows_performAll {operations : List Operation}
    (stay : ∀ operation ∈ operations, operation.StaysIn area) (beyond : IsBeyond row area) :
    (frame.performAll operations).rows[row]? = frame.rows[row]? := by
  induction operations generalizing frame with
  | nil => rfl
  | cons operation rest inductionHypothesis =>
    rw [List.forall_mem_cons] at stay
    exact (inductionHypothesis stay.2).trans (rows_perform stay.1 beyond)

end Frame

end NodeConsole.Paint
