import Mathlib.Data.List.Nodup
import NodeConsole.Files.Glob
import NodeConsole.Proofs.Files.Patterns
import NodeConsole.Proofs.Keyed

/-!
# Files that are selected once

A pattern can reach a directory in several ways, yet it selects every file once: `nodup_resolve`.
What it reaches is told apart by the names on the way, and the names in a directory differ. That
takes a tree with one entry for each place, which is what every change of a tree leaves.
-/

namespace NodeConsole.Files

/-! ## Trees with one entry for each place -/

namespace Tree

/-- A place has one entry. -/
def IsKeyed (tree : Tree) : Prop :=
  (tree.entries.map (·.1)).Nodup

instance (tree : Tree) : Decidable tree.IsKeyed :=
  inferInstanceAs (Decidable (List.Nodup _))

variable {tree : Tree} {path : Path} {time : Int}

theorem entries_set (tree : Tree) (place : Place) (entry : Occupant) :
    (tree.set place entry).entries = put tree.entries place entry := by
  rw [set, put]
  split <;> rfl

theorem isKeyed_empty : IsKeyed {} :=
  .nil

theorem IsKeyed.set (keyed : tree.IsKeyed) (place : Place) (entry : Occupant) :
    (tree.set place entry).IsKeyed := by
  rw [IsKeyed, entries_set]
  exact nodup_put keyed place entry

theorem IsKeyed.atOnce (keyed : tree.IsKeyed) {changed : Except Fault Tree}
    (each : ∀ next, changed = .ok next → next.IsKeyed) :
    (Attempt.atOnce tree path changed).tree.IsKeyed := by
  cases changed with
  | error fault => exact keyed
  | ok next => exact each next rfl

theorem IsKeyed.andThen {attempt : Attempt} (keyed : attempt.tree.IsKeyed)
    {next : Tree → Attempt} (each : ∀ tree : Tree, tree.IsKeyed → (next tree).tree.IsKeyed) :
    (attempt.andThen next).tree.IsKeyed := by
  rw [Attempt.andThen]
  split
  · exact keyed
  · exact each attempt.tree keyed

/-- Making a directory leaves one entry for each place. -/
theorem IsKeyed.makeOne (keyed : tree.IsKeyed) {next : Tree} (made : tree.makeOne path = .ok next) :
    next.IsKeyed := by
  obtain ⟨place, -, made⟩ := bind_eq_ok.mp made
  split at made
  · cases made
    exact keyed.set place .directory
  · cases made
    exact keyed
  · cases made

/-- Making a directory and those above it leaves one entry for each place. -/
theorem IsKeyed.makeDirectory (keyed : tree.IsKeyed) (path : Path) :
    (tree.makeDirectory path).tree.IsKeyed := by
  rw [Tree.makeDirectory]
  induction path.names.reverse with
  | nil => exact keyed
  | cons name above inductionHypothesis =>
    rw [makeUpward]
    split
    · exact inductionHypothesis.andThen fun tree keyed => keyed.atOnce fun next => keyed.makeOne
    · exact keyed.atOnce fun next => keyed.makeOne

/-- Changing a file leaves one entry for each place. -/
theorem IsKeyed.edit (keyed : tree.IsKeyed) (path : Path) (time : Int)
    (change : List UInt8 → List UInt8) : (tree.edit path time change).tree.IsKeyed := by
  refine (keyed.makeDirectory path.parent).andThen fun tree keyed => ?_
  refine keyed.atOnce fun next changed => ?_
  obtain ⟨place, -, changed⟩ := bind_eq_ok.mp changed
  rw [Tree.change] at changed
  split at changed
  · cases changed
  · cases changed
    exact keyed.set place _
  · cases changed
    exact keyed.set place _

/-- Setting the time of a file leaves one entry for each place. -/
theorem IsKeyed.touch (keyed : tree.IsKeyed) (path : Path) (time : Int) :
    (tree.touch path time).tree.IsKeyed := by
  refine (keyed.makeDirectory path.parent).andThen fun tree keyed => ?_
  refine keyed.atOnce fun next changed => ?_
  obtain ⟨place, -, changed⟩ := bind_eq_ok.mp changed
  split at changed
  · cases changed
    exact keyed.set place _
  · cases changed
    exact keyed

/-- Removing leaves one entry for each place. -/
theorem IsKeyed.remove (keyed : tree.IsKeyed) (path : Path) : (tree.remove path).tree.IsKeyed := by
  rw [Tree.remove]
  split
  · exact keyed
  · dsimp only
    split <;> exact keyed.sublist (List.filter_sublist.map _)

/-- The names in a directory differ. -/
theorem IsKeyed.nodup_names (keyed : tree.IsKeyed) (place : Place) : (tree.names place).Nodup := by
  let lastName (found : Place) : Option String :=
    if found.dropLast = place then found.getLast? else none
  have names : tree.names place = (tree.entries.map (·.1)).filterMap lastName := by
    rw [List.filterMap_map]
    rfl
  have whole (found : Place) (name : String) (last : name ∈ lastName found) :
      found = place ++ [name] := by
    obtain ⟨rfl, final⟩ := Option.ite_none_right_eq_some.mp last
    exact (List.dropLast_append_getLast? name final).symm
  rw [names]
  refine List.Nodup.filterMap (fun first second name isFirst isSecond => ?_) keyed
  rw [whole first name isFirst, whole second name isSecond]

end Tree

/-! ## What a pattern reaches -/

namespace Reached

variable {tree : Tree} {reached found : Reached}

/-- What some names lead to. -/
def onward (reached : Reached) (names : List String) : Reached :=
  names.foldl child reached

/-- The path that some names lead to. -/
theorem path_onward (reached : Reached) (names : List String) :
    (reached.onward names).path = ⟨reached.path.root, reached.path.names ++ names⟩ := by
  induction names generalizing reached with
  | nil => rw [List.append_nil]; rfl
  | cons name rest inductionHypothesis =>
    rw [List.append_cons]
    exact inductionHypothesis (reached.child name)

theorem onward_child_ne (reached : Reached) {first second : String} (differ : first ≠ second)
    (front back : List String) :
    (reached.child first).onward front ≠ (reached.child second).onward back := by
  intro same
  have paths := congrArg Reached.path same
  rw [path_onward, path_onward, Path.mk.injEq] at paths
  simp [child, Path.child, differ] at paths

/-- Directories below a directory are reached by names. -/
theorem exists_of_mem_directories {depth : Nat} (member : found ∈ directories tree depth reached) :
    ∃ names, found = reached.onward names := by
  induction depth generalizing reached with
  | zero => exact ⟨[], List.mem_singleton.mp member⟩
  | succ depth inductionHypothesis =>
    obtain rfl | below := List.mem_cons.mp member
    · exact ⟨[], rfl⟩
    · obtain ⟨child, isChild, inside⟩ := List.mem_flatMap.mp below
      obtain ⟨name, -, rfl⟩ := List.mem_map.mp isChild
      split at inside
      · obtain ⟨names, rfl⟩ := inductionHypothesis inside
        exact ⟨name :: names, rfl⟩
      · cases inside

theorem select_exactly (tree : Tree) (name : String) (rest : List Selector)
    (directoriesOnly : Bool) (reached : Reached) :
    select tree (.exactly name :: rest) directoriesOnly reached =
        select tree rest directoriesOnly (reached.child name) ∨
      select tree (.exactly name :: rest) directoriesOnly reached = [] :=
  ite_eq_or_eq ..

/-- A part with wildcards goes on from some children of the directory. -/
theorem select_matching (tree : Tree) (pattern : String) (rest : List Selector)
    (directoriesOnly : Bool) (reached : Reached) :
    ∃ children : List Reached, children.Sublist ((tree.names reached.place).map reached.child) ∧
      select tree (.matching pattern :: rest) directoriesOnly reached =
        children.flatMap (select tree rest directoriesOnly) := by
  refine ⟨_, ?_, rfl⟩
  have matching : (((tree.names reached.place).filter (matchesPattern pattern)).map
      reached.child).Sublist ((tree.names reached.place).map reached.child) :=
    List.filter_sublist.map _
  split
  · exact matching
  · exact List.filter_sublist.trans matching

/-- What a pattern selects is reached by names. -/
theorem exists_of_mem_select {selectors : List Selector} {directoriesOnly : Bool}
    (member : found ∈ select tree selectors directoriesOnly reached) :
    ∃ names, found = reached.onward names := by
  induction selectors generalizing reached with
  | nil => exact ⟨[], List.mem_singleton.mp member⟩
  | cons selector rest inductionHypothesis =>
    cases selector with
    | exactly name =>
      obtain same | none := select_exactly tree name rest directoriesOnly reached
      · rw [same] at member
        obtain ⟨names, rfl⟩ := inductionHypothesis member
        exact ⟨name :: names, rfl⟩
      · rw [none] at member
        cases member
    | matching pattern =>
      obtain ⟨children, chosen, same⟩ := select_matching tree pattern rest directoriesOnly reached
      rw [same] at member
      obtain ⟨child, isChild, inside⟩ := List.mem_flatMap.mp member
      obtain ⟨name, -, rfl⟩ := List.mem_map.mp (chosen.subset isChild)
      obtain ⟨names, rfl⟩ := inductionHypothesis inside
      exact ⟨name :: names, rfl⟩
    | anyDepth =>
      rw [select, List.mem_eraseDups] at member
      obtain ⟨directory, isBelow, inside⟩ := List.mem_flatMap.mp member
      obtain ⟨above, rfl⟩ := exists_of_mem_directories isBelow
      obtain ⟨names, rfl⟩ := inductionHypothesis inside
      exact ⟨above ++ names, List.foldl_append.symm⟩

/-- Striking out repetitions leaves none. -/
theorem nodup_eraseDups {α : Type} [BEq α] [LawfulBEq α] (items : List α) :
    items.eraseDups.Nodup := by
  match items with
  | [] => exact .nil
  | item :: rest =>
    rw [List.eraseDups_cons, List.nodup_cons, List.mem_eraseDups]
    exact ⟨by simp, nodup_eraseDups _⟩
  termination_by items.length
  decreasing_by exact Nat.lt_succ_of_le (List.length_filter_le ..)

/-- A pattern selects nothing twice. -/
theorem nodup_select (keyed : tree.IsKeyed) (selectors : List Selector) (directoriesOnly : Bool)
    (reached : Reached) : (select tree selectors directoriesOnly reached).Nodup := by
  induction selectors generalizing reached with
  | nil => exact List.nodup_singleton reached
  | cons selector rest inductionHypothesis =>
    cases selector with
    | exactly name =>
      obtain same | none := select_exactly tree name rest directoriesOnly reached
      · rw [same]
        exact inductionHypothesis (reached.child name)
      · rw [none]
        exact .nil
    | matching pattern =>
      obtain ⟨children, chosen, same⟩ := select_matching tree pattern rest directoriesOnly reached
      rw [same, List.nodup_flatMap]
      refine ⟨fun child _ => inductionHypothesis child, List.Pairwise.sublist chosen ?_⟩
      -- Names of one directory differ, so what lies below them does.
      refine List.pairwise_map.mpr ((keyed.nodup_names reached.place).imp fun differ => ?_)
      rintro found isFirst isSecond
      obtain ⟨front, rfl⟩ := exists_of_mem_select isFirst
      obtain ⟨back, same⟩ := exists_of_mem_select isSecond
      exact onward_child_ne reached differ front back same
    | anyDepth => exact nodup_eraseDups _

/-- The paths that a pattern selects differ. -/
theorem nodup_paths_select (keyed : tree.IsKeyed) (selectors : List Selector)
    (directoriesOnly : Bool) (reached : Reached) :
    ((select tree selectors directoriesOnly reached).map (·.path)).Nodup := by
  refine List.Nodup.map_on (fun first isFirst second isSecond same => ?_)
    (nodup_select keyed selectors directoriesOnly reached)
  obtain ⟨front, rfl⟩ := exists_of_mem_select isFirst
  obtain ⟨back, rfl⟩ := exists_of_mem_select isSecond
  rw [path_onward, path_onward, Path.mk.injEq, List.append_cancel_left_eq] at same
  rw [same.2]

end Reached

/-- What a pattern reaches below a directory, it reaches once. -/
theorem nodup_globBelow {tree : Tree} (keyed : tree.IsKeyed) {base : Path} {pattern : String}
    {reached : List Reached} (found : globBelow tree base pattern = .ok reached) :
    (reached.map (·.path)).Nodup := by
  obtain ⟨⟨selectors, directoriesOnly⟩, -, selected⟩ := bind_eq_ok.mp found
  dsimp only at selected
  split at selected
  · split at selected
    · cases selected
      exact Reached.nodup_paths_select keyed ..
    · cases selected
      exact .nil
  · cases selected
    exact .nil

/-- A pattern selects every file once. -/
theorem nodup_resolve {tree : Tree} (keyed : tree.IsKeyed) {base : Path} {pattern : String}
    {paths : List Path} (selected : resolve tree base pattern = .ok paths) : paths.Nodup := by
  rw [resolve_eq] at selected
  obtain ⟨reached, found, rfl⟩ := map_eq_ok.mp selected
  have once : (reached.map (·.path)).Nodup := by
    split at found
    · exact nodup_globBelow keyed found
    · exact nodup_globBelow keyed found
  rw [filesAmong, (List.mergeSort_perm ..).nodup_iff]
  exact once.sublist (List.filter_sublist.map _)

end NodeConsole.Files
