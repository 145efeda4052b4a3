import NodeConsole.Proofs.Files.Selection
import NodeConsole.Proofs.Files.Watcher

/-!
# Changes told once

The state of a directory is the list of the files that a watcher sees in it, each with its time. A
scan tells what makes one state from the one before, in order of change (`Tells`), so scans of one
state after another tell every change once. Who takes over what all of them told knows the files
that are there now: `scanEach_tells`.
-/

namespace NodeConsole.Files

/-! ## Order of change -/

/-- A file was changed before another; of two that were changed at once, its text comes first. -/
def Seen.InOrder (first second : Seen) : Prop :=
  first.time < second.time ∨ first.time = second.time ∧ first.path.text ≤ second.path.text

/-- Files are compared by the order of change. -/
theorem Seen.le_iff {first second : Seen} : first.le second = true ↔ first.InOrder second := by
  rw [le, Bool.or_eq_true, Bool.and_eq_true, decide_eq_true_eq, decide_eq_true_eq,
    Bool.not_eq_true', decide_eq_false_iff_not, String.not_lt]
  rfl

/-- The order of change can be followed. -/
theorem Seen.InOrder.trans {first second third : Seen} (earlier : first.InOrder second)
    (later : second.InOrder third) : first.InOrder third := by
  obtain before | ⟨atOnce, text⟩ := earlier <;> obtain next | ⟨nextAtOnce, nextText⟩ := later
  · exact .inl (Int.lt_trans before next)
  · exact .inl (nextAtOnce ▸ before)
  · exact .inl (atOnce ▸ next)
  · exact .inr ⟨atOnce.trans nextAtOnce, String.le_trans text nextText⟩

/-- Of two files one comes first. -/
theorem Seen.inOrder_total (first second : Seen) :
    first.InOrder second ∨ second.InOrder first := by
  obtain before | atOnce | after := Int.lt_trichotomy first.time second.time
  · exact .inl (.inl before)
  · obtain text | text := String.le_total first.path.text second.path.text
    · exact .inl (.inr ⟨atOnce, text⟩)
    · exact .inr (.inr ⟨atOnce.symm, text⟩)
  · exact .inr (.inl after)

/-- Files that are sorted are in order of change. -/
theorem pairwise_inOrder (files : List Seen) : (files.mergeSort Seen.le).Pairwise Seen.InOrder := by
  refine (List.pairwise_mergeSort (fun first second third => ?_) (fun first second => ?_) files).imp
    Seen.le_iff.mp
  · rw [Seen.le_iff, Seen.le_iff, Seen.le_iff]
    exact Seen.InOrder.trans
  · rw [Bool.or_eq_true, Seen.le_iff, Seen.le_iff]
    exact first.inOrder_total second

/-! ## One scan -/

/-- What is told of the step from one state of a directory to the next. -/
structure Tells (before now : List Seen) (changes : Changes) : Prop where
  /-- The changed files are those that are new or have another time, in order of change. -/
  changed : ∃ files : List Seen, changes.changed = files.map (·.path) ∧
    (∀ file, file ∈ files ↔ file ∈ now ∧ file ∉ before) ∧ files.Pairwise Seen.InOrder
  changedOnce : changes.changed.Nodup
  /-- The removed files are those that are gone. -/
  removed : ∀ path, path ∈ changes.removed ↔
    path ∈ before.map (·.path) ∧ path ∉ now.map (·.path)
  removedOnce : changes.removed.Nodup
  /-- Nothing is told of a directory that is as it was. -/
  quiet : (∀ file, file ∈ now ↔ file ∈ before) → changes = ⟨[], []⟩

/-- The files that are known after a scan: those that were, without the removed ones, and the
changed ones. -/
def Changes.known (files : List Path) (changes : Changes) : List Path :=
  files.filter (fun path => path ∉ changes.removed ∧ path ∉ changes.changed) ++ changes.changed

/-- Scans of states one after another, from a state on. -/
inductive TellEach : List Seen → List (List Seen) → List Changes → Prop
  | none {before : List Seen} : TellEach before [] []
  | scan {before now : List Seen} {later : List (List Seen)} {changes : Changes}
      {others : List Changes} (tells : Tells before now changes)
      (rest : TellEach now later others) : TellEach before (now :: later) (changes :: others)

namespace Watcher

variable {source watcher : Watcher} {tree : Tree} {trees earlier : List Tree}
  {before now : List Seen} {changes : Changes}

/-- A file that is remembered once is remembered with its time. -/
theorem time?_eq_some_iff (once : (watcher.seen.map (·.path)).Nodup) {file : Seen} :
    watcher.time? file.path = some file.time ↔ file ∈ watcher.seen := by
  constructor
  · intro remembered
    obtain ⟨other, found, sameTime⟩ := Option.map_eq_some_iff.mp remembered
    have samePath : other.path = file.path := by simpa using List.find?_some found
    have same : other = file := by
      rw [Seen.mk.injEq]
      exact ⟨samePath, sameTime⟩
    rw [← same]
    exact List.mem_of_find?_eq_some found
  · intro member
    refine time?_of_mem member fun other otherMember samePath => ?_
    rw [List.inj_on_of_nodup_map once otherMember member samePath]

/-- Comparing a state with the one that is remembered tells the step between them. -/
theorem tells_compare (once : (watcher.seen.map (·.path)).Nodup)
    (onceNow : (now.map (·.path)).Nodup) : Tells watcher.seen now (watcher.compare now) := by
  let files := (now.filter fun file => watcher.time? file.path ≠ some file.time).mergeSort Seen.le
  have mem_files (file : Seen) : file ∈ files ↔ file ∈ now ∧ file ∉ watcher.seen := by
    rw [List.mem_mergeSort, List.mem_filter, decide_eq_true_eq, Ne, time?_eq_some_iff once]
  have removed (path : Path) : path ∈ (watcher.compare now).removed ↔
      path ∈ watcher.seen.map (·.path) ∧ path ∉ now.map (·.path) := by
    simp only [compare, List.mem_map, List.mem_filter, List.all_eq_true, decide_eq_true_eq]
    constructor
    · rintro ⟨file, ⟨member, gone⟩, rfl⟩
      refine ⟨⟨file, member, rfl⟩, ?_⟩
      rintro ⟨other, seen, same⟩
      exact gone other seen same
    · rintro ⟨⟨file, member, rfl⟩, gone⟩
      exact ⟨file, ⟨member, fun other seen same => gone ⟨other, seen, same⟩⟩, rfl⟩
  constructor
  case changed => exact ⟨files, rfl, mem_files, pairwise_inOrder _⟩
  case changedOnce =>
    refine ((List.mergeSort_perm ..).map _).nodup_iff.mpr ?_
    exact onceNow.sublist (List.filter_sublist.map _)
  case removed => exact removed
  case removedOnce => exact once.sublist (List.filter_sublist.map _)
  case quiet =>
    intro same
    have none : files = [] := by
      refine List.eq_nil_iff_forall_not_mem.mpr fun file isChanged => ?_
      obtain ⟨seen, new⟩ := (mem_files file).mp isChanged
      exact new ((same file).mp seen)
    have noneGone : (watcher.compare now).removed = [] := by
      refine List.eq_nil_iff_forall_not_mem.mpr fun path gone => ?_
      obtain ⟨known, absent⟩ := (removed path).mp gone
      obtain ⟨file, member, rfl⟩ := List.mem_map.mp known
      exact absent (List.mem_map_of_mem ((same file).mpr member))
    calc watcher.compare now
        = ⟨files.map (·.path), (watcher.compare now).removed⟩ := rfl
      _ = ⟨[], []⟩ := by rw [none, noneGone, List.map_nil]

/-- A file is seen once. -/
theorem nodup_sightings (keyed : tree.IsKeyed) (source : Watcher) :
    ((source.sightings tree).map (·.path)).Nodup := by
  unfold sightings
  cases found : source.current tree with
  | error fault => exact .nil
  | ok seen =>
    obtain ⟨paths, selected, same⟩ := bind_eq_ok.mp found
    cases same
    have named (path other : Path) (given : other ∈ ((tree.file? path).map fun file =>
        (⟨path, file.2.1⟩ : Seen)).map (·.path)) : path = other := by
      rw [Option.map_map] at given
      obtain ⟨_, -, rfl⟩ := Option.map_eq_some_iff.mp given
      rfl
    refine (List.map_filterMap ..) ▸ List.Nodup.filterMap ?_ (nodup_resolve keyed selected)
    intro first second path isFirst isSecond
    rw [named first path isFirst, named second path isSecond]

/-! ## Scans one after another -/

/-- Scans trees one after another, each with what is remembered of the one before. -/
def scanEach (watcher : Watcher) : List Tree → Except PatternFault (List Changes)
  | [] => .ok []
  | tree :: rest => do
    let (changes, next) ← watcher.scan tree
    let others ← scanEach next rest
    pure (changes :: others)

/-- Scans with a usable pattern go through. -/
theorem scanEach_after (usable : IsUsable source.pattern) (keyed : ∀ tree ∈ trees, tree.IsKeyed)
    (once : ((source.after earlier).seen.map (·.path)).Nodup) :
    ∃ results, (source.after earlier).scanEach trees = .ok results ∧
      TellEach (source.after earlier).seen (trees.map source.sightings) results := by
  induction trees generalizing earlier with
  | nil => exact ⟨[], rfl, .none⟩
  | cons tree rest inductionHypothesis =>
    rw [List.forall_mem_cons] at keyed
    obtain ⟨now, found⟩ := (current_isOk_iff tree source).mpr usable
    have onceNow : ((source.after (tree :: earlier)).seen.map (·.path)).Nodup :=
      nodup_sightings keyed.1 source
    obtain ⟨others, scanned, tells⟩ := inductionHypothesis keyed.2 onceNow
    refine ⟨source.told tree earlier :: others, ?_, .scan (tells_compare once onceNow) tells⟩
    rw [scanEach]
    exact bind_eq_ok.mpr ⟨_, scan_of_current found, bind_eq_ok.mpr ⟨others, scanned, rfl⟩⟩

end Watcher

/-- Who knew the files before a scan knows them after it. -/
theorem Tells.mem_known {before now : List Seen} {changes : Changes}
    (tells : Tells before now changes) {files : List Path}
    (knew : ∀ path, path ∈ files ↔ path ∈ before.map (·.path)) (path : Path) :
    path ∈ changes.known files ↔ path ∈ now.map (·.path) := by
  obtain ⟨changed, same, mem_changed, -⟩ := tells.changed
  have known : path ∈ changes.known files ↔
      path ∈ changes.changed ∨ path ∈ before.map (·.path) ∧ path ∉ changes.removed := by
    simp only [Changes.known, List.mem_append, List.mem_filter, decide_eq_true_eq, knew]
    tauto
  rw [known, same, tells.removed]
  constructor
  · rintro (isChanged | ⟨was, notGone⟩)
    · obtain ⟨file, member, rfl⟩ := List.mem_map.mp isChanged
      exact List.mem_map_of_mem ((mem_changed file).mp member).1
    · exact Classical.not_not.mp fun absent => notGone ⟨was, absent⟩
  · intro isSeen
    obtain ⟨file, member, rfl⟩ := List.mem_map.mp isSeen
    by_cases was : file ∈ before
    · exact .inr ⟨List.mem_map_of_mem was, fun gone => gone.2 isSeen⟩
    · exact .inl (List.mem_map_of_mem ((mem_changed file).mpr ⟨member, was⟩))

/-- Who takes over what all scans tell knows the files of the last state. -/
theorem TellEach.mem_known {before : List Seen} {states : List (List Seen)}
    {results : List Changes} (tellEach : TellEach before states results) {files : List Path}
    (knew : ∀ path, path ∈ files ↔ path ∈ before.map (·.path)) (path : Path) :
    path ∈ results.foldl Changes.known files ↔
      path ∈ (states.getLast?.getD before).map (·.path) := by
  induction tellEach generalizing files with
  | none => exact knew path
  | scan tells rest inductionHypothesis =>
    rw [List.getLast?_cons]
    exact inductionHypothesis (tells.mem_known knew)

namespace Watcher

/-- A new watcher whose pattern is usable scans trees one after another, whatever they are. In each
it sees a file once; each scan tells the step from the state before, the first one from an empty
directory; and who takes over what all scans told knows the files that are there now. -/
theorem scanEach_tells {source : Watcher} (usable : IsUsable source.pattern) {trees : List Tree}
    (keyed : ∀ tree ∈ trees, tree.IsKeyed) :
    ∃ results, ({ source with seen := [] } : Watcher).scanEach trees = .ok results ∧
      (∀ tree ∈ trees, ((source.sightings tree).map (·.path)).Nodup) ∧
      TellEach [] (trees.map source.sightings) results ∧
      ∀ path, path ∈ results.foldl Changes.known [] ↔
        ∃ tree ∈ trees.getLast?, source.Sees tree path := by
  have onceFirst : ((source.after []).seen.map (·.path)).Nodup := List.nodup_nil
  obtain ⟨results, scanned, tellEach⟩ := scanEach_after usable keyed onceFirst
  have knew (path : Path) : path ∈ [] ↔ path ∈ (source.after []).seen.map (·.path) := Iff.rfl
  refine ⟨results, scanned, fun tree member => nodup_sightings (keyed tree member) source, tellEach,
    fun path => ?_⟩
  rw [tellEach.mem_known knew, List.getLast?_map]
  cases trees.getLast? with
  | none => exact ⟨nofun, nofun⟩
  | some tree => simp [Sees, after]

/-- A file is written, another one is written beside it, the first one is touched and the second
one is removed: all of it is told. -/
theorem scanEach_tells_removed :
    let source : Watcher := ⟨⟨"/", ["run"]⟩, "*.json", []⟩
    let written := (Tree.write {} ⟨"/", ["run", "a.json"]⟩ 1 []).tree
    let both := (written.write ⟨"/", ["run", "b.json"]⟩ 2 []).tree
    let touched := (both.touch ⟨"/", ["run", "a.json"]⟩ 3).tree
    let removed := (touched.remove ⟨"/", ["run", "b.json"]⟩).tree
    let trees := [written, both, touched, removed]
    IsUsable source.pattern ∧ ∃ results, source.scanEach trees = .ok results ∧
      TellEach [] (trees.map source.sightings) results ∧
      ∀ path, path ∈ results.foldl Changes.known [] ↔ source.Sees removed path := by
  intro source written both touched removed trees
  have usable : IsUsable source.pattern := by decide
  have keyedWritten : written.IsKeyed := Tree.isKeyed_empty.edit ..
  have keyedBoth : both.IsKeyed := keyedWritten.edit ..
  have keyedTouched : touched.IsKeyed := keyedBoth.touch ..
  have keyedRemoved : removed.IsKeyed := keyedTouched.remove _
  have keyed : ∀ tree ∈ trees, tree.IsKeyed := by
    simp only [trees, List.forall_mem_cons]
    exact ⟨keyedWritten, keyedBoth, keyedTouched, keyedRemoved, nofun⟩
  obtain ⟨results, scanned, -, tellEach, known⟩ := scanEach_tells usable keyed
  refine ⟨usable, results, scanned, tellEach, fun path => (known path).trans ?_⟩
  simp [trees]

end Watcher

end NodeConsole.Files
