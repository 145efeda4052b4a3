import NodeConsole.Files.Watcher
import NodeConsole.Proofs.Files.Patterns

/-!
# What scans tell

A scan tells the files whose times differ from those of the scan before, and remembers what it saw
at once. A second scan of a tree that nobody touched therefore tells nothing, whatever became of the
files that the first one told.
-/

namespace NodeConsole.Files

theorem resolve_of_relative {tree : Tree} {base : Path} {pattern : String} {reached : List Reached}
    (relative : (Path.ofText pattern).isAbsolute = false)
    (found : (globBelow tree base pattern).toOption = some reached) :
    resolve tree base pattern =
      .ok (((reached.filter fun found => tree.isFile found.place).map (·.path)).mergeSort
        Path.le) := by
  simp only [resolve, relative, eq_ok_of_toOption found]
  rfl

namespace Watcher

variable {tree : Tree} {watcher next : Watcher} {changes : Changes}

/-- The changed files are those that are seen now and were not seen, or not at that time, before. -/
theorem mem_changed {now : List Seen} {path : Path} :
    path ∈ (watcher.compare now).changed ↔
      ∃ time, ⟨path, time⟩ ∈ now ∧ watcher.time? path ≠ some time := by
  simp only [compare, List.mem_map, List.mem_mergeSort, List.mem_filter, decide_eq_true_eq]
  constructor
  · rintro ⟨⟨_, time⟩, changed, rfl⟩
    exact ⟨time, changed⟩
  · rintro ⟨time, changed⟩
    exact ⟨⟨path, time⟩, changed, rfl⟩

theorem scan_eq_ok :
    watcher.scan tree = .ok (changes, next) ↔
      ∃ now, watcher.current tree = .ok now ∧ changes = watcher.compare now ∧
        next = { watcher with seen := now } := by
  cases outcome : watcher.current tree with
  | error fault => simp [scan, outcome, Bind.bind, Except.bind]
  | ok now =>
    simp [scan, outcome, Bind.bind, Except.bind, Pure.pure, Except.pure, eq_comm]

/-- A watcher sees the files of now exactly when its pattern is usable. -/
theorem current_isOk_iff (tree : Tree) (watcher : Watcher) :
    (∃ now, watcher.current tree = .ok now) ↔ IsUsable watcher.pattern := by
  have current : watcher.current tree = (resolve tree watcher.base watcher.pattern).map fun paths =>
      paths.filterMap fun path => (tree.file? path).map fun file => ⟨path, file.2.1⟩ := rfl
  rw [current, map_isOk_iff, resolve_isOk_iff]

/-- A watcher scans exactly when its pattern is usable. -/
theorem scan_isOk_iff (watcher : Watcher) (tree : Tree) :
    (∃ found, watcher.scan tree = .ok found) ↔ IsUsable watcher.pattern := by
  have scan : watcher.scan tree = (watcher.current tree).map fun now =>
      (watcher.compare now, { watcher with seen := now }) := rfl
  rw [scan, map_isOk_iff, current_isOk_iff]

/-- The files of now are seen at the times that the tree gives them. -/
theorem time_of_mem_current {now : List Seen} (found : watcher.current tree = .ok now)
    {file : Seen} (member : file ∈ now) :
    (tree.file? file.path).map (·.2.1) = some file.time := by
  cases outcome : resolve tree watcher.base watcher.pattern with
  | error fault => simp [current, outcome, Bind.bind, Except.bind] at found
  | ok paths =>
    obtain rfl : paths.filterMap
        (fun path => (tree.file? path).map fun file => ⟨path, file.2.1⟩) = now := by
      simpa [current, outcome, Bind.bind, Except.bind, Pure.pure, Except.pure] using found
    obtain ⟨path, -, seen⟩ := List.mem_filterMap.mp member
    obtain ⟨content, held, rfl⟩ := Option.map_eq_some_iff.mp seen
    rw [held]
    rfl

/-- A file that was seen has the time at which it was seen, however often it was. -/
theorem time?_of_mem {file : Seen} (member : file ∈ watcher.seen)
    (same : ∀ other ∈ watcher.seen, other.path = file.path → other.time = file.time) :
    watcher.time? file.path = some file.time := by
  unfold time?
  cases first : watcher.seen.find? (·.path = file.path) with
  | none => simpa using List.find?_eq_none.mp first file member
  | some other =>
    have samePath : other.path = file.path := by simpa using List.find?_some first
    rw [Option.map_some, same other (List.mem_of_find?_eq_some first) samePath]

/-- A second scan of the same tree tells nothing. -/
theorem scan_again (scanned : watcher.scan tree = .ok (changes, next)) :
    next.scan tree = .ok (⟨[], []⟩, next) := by
  obtain ⟨now, found, -, rfl⟩ := scan_eq_ok.mp scanned
  refine scan_eq_ok.mpr ⟨now, found, ?_, rfl⟩
  have seenNow (file : Seen) (member : file ∈ now) :
      { watcher with seen := now }.time? file.path = some file.time := by
    refine time?_of_mem member fun other otherMember samePath => ?_
    have otherTime := time_of_mem_current found otherMember
    rw [samePath, time_of_mem_current found member] at otherTime
    exact (Option.some.inj otherTime).symm
  have unchanged : (now.filter fun file =>
      { watcher with seen := now }.time? file.path ≠ some file.time) = [] := by
    simpa using seenNow
  have present : (now.filter fun file => now.all (·.path ≠ file.path)) = [] := by
    simpa using fun file member => ⟨file, member, rfl⟩
  simp only [compare, unchanged, present]
  simp

end Watcher

end NodeConsole.Files

/-!
## Histories of scans

A watcher scans one tree after another. A history lists the trees that it has scanned, the latest
first. The watcher remembers no more than what it saw in the latest one (`after`), so the tree that
is scanned and the history before it say which files the scan tells as changed and which as removed:
`scan_after`, `mem_told_changed` and `mem_told_removed`.
-/

namespace NodeConsole.Files.Watcher

/-- The files that a watcher sees in a tree; none if its pattern is refused. -/
def sightings (source : Watcher) (tree : Tree) : List Seen :=
  (source.current tree).toOption.getD []

/-- A watcher once it has scanned the trees of a history. -/
def after (source : Watcher) : List Tree → Watcher
  | [] => { source with seen := [] }
  | tree :: _ => { source with seen := source.sightings tree }

/-- What a scan of a tree tells after a history. -/
def told (source : Watcher) (tree : Tree) (earlier : List Tree) : Changes :=
  (source.after earlier).compare (source.sightings tree)

/-- A file is seen in a tree. -/
def Sees (source : Watcher) (tree : Tree) (path : Path) : Prop :=
  ∃ file ∈ source.sightings tree, file.path = path

/-- A file is seen in the latest tree of a history. -/
def SeesLast (source : Watcher) : List Tree → Path → Prop
  | [], _ => False
  | tree :: _, path => source.Sees tree path

/-- A file is seen in a tree, and it was not, or was changed at another time, in the latest tree
before. -/
def Notices (source : Watcher) (tree : Tree) (earlier : List Tree) (path : Path) : Prop :=
  ∃ time, ⟨path, time⟩ ∈ source.sightings tree ∧ (source.after earlier).time? path ≠ some time

/-- A file is not seen in a tree, and it was in the latest tree before. -/
def Loses (source : Watcher) (tree : Tree) (earlier : List Tree) (path : Path) : Prop :=
  source.SeesLast earlier path ∧ ¬source.Sees tree path

variable {source : Watcher} {tree : Tree} {earlier : List Tree} {path : Path}

theorem Notices.sees (notices : source.Notices tree earlier path) : source.Sees tree path := by
  obtain ⟨time, seen, -⟩ := notices
  exact ⟨_, seen, rfl⟩

/-- What a watcher remembers is what it saw last. -/
theorem seesLast_iff :
    source.SeesLast earlier path ↔ ∃ file ∈ (source.after earlier).seen, file.path = path := by
  cases earlier with
  | nil => exact ⟨nofun, nofun⟩
  | cons tree earlier => exact Iff.rfl

theorem current_after (source : Watcher) (earlier : List Tree) (tree : Tree) :
    (source.after earlier).current tree = source.current tree := by
  cases earlier <;> rfl

theorem sightings_of_current {now : List Seen} (found : source.current tree = .ok now) :
    source.sightings tree = now := by
  unfold sightings
  rw [found]
  rfl

theorem seen_after {now : List Seen} (found : source.current tree = .ok now) :
    (source.after (tree :: earlier)).seen = now :=
  sightings_of_current found

/-- A scan extends the history. -/
theorem scan_after {changes : Changes} {next : Watcher}
    (scanned : (source.after earlier).scan tree = .ok (changes, next)) :
    changes = source.told tree earlier ∧ next = source.after (tree :: earlier) := by
  obtain ⟨now, found, rfl, rfl⟩ := scan_eq_ok.mp scanned
  rw [current_after] at found
  obtain rfl := sightings_of_current found
  cases earlier <;> exact ⟨rfl, rfl⟩

theorem scan_of_current {now : List Seen} (found : source.current tree = .ok now) :
    (source.after earlier).scan tree =
      .ok (source.told tree earlier, source.after (tree :: earlier)) := by
  rw [← current_after source earlier] at found
  have scanned := scan_eq_ok.mpr ⟨now, found, rfl, rfl⟩
  obtain ⟨changes, next⟩ := scan_after scanned
  rwa [changes, next] at scanned

/-- The changed files are those that are noticed. -/
theorem mem_told_changed :
    path ∈ (source.told tree earlier).changed ↔ source.Notices tree earlier path :=
  mem_changed

/-- The removed files are those that are lost. -/
theorem mem_told_removed :
    path ∈ (source.told tree earlier).removed ↔ source.Loses tree earlier path := by
  have absent : (source.sightings tree).all (·.path ≠ path) = true ↔ ¬source.Sees tree path := by
    simp only [Sees, List.all_eq_true, decide_eq_true_eq, not_exists, not_and]
  unfold Loses
  rw [seesLast_iff, ← absent]
  simp only [told, compare, List.mem_map, List.mem_filter]
  constructor
  · rintro ⟨file, ⟨seen, gone⟩, rfl⟩
    exact ⟨⟨file, seen, rfl⟩, gone⟩
  · rintro ⟨⟨file, seen, rfl⟩, gone⟩
    exact ⟨file, ⟨seen, gone⟩, rfl⟩

theorem told_removed_eq_nil :
    (source.told tree earlier).removed = [] ↔ ∀ path, ¬source.Loses tree earlier path := by
  simp only [List.eq_nil_iff_forall_not_mem, mem_told_removed]

theorem told_of_ordered {before now noticed : List Seen}
    (last : (source.after earlier).seen = before) (seen : source.sightings tree = now)
    (differ : (now.filter fun file =>
      (before.find? (·.path = file.path)).map (·.time) ≠ some file.time) = noticed)
    (ordered : noticed.Pairwise fun left right => Seen.le left right = true) :
    source.told tree earlier = ⟨noticed.map (·.path),
      (before.filter fun file => now.all (·.path ≠ file.path)).map (·.path)⟩ := by
  unfold told compare time?
  dsimp only
  rw [last, seen, differ, List.mergeSort_of_pairwise ordered]

end NodeConsole.Files.Watcher
