import NodeConsole.Collector.Pass
import NodeConsole.Proofs.Collector.Isolation
import NodeConsole.Proofs.Files.Patterns
import NodeConsole.Proofs.KernelLog.Delivery
import NodeConsole.Proofs.Steps

/-!
# Passes that go through

A pass over collectors goes through when each of them can be polled. Where all files hold messages,
that depends on the patterns, and on the kernel log, which must not turn out to be a directory when
it is opened. A reader opens its log once, so the first pass decides for all that follow:
`passes_goThrough_iff`.
-/

namespace NodeConsole

open NodeConsole.Files NodeConsole.Device

/-! ## Readers of the kernel log -/

namespace KernelLog

/-- A path can be that of a log: it can be handed over, and what stands there, if anything does, is
a file. -/
def CanBeLog (tree : Tree) (path : Path) : Prop :=
  '\x00' ∉ path.text.toList ∧ ∀ place, tree.locate path = .ok place → tree.isFile place = true

namespace Reader

variable {reader : Reader} {tree : Tree}

/-- A reader has opened its log, and did not find a directory, or has given it up. -/
def IsSettled (reader : Reader) : Prop :=
  reader.state ≠ .unopened ∧ reader.state ≠ .onDirectory

/-- A reader can go on: it is settled, or is to open what can be a log. -/
def IsReadable (tree : Tree) (reader : Reader) : Prop :=
  reader.IsSettled ∨ reader.state = .unopened ∧ CanBeLog tree reader.path

/-- What reading gives: lines, or the news that there is no log. -/
def Reads (outcome : Except ReadFault (List (List Char))) : Prop :=
  (∃ lines, outcome = .ok lines) ∨ ∃ fault, outcome = .error (.cannotOpen fault)

theorem isSettled_following (path : Path) (id position : Nat) (unfinished : List UInt8) :
    IsSettled ⟨path, .following id position unfinished⟩ := by
  constructor <;> rintro ⟨⟩

theorem isSettled_stopped (path : Path) : IsSettled ⟨path, .stopped⟩ := by
  constructor <;> rintro ⟨⟩

/-- A settled reader reads, and stays settled. -/
theorem IsSettled.reads (settled : reader.IsSettled) (tree : Tree) :
    Reads (reader.read tree).2 ∧ (reader.read tree).1.IsSettled := by
  obtain ⟨path, state⟩ := reader
  cases state with
  | unopened => exact absurd rfl settled.1
  | onDirectory => exact absurd rfl settled.2
  | following id position unfinished => exact ⟨.inl ⟨_, rfl⟩, isSettled_following ..⟩
  | stopped => exact ⟨.inl ⟨_, rfl⟩, isSettled_stopped path⟩

theorem not_reads_onDirectory (path : Path) (tree : Tree) :
    ¬Reads (Reader.read tree ⟨path, .onDirectory⟩).2 := by
  rintro (⟨_, ⟨⟩⟩ | ⟨_, ⟨⟩⟩)

theorem read_of_openLog {path : Path} {state : State} (opened : openLog tree path = .ok state)
    (isOpen : state ≠ .unopened) :
    Reader.read tree ⟨path, .unopened⟩ = Reader.read tree ⟨path, state⟩ := by
  rw [Reader.read, Reader.read, opened]
  cases state with
  | unopened => exact absurd rfl isOpen
  | _ => rfl

/-- Opening what stands at a path follows a file; anything else is a directory. -/
theorem openLog_cases {path : Path} {place : Place} (located : tree.locate path = .ok place) :
    (tree.isFile place = true ∧ ∃ id, openLog tree path = .ok (.following id 0 [])) ∨
      (tree.isFile place = false ∧ openLog tree path = .ok .onDirectory) := by
  rw [openLog, located, Tree.isFile]
  dsimp only
  cases tree.entry? place with
  | none => exact .inr ⟨rfl, rfl⟩
  | some found =>
    cases found with
    | directory => exact .inr ⟨rfl, rfl⟩
    | file id time => exact .inl ⟨rfl, id, rfl⟩

theorem canBeLog_of_fault {path : Path} {fault : Fault}
    (refused : tree.locate path = .error fault) : CanBeLog tree path ↔ fault ≠ .nulInPath := by
  rw [CanBeLog, ← Tree.locate_eq_nulInPath, refused]
  constructor
  · exact fun can same => can.1 (congrArg _ same)
  · exact fun other => ⟨fun same => other (Except.error.inj same), nofun⟩

theorem canBeLog_of_place {path : Path} {place : Place} (located : tree.locate path = .ok place) :
    CanBeLog tree path ↔ tree.isFile place = true := by
  rw [CanBeLog, ← Tree.locate_eq_nulInPath, located, and_iff_right nofun]
  exact ⟨fun isFile => isFile place rfl, fun isFile _ found => Except.ok.inj found ▸ isFile⟩

/-- Opening a path reads exactly when it can be that of a log, and then settles the reader. -/
theorem reads_opening_iff (tree : Tree) (path : Path) :
    (Reads (Reader.read tree ⟨path, .unopened⟩).2 ↔ CanBeLog tree path) ∧
      (CanBeLog tree path → (Reader.read tree ⟨path, .unopened⟩).1.IsSettled) := by
  cases located : tree.locate path with
  | error fault =>
    rw [canBeLog_of_fault located]
    by_cases nul : fault = .nulInPath
    · subst nul
      rw [read_of_nul (Tree.locate_eq_nulInPath.mp located) tree]
      refine ⟨iff_of_false ?_ (fun other => other rfl), fun other => absurd rfl other⟩
      rintro (⟨_, ⟨⟩⟩ | ⟨_, ⟨⟩⟩)
    · have given : Reader.read tree ⟨path, .unopened⟩ =
          (⟨path, .stopped⟩, .error (.cannotOpen fault)) := by
        cases fault <;> simp_all [Reader.read, openLog]
      rw [given]
      exact ⟨iff_of_true (.inr ⟨fault, rfl⟩) nul, fun _ => isSettled_stopped path⟩
  | ok place =>
    rw [canBeLog_of_place located]
    obtain ⟨isFile, id, opened⟩ | ⟨noFile, opened⟩ := openLog_cases located
    · have settled := isSettled_following path id 0 []
      obtain ⟨reads, stays⟩ := settled.reads tree
      rw [read_of_openLog opened settled.1]
      exact ⟨iff_of_true reads isFile, fun _ => stays⟩
    · rw [read_of_openLog opened (by decide), noFile]
      exact ⟨iff_of_false (not_reads_onDirectory path tree) Bool.false_ne_true,
        fun isFile => absurd isFile Bool.false_ne_true⟩

/-- A reader reads exactly when it can go on, and is settled then. -/
theorem reads_iff (reader : Reader) (tree : Tree) :
    (Reads (reader.read tree).2 ↔ reader.IsReadable tree) ∧
      (reader.IsReadable tree → (reader.read tree).1.IsSettled) := by
  by_cases settled : reader.IsSettled
  · obtain ⟨reads, stays⟩ := settled.reads tree
    exact ⟨iff_of_true reads (.inl settled), fun _ => stays⟩
  · obtain ⟨path, state⟩ := reader
    cases state with
    | unopened =>
      have same : IsReadable tree ⟨path, .unopened⟩ ↔ CanBeLog tree path := by
        simp [IsReadable, settled]
      rw [same]
      exact reads_opening_iff tree path
    | onDirectory =>
      have stopped : ¬IsReadable tree ⟨path, .onDirectory⟩ := by simp [IsReadable, settled]
      exact ⟨iff_of_false (not_reads_onDirectory path tree) stopped, fun can => absurd can stopped⟩
    | following id position unfinished => exact absurd (isSettled_following ..) settled
    | stopped => exact absurd (isSettled_stopped path) settled

/-- Reading leaves the path of a reader as it is. -/
theorem path_read (reader : Reader) (tree : Tree) : (reader.read tree).1.path = reader.path := by
  rw [Reader.read]
  split
  · rfl
  · rfl
  · split <;> rfl

end Reader

end KernelLog

namespace Collector

open NodeConsole.KernelLog NodeConsole.Wire

variable {Message : Type} {tree : Tree} {watcher next : Watcher} {changes : Changes}
  {collector : Collector} {collectors : List Collector}

/-! ## Origins -/

/-- What a collector reads, whatever it remembers. -/
inductive Origin where
  | status (topic : StatusTopic) (base : Path) (pattern : String)
  | apps (base : Path) (pattern : String)
  | kernelLog (path : Path)
  deriving DecidableEq, Repr

/-- What a collector reads. -/
def origin : Collector → Origin
  | status topic watcher => .status topic watcher.base watcher.pattern
  | apps watcher _ => .apps watcher.base watcher.pattern
  | kernelLog reader => .kernelLog reader.path

/-- The files that a pattern selects all hold messages. -/
def HoldMessages (read : Value → Reading Message) (tree : Tree) (base : Path) (pattern : String) :
    Prop :=
  ∀ paths, resolve tree base pattern = .ok paths →
    ∀ path ∈ paths, ∃ message, (load read tree path).outcome = .ok message

/-- The files of an origin all hold messages. Any bytes make a kernel log. -/
def Origin.HoldsMessages (tree : Tree) : Origin → Prop
  | .status topic base pattern => HoldMessages topic.update tree base pattern
  | .apps base pattern => HoldMessages appStatus tree base pattern
  | .kernelLog _ => True

/-- The files of a relative pattern all hold messages if all that it reaches do. -/
theorem holdMessages_of_reached {read : Value → Reading Message} {base : Path} {pattern : String}
    (reached : List Reached) (relative : (Path.ofText pattern).isAbsolute = false)
    (found : (globBelow tree base pattern).toOption = some reached)
    (each : ∀ one ∈ reached, (load read tree one.path).outcome.toOption.isSome = true) :
    HoldMessages read tree base pattern := by
  intro paths selected path member
  rw [resolve_of_relative relative found] at selected
  cases selected
  rw [List.mem_mergeSort, List.mem_map] at member
  obtain ⟨one, isReached, rfl⟩ := member
  have given := each one (List.mem_filter.mp isReached).1
  cases outcome : (load read tree one.path).outcome with
  | error fault => simp [outcome, Except.toOption] at given
  | ok message => exact ⟨message, rfl⟩

theorem scan_keeps (scanned : watcher.scan tree = .ok (changes, next)) :
    next.base = watcher.base ∧ next.pattern = watcher.pattern := by
  obtain ⟨now, -, -, rfl⟩ := Watcher.scan_eq_ok.mp scanned
  exact ⟨rfl, rfl⟩

/-- The changed files are among those that the pattern selects. -/
theorem selected_of_changed (scanned : watcher.scan tree = .ok (changes, next)) {path : Path}
    (changed : path ∈ changes.changed) :
    ∃ paths, resolve tree watcher.base watcher.pattern = .ok paths ∧ path ∈ paths := by
  obtain ⟨now, found, rfl, -⟩ := Watcher.scan_eq_ok.mp scanned
  obtain ⟨time, seen, -⟩ := Watcher.mem_changed.mp changed
  obtain ⟨paths, selected, same⟩ := bind_eq_ok.mp found
  cases same
  obtain ⟨other, member, isSeen⟩ := List.mem_filterMap.mp seen
  obtain ⟨file, -, same⟩ := Option.map_eq_some_iff.mp isSeen
  cases same
  exact ⟨paths, selected, member⟩

/-- Files that all hold messages do not stop a poll. -/
theorem HoldMessages.goOn {read : Value → Reading Message}
    (hold : HoldMessages read tree watcher.base watcher.pattern)
    (scanned : watcher.scan tree = .ok (changes, next)) :
    ∀ path ∈ changes.changed, ¬(load read tree path).Stops := by
  rintro path changed ⟨fault, failed, -⟩
  obtain ⟨paths, selected, member⟩ := selected_of_changed scanned changed
  obtain ⟨message, read⟩ := hold paths selected path member
  rw [read] at failed
  exact nomatch failed

/-! ## Polls -/

/-- A poll goes through: it is done, whether or not it changed anything. -/
def Polled.GoesThrough (polled : Polled) : Prop :=
  ∃ changed, polled.outcome = .ok changed

/-- A collector can be polled: its pattern is usable, or its reader can go on. -/
def IsReady (tree : Tree) : Collector → Prop
  | status _ watcher => IsUsable watcher.pattern
  | apps watcher _ => IsUsable watcher.pattern
  | kernelLog reader => reader.IsReadable tree

/-- The poll of a status topic goes through exactly when its pattern is usable. -/
theorem pollStatus_goesThrough_iff {topic : StatusTopic}
    (hold : HoldMessages topic.update tree watcher.base watcher.pattern) (model : Model) :
    (pollStatus tree model topic watcher).GoesThrough ↔ IsUsable watcher.pattern := by
  rw [← watcher.scan_isOk_iff tree]
  cases scanned : watcher.scan tree with
  | error fault =>
    rw [Polled.GoesThrough, pollStatus, scanned]
    exact iff_of_false not_isOk_error not_isOk_error
  | ok found =>
    obtain ⟨changes, next⟩ := found
    obtain ⟨_, _, -, ends, -⟩ := pollStatus_isolates scanned (hold.goOn scanned) model
    exact iff_of_true ⟨_, ends⟩ ⟨_, rfl⟩

/-- The poll of the applications goes through exactly when their pattern is usable. -/
theorem pollApps_goesThrough_iff (hold : HoldMessages appStatus tree watcher.base watcher.pattern)
    (model : Model) (statuses : Statuses) :
    (pollApps tree model watcher statuses).GoesThrough ↔ IsUsable watcher.pattern := by
  rw [← watcher.scan_isOk_iff tree]
  cases scanned : watcher.scan tree with
  | error fault =>
    rw [Polled.GoesThrough, pollApps, scanned]
    exact iff_of_false not_isOk_error not_isOk_error
  | ok found =>
    obtain ⟨changes, next⟩ := found
    obtain ⟨_, _, -, ends, -⟩ := pollApps_isolates scanned (hold.goOn scanned) model statuses
    exact iff_of_true ⟨_, ends⟩ ⟨_, rfl⟩

/-- The poll of the kernel log goes through exactly when its reader can go on. -/
theorem pollKernelLog_goesThrough_iff (tree : Tree) (model : Model) (reader : Reader) :
    (pollKernelLog tree model reader).GoesThrough ↔ reader.IsReadable tree := by
  rw [← (reader.reads_iff tree).1]
  rcases given : reader.read tree with ⟨next, fault | lines⟩
  · rw [Polled.GoesThrough, pollKernelLog, given]
    cases fault with
    | cannotOpen fault => exact iff_of_true ⟨_, rfl⟩ (.inr ⟨fault, rfl⟩)
    | badName => exact iff_of_false not_isOk_error (by rintro (⟨_, ⟨⟩⟩ | ⟨_, ⟨⟩⟩))
    | isDirectory => exact iff_of_false not_isOk_error (by rintro (⟨_, ⟨⟩⟩ | ⟨_, ⟨⟩⟩))
  · have done := (pollKernelLog_of_read given model).2.1
    exact iff_of_true ⟨_, done⟩ (.inl ⟨lines, rfl⟩)

/-- A poll goes through exactly when its collector can be polled. -/
theorem poll_goesThrough_iff (hold : collector.origin.HoldsMessages tree) (model : Model) :
    (collector.poll tree model).GoesThrough ↔ collector.IsReady tree := by
  cases collector with
  | status topic watcher => exact pollStatus_goesThrough_iff hold model
  | apps watcher statuses => exact pollApps_goesThrough_iff hold model statuses
  | kernelLog reader => exact pollKernelLog_goesThrough_iff tree model reader

/-- The poll of a status topic leaves what its watcher looks for. -/
theorem collector_pollStatus (tree : Tree) (model : Model) (topic : StatusTopic)
    (watcher : Watcher) :
    ∃ next : Watcher, (pollStatus tree model topic watcher).collector = .status topic next ∧
      next.base = watcher.base ∧ next.pattern = watcher.pattern := by
  rw [pollStatus]
  cases scanned : watcher.scan tree with
  | error fault => exact ⟨watcher, rfl, rfl, rfl⟩
  | ok found =>
    refine ⟨found.2, ?_, scan_keeps scanned⟩
    dsimp only
    split <;> rfl

/-- The poll of the applications leaves what their watcher looks for. -/
theorem collector_pollApps (tree : Tree) (model : Model) (watcher : Watcher)
    (statuses : Statuses) :
    ∃ (next : Watcher) (left : Statuses),
      (pollApps tree model watcher statuses).collector = .apps next left ∧
        next.base = watcher.base ∧ next.pattern = watcher.pattern := by
  rw [pollApps]
  cases scanned : watcher.scan tree with
  | error fault => exact ⟨watcher, statuses, rfl, rfl, rfl⟩
  | ok found =>
    have kept := scan_keeps scanned
    dsimp only
    split
    · exact ⟨found.2, _, rfl, kept⟩
    · split
      · exact ⟨found.2, _, rfl, kept⟩
      · exact ⟨found.2, _, rfl, kept⟩

theorem collector_pollKernelLog (tree : Tree) (model : Model) (reader : Reader) :
    (pollKernelLog tree model reader).collector = .kernelLog (reader.read tree).1 := by
  rcases given : reader.read tree with ⟨next, fault | lines⟩
  · exact (pollKernelLog_of_fault given model).1
  · exact (pollKernelLog_of_read given model).1

/-- A poll leaves the origin of its collector as it is. -/
theorem origin_poll (tree : Tree) (model : Model) (collector : Collector) :
    (collector.poll tree model).collector.origin = collector.origin := by
  cases collector with
  | status topic watcher =>
    obtain ⟨next, left, base, pattern⟩ := collector_pollStatus tree model topic watcher
    rw [poll, left, origin, origin, base, pattern]
  | apps watcher statuses =>
    obtain ⟨next, _, left, base, pattern⟩ := collector_pollApps tree model watcher statuses
    rw [poll, left, origin, origin, base, pattern]
  | kernelLog reader => rw [poll, collector_pollKernelLog, origin, origin, reader.path_read]

/-- A collector that could be polled in one tree can be polled again in any other. -/
theorem IsReady.poll (ready : collector.IsReady tree) (model : Model) (other : Tree) :
    (collector.poll tree model).collector.IsReady other := by
  cases collector with
  | status topic watcher =>
    obtain ⟨next, left, -, pattern⟩ := collector_pollStatus tree model topic watcher
    rw [Collector.poll, left, IsReady, pattern]
    exact ready
  | apps watcher statuses =>
    obtain ⟨next, _, left, -, pattern⟩ := collector_pollApps tree model watcher statuses
    rw [Collector.poll, left, IsReady, pattern]
    exact ready
  | kernelLog reader =>
    rw [Collector.poll, collector_pollKernelLog]
    exact .inl ((reader.reads_iff tree).2 ready)

/-! ## Passes -/

/-- A pass goes through: no poll stopped it. -/
def Passed.GoesThrough (passed : Passed) : Prop :=
  ∃ count, passed.outcome = .ok count

/-- A pass goes on after a poll that goes through, from the model that it leaves. -/
theorem collectOnce_cons_goesThrough_iff (tree : Tree) (model : Model) (collector : Collector)
    (rest : List Collector) :
    (collectOnce tree model (collector :: rest)).GoesThrough ↔
      (collector.poll tree model).GoesThrough ∧
        (collectOnce tree (collector.poll tree model).model rest).GoesThrough := by
  rw [Passed.GoesThrough, Polled.GoesThrough, collectOnce]
  cases (collector.poll tree model).outcome with
  | error failure => exact iff_of_false not_isOk_error fun both => not_isOk_error both.1
  | ok changed =>
    dsimp only
    rw [map_isOk_iff]
    exact (and_iff_right ⟨changed, rfl⟩).symm

/-- A pass goes through exactly when all its collectors can be polled. -/
theorem collectOnce_goesThrough_iff
    (hold : ∀ collector ∈ collectors, collector.origin.HoldsMessages tree) (model : Model) :
    (collectOnce tree model collectors).GoesThrough ↔
      ∀ collector ∈ collectors, collector.IsReady tree := by
  induction collectors generalizing model with
  | nil => exact iff_of_true ⟨0, rfl⟩ nofun
  | cons collector rest inductionHypothesis =>
    rw [List.forall_mem_cons] at hold ⊢
    rw [collectOnce_cons_goesThrough_iff, poll_goesThrough_iff hold.1,
      inductionHypothesis hold.2]

/-- A pass leaves the origins of its collectors as they are. -/
theorem origins_collectOnce (tree : Tree) (model : Model) (collectors : List Collector) :
    (collectOnce tree model collectors).collectors.map origin = collectors.map origin := by
  induction collectors generalizing model with
  | nil => rfl
  | cons collector rest inductionHypothesis =>
    have polled := origin_poll tree model collector
    rw [collectOnce]
    cases (collector.poll tree model).outcome with
    | error failure => simp [polled]
    | ok changed => simp [polled, inductionHypothesis]

/-- The collectors that a pass leaves can be polled in any tree, if they could be in this one. -/
theorem ready_collectOnce (ready : ∀ collector ∈ collectors, collector.IsReady tree)
    (model : Model) (goesThrough : (collectOnce tree model collectors).GoesThrough) (other : Tree) :
    ∀ collector ∈ (collectOnce tree model collectors).collectors, collector.IsReady other := by
  induction collectors generalizing model with
  | nil => exact nofun
  | cons collector rest inductionHypothesis =>
    rw [List.forall_mem_cons] at ready
    obtain ⟨⟨changed, done⟩, restGoesThrough⟩ :=
      (collectOnce_cons_goesThrough_iff tree model collector rest).mp goesThrough
    rw [collectOnce, done, List.forall_mem_cons]
    exact ⟨ready.1.poll model other, inductionHypothesis ready.2 _ restGoesThrough⟩

/-- Passes over the same collectors, one after another, each in a tree of its own. -/
def passes (model : Model) (collectors : List Collector) : List Tree → List Passed
  | [] => []
  | tree :: rest =>
    let passed := collectOnce tree model collectors
    passed :: passes passed.model passed.collectors rest

theorem forall_origin_collectOnce (tree : Tree) (model : Model) {holds : Origin → Prop} :
    (∀ collector ∈ (collectOnce tree model collectors).collectors, holds collector.origin) ↔
      ∀ collector ∈ collectors, holds collector.origin := by
  rw [← List.forall_mem_map, origins_collectOnce, List.forall_mem_map]

/-- Passes all go through exactly when the collectors can be polled in the tree of the first. -/
theorem passes_goThrough_iff {others : List Tree}
    (hold : ∀ now ∈ tree :: others, ∀ collector ∈ collectors, collector.origin.HoldsMessages now)
    (model : Model) :
    (∀ passed ∈ passes model collectors (tree :: others), passed.GoesThrough) ↔
      ∀ collector ∈ collectors, collector.IsReady tree := by
  induction others generalizing tree collectors model with
  | nil =>
    rw [passes, passes, List.forall_mem_singleton]
    exact collectOnce_goesThrough_iff (hold tree (List.mem_cons_self ..)) model
  | cons other rest inductionHypothesis =>
    obtain ⟨holdNow, holdLater⟩ := List.forall_mem_cons.mp hold
    have first := collectOnce_goesThrough_iff holdNow model
    have following := inductionHypothesis
      (fun now member => (forall_origin_collectOnce tree model).mpr (holdLater now member))
      (collectOnce tree model collectors).model
    rw [passes, List.forall_mem_cons, following, first]
    refine and_iff_left_of_imp fun ready => ?_
    exact ready_collectOnce ready model (first.mpr ready) other

end Collector

end NodeConsole
