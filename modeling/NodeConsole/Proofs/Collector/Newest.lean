import Mathlib.Data.List.Induction
import NodeConsole.Proofs.Collector.Passes
import NodeConsole.Proofs.Collector.Statuses
import NodeConsole.Proofs.Device.Interleaving
import NodeConsole.Proofs.Files.Scans

/-!
# What a poll leaves and what it says

A poll that ends has told the model some updates, and says whether there were any
(`exists_updates_of_poll`). The ports, the vault and the downloads are replaced by every message on
them. Changed files are read in order of change, so what is left of them is the message of the
newest file that gives one, and what was there before if none does: `polls_report`.
-/

namespace NodeConsole.Collector

open NodeConsole.Files NodeConsole.Wire NodeConsole.Device NodeConsole.KernelLog

/-! ## Topics that are replaced as a whole -/

/-- A topic whose messages replace a part of the model. -/
inductive WholeTopic where
  | network | vault | downloader
  deriving DecidableEq, Repr

namespace WholeTopic

/-- The topic. -/
def topic : WholeTopic → StatusTopic
  | network => .network
  | vault => .vault
  | downloader => .downloader

/-- The messages on a topic. -/
def Message : WholeTopic → Type
  | network => NetworkStatus
  | vault => VaultReport
  | downloader => DownloadStatus

/-- The part of the model that a topic is about. -/
def Part : WholeTopic → Type
  | network => List Port
  | vault => Vault
  | downloader => Option DownloadStatus

/-- Reads a message. -/
def read : (whole : WholeTopic) → Value → Reading whole.Message
  | network => networkStatus
  | vault => vaultReport
  | downloader => downloadStatus

/-- The update that a message makes. -/
def update : (whole : WholeTopic) → whole.Message → Update
  | network => .network
  | vault => .vault
  | downloader => .downloader

/-- What a message makes of its part. -/
def reduce : (whole : WholeTopic) → whole.Message → whole.Part
  | network => portsOf
  | vault => .of
  | downloader => some

/-- A part of a model. -/
def part : (whole : WholeTopic) → Model → whole.Part
  | network => Model.network
  | vault => Model.vault
  | downloader => Model.downloader

theorem update_topic (whole : WholeTopic) (payload : Value) :
    whole.topic.update payload = whole.update <$> whole.read payload := by
  cases whole <;> rfl

theorem part_apply (whole : WholeTopic) (model : Model) (message : whole.Message) :
    whole.part (model.apply (whole.update message)) = whole.reduce message := by
  cases whole <;> rfl

/-- Of several messages the last one is left. -/
theorem part_applyAll (whole : WholeTopic) (model : Model) (messages : List whole.Message) :
    whole.part (model.applyAll (messages.map whole.update)) =
      (messages.getLast?.map whole.reduce).getD (whole.part model) := by
  cases messages using List.reverseRecOn with
  | nil => rfl
  | append_singleton front message =>
    have applied : model.applyAll ((front ++ [message]).map whole.update) =
        (model.applyAll (front.map whole.update)).apply (whole.update message) := by
      rw [List.map_append]
      exact List.foldl_concat ..
    rw [applied, part_apply, List.getLast?_concat]
    rfl

end WholeTopic

/-! ## The newest message -/

variable {whole : WholeTopic} {source : Watcher} {tree : Tree} {earlier : List Tree}

/-- A changed file gives a message: it is new, or has another time than the last scan saw. -/
structure Brings (whole : WholeTopic) (source : Watcher) (tree : Tree) (earlier : List Tree)
    (file : Seen) (message : whole.Message) : Prop where
  seen : file ∈ source.sightings tree
  changed : (source.after earlier).time? file.path ≠ some file.time
  gives : (load whole.read tree file.path).outcome = .ok message

/-- A message is that of the changed file that comes last in order of change among those that give
one. -/
structure IsNewest (whole : WholeTopic) (source : Watcher) (tree : Tree) (earlier : List Tree)
    (file : Seen) (message : whole.Message) : Prop where
  brings : Brings whole source tree earlier file message
  newest : ∀ other otherMessage, Brings whole source tree earlier other otherMessage →
    other.InOrder file

/-- A part of the model is what the newest message makes of it, and is kept if there is none. -/
def NewestWins (whole : WholeTopic) (source : Watcher) (tree : Tree) (earlier : List Tree)
    (before after : whole.Part) : Prop :=
  (∃ file message, IsNewest whole source tree earlier file message ∧
      after = whole.reduce message) ∨
    (∀ file message, ¬Brings whole source tree earlier file message) ∧ after = before

/-- The changed files that give messages, with these, in order of change. -/
def brought (whole : WholeTopic) (source : Watcher) (tree : Tree) (earlier : List Tree) :
    List (Seen × whole.Message) :=
  (((source.sightings tree).filter fun file =>
    (source.after earlier).time? file.path ≠ some file.time).mergeSort Seen.le).filterMap
      fun file => (load whole.read tree file.path).outcome.toOption.map (file, ·)

/-- These are the files that bring messages. -/
theorem mem_brought {file : Seen} {message : whole.Message} :
    (file, message) ∈ brought whole source tree earlier ↔
      Brings whole source tree earlier file message := by
  rw [brought, List.mem_filterMap]
  simp only [List.mem_mergeSort, List.mem_filter, decide_eq_true_eq]
  constructor
  · rintro ⟨found, ⟨seen, changed⟩, gives⟩
    obtain ⟨_, outcome, same⟩ := Option.map_eq_some_iff.mp gives
    cases same
    exact ⟨seen, changed, eq_ok_of_toOption outcome⟩
  · rintro ⟨seen, changed, gives⟩
    refine ⟨file, ⟨seen, changed⟩, ?_⟩
    rw [gives]
    rfl

/-- They are in order of change. -/
theorem pairwise_brought (whole : WholeTopic) (source : Watcher) (tree : Tree)
    (earlier : List Tree) :
    (brought whole source tree earlier).Pairwise fun first second => first.1.InOrder second.1 := by
  refine List.pairwise_filterMap.mpr ((pairwise_inOrder _).imp fun inOrder => ?_)
  intro one isOne other isOther
  obtain ⟨_, -, rfl⟩ := Option.map_eq_some_iff.mp isOne
  obtain ⟨_, -, rfl⟩ := Option.map_eq_some_iff.mp isOther
  exact inOrder

/-- The last of them is the newest. -/
theorem isNewest_of_last {file : Seen} {message : whole.Message}
    (last : (brought whole source tree earlier).getLast? = some (file, message)) :
    IsNewest whole source tree earlier file message := by
  obtain ⟨front, split⟩ := List.getLast?_eq_some_iff.mp last
  have ordered := pairwise_brought whole source tree earlier
  rw [split, List.pairwise_append] at ordered
  constructor
  case brings => exact mem_brought.mp (List.mem_of_getLast? last)
  case newest =>
    intro other otherMessage brings
    have member := mem_brought.mpr brings
    rw [split, List.mem_append, List.mem_singleton] at member
    obtain isEarlier | same := member
    · exact ordered.2.2 _ isEarlier _ (List.mem_singleton.mpr rfl)
    · cases same
      exact .inr ⟨rfl, String.le_refl _⟩

/-- Loading a file as an update is loading it as a message, which makes the update. -/
theorem outcome_load_update (whole : WholeTopic) (tree : Tree) (path : Path) :
    (load whole.topic.update tree path).outcome =
      (load whole.read tree path).outcome.map whole.update := by
  rw [load, load]
  cases tree.file? path with
  | none => rfl
  | some file =>
    dsimp only
    cases document file.2.2 with
    | error fault => rfl
    | ok payload =>
      dsimp only
      rw [whole.update_topic, Wire.Reading.outcome_map]
      cases (whole.read payload).outcome <;> rfl

/-- A poll accepts the messages that are brought. -/
theorem accepted_told (whole : WholeTopic) (source : Watcher) (tree : Tree) (earlier : List Tree) :
    (accepted (load whole.topic.update tree) (source.told tree earlier).changed).map (·.2) =
      ((brought whole source tree earlier).map (·.2)).map whole.update := by
  rw [accepted, brought, Watcher.told, Watcher.compare, List.filterMap_map, List.map_filterMap,
    List.map_filterMap, List.map_filterMap]
  congr 1
  funext file
  dsimp only [Function.comp_def]
  rw [outcome_load_update]
  cases (load whole.read tree file.path).outcome <;> rfl

/-! ## Polls one after another -/

/-- A collector after polls of trees one after another, the latest first, all of which have ended.
Any model may be at hand when a tree is polled. -/
inductive After (first : Collector) : List Tree → Collector → Prop
  | fresh : After first [] first
  | poll {tree : Tree} {earlier : List Tree} {collector : Collector} {changed : Bool}
      (after : After first earlier collector) (model : Model)
      (ends : (collector.poll tree model).outcome = .ok changed) :
      After first (tree :: earlier) (collector.poll tree model).collector

/-- After any polls the watcher of a status topic remembers what it saw last. -/
theorem After.watches {topic : StatusTopic} {collector : Collector}
    (after : After (.status topic (source.after [])) earlier collector) :
    collector = .status topic (source.after earlier) := by
  induction after with
  | fresh => rfl
  | poll after model ends inductionHypothesis =>
    subst inductionHypothesis
    obtain ⟨changes, next, scanned, -, -, collector, -⟩ :=
      (statusIsIsolated_iff ..).mpr (pollStatus_goesOn ends)
    rw [collector, (Watcher.scan_after scanned).2]

/-- After a poll that ends the newest message is left. -/
theorem newestWins_poll {start : Model} {changed : Bool}
    (ends : ((Collector.status whole.topic (source.after earlier)).poll tree start).outcome =
      .ok changed) :
    NewestWins whole source tree earlier (whole.part start) (whole.part
      ((Collector.status whole.topic (source.after earlier)).poll tree start).model) := by
  obtain ⟨changes, next, scanned, -, model, -⟩ :=
    (statusIsIsolated_iff ..).mpr (pollStatus_goesOn ends)
  rw [model, (Watcher.scan_after scanned).1, accepted_told, whole.part_applyAll, List.getLast?_map]
  cases last : (brought whole source tree earlier).getLast? with
  | some brings => exact .inl ⟨brings.1, brings.2, isNewest_of_last last, rfl⟩
  | none =>
    have none := List.getLast?_eq_none_iff.mp last
    refine .inr ⟨fun file message brings => ?_, rfl⟩
    exact absurd (none ▸ mem_brought.mpr brings) List.not_mem_nil

/-! ## What polls say -/

/-- A poll that ends has told the model some updates, and says whether there were any. -/
theorem exists_updates_of_poll {collector : Collector} {start : Model} {changed : Bool}
    (ends : (collector.poll tree start).outcome = .ok changed) :
    ∃ updates : List Update, changed = !updates.isEmpty ∧
      (collector.poll tree start).model = start.applyAll updates := by
  cases collector with
  | status topic watcher =>
    obtain ⟨changes, next, scanned, outcome, model, -⟩ :=
      (statusIsIsolated_iff ..).mpr (pollStatus_goesOn ends)
    refine ⟨_, ?_, model⟩
    rw [List.isEmpty_map]
    exact Except.ok.inj (ends.symm.trans outcome)
  | apps watcher statuses =>
    obtain ⟨changes, next, scanned, outcome, model, -⟩ :=
      (appsAreIsolated_iff ..).mpr (pollApps_goesOn ends)
    have said := Except.ok.inj (ends.symm.trans outcome)
    rw [said, model]
    split
    · next none => exact ⟨_, by simp [none], rfl⟩
    · next some =>
      refine ⟨_ ++ [.appList _], ?_, (List.foldl_concat ..).symm⟩
      rw [List.isEmpty_eq_false_iff.mpr some]
      simp
  | kernelLog reader =>
    rcases given : reader.read tree with ⟨next, fault | lines⟩
    · refine ⟨[], ?_, (pollKernelLog_of_fault given start).2⟩
      rw [poll, pollKernelLog, given] at ends
      cases fault with
      | cannotOpen fault => exact (Except.ok.inj ends).symm
      | badName => cases ends
      | isDirectory => cases ends
    · obtain ⟨-, outcome, model⟩ := pollKernelLog_of_read given start
      rw [poll, model, Except.ok.inj (ends.symm.trans outcome)]
      split
      · next none => exact ⟨[], by rw [none]; rfl, rfl⟩
      · next some => exact ⟨[.kernelLog (records lines)], by simpa using some, rfl⟩

/-- What a poll says is true: something was changed exactly when the model has moved on by a
generation, and if nothing was, the model is as it was. -/
theorem says_of_updates {start after : Model} {updates : List Update} {changed : Bool}
    (said : changed = !updates.isEmpty) (model : after = start.applyAll updates) :
    (changed = true ↔ start.generation < after.generation) ∧ (changed = false → after = start) := by
  have generation := (IsOutcome.of_applyAll start updates).generation
  rw [← model] at generation
  rw [said, generation]
  constructor
  · simp [List.length_pos_iff]
  · intro none
    have nothing : updates = [] := by simpa using none
    rw [model, nothing]
    rfl

/-- After any polls that have ended, a poll that ends says that something was changed exactly when
the generation of the model has grown, and otherwise leaves the model as it was. If the collector
has started as that of the ports, the vault or the downloads, the newest message that a changed file
gives is left of them, and what was there before if none gives one. -/
theorem polls_report {first collector : Collector} (after : After first earlier collector)
    {start : Model} {changed : Bool} (ends : (collector.poll tree start).outcome = .ok changed) :
    let polled := collector.poll tree start
    (changed = true ↔ start.generation < polled.model.generation) ∧
      (changed = false → polled.model = start) ∧
      ∀ (whole : WholeTopic) (source : Watcher),
        first = .status whole.topic { source with seen := [] } →
          NewestWins whole source tree earlier (whole.part start) (whole.part polled.model) := by
  obtain ⟨updates, said, model⟩ := exists_updates_of_poll ends
  obtain ⟨grown, same⟩ := says_of_updates said model
  refine ⟨grown, same, fun whole source started => ?_⟩
  subst started
  obtain rfl : collector = .status whole.topic (source.after earlier) := after.watches
  exact newestWins_poll ends

/-- The watcher of the vault where nothing else is configured. -/
def vaultWatcher : Watcher :=
  ⟨⟨"/", ["run"]⟩, Topic.vault.defaultPattern, []⟩

/-- A report on the vault. -/
def vaultFile (name : String) : Path :=
  ⟨"/", ["run", "vaultmgr", "VaultStatus", name]⟩

/-- Two reports on the vault. -/
def twoReports : Tree :=
  let first := Tree.write {} (vaultFile "a.json") 1 "\x7b\"Status\": 2\x7d".toUTF8.data.toList
  (first.tree.write (vaultFile "b.json") 2 "\x7b\"Status\": 1\x7d".toUTF8.data.toList).tree

/-- The newer report is gone, and the older one has been touched since. -/
def oneLost : Tree :=
  ((twoReports.touch (vaultFile "a.json") 3).tree.remove (vaultFile "b.json")).tree

/-- After a poll that has lost a report, the newest one that it has found is left. -/
theorem polls_report_lost :
    let first := Collector.status .vault vaultWatcher
    let reported := first.poll twoReports {}
    ∃ changed, After first [twoReports] reported.collector ∧
      (reported.collector.poll oneLost reported.model).outcome = .ok changed ∧
      NewestWins .vault vaultWatcher oneLost [twoReports] reported.model.vault
        (reported.collector.poll oneLost reported.model).model.vault := by
  intro first reported
  let foundFile (name : String) : Reached := ⟨vaultFile name, (vaultFile name).names⟩
  have ready : first.IsReady twoReports := by
    show IsUsable Topic.vault.defaultPattern
    decide
  have hold : first.origin.HoldsMessages twoReports :=
    holdMessages_of_reached (["a.json", "b.json"].map foundFile) (by decide) (by decide +kernel)
      (by decide +kernel)
  have holdLost : reported.collector.origin.HoldsMessages oneLost := by
    rw [origin_poll]
    exact holdMessages_of_reached [foundFile "a.json"] (by decide) (by decide +kernel)
      (by decide +kernel)
  obtain ⟨_, ends⟩ := (poll_goesThrough_iff hold {}).mpr ready
  obtain ⟨changed, endsNext⟩ :=
    (poll_goesThrough_iff holdLost reported.model).mpr (ready.poll {} oneLost)
  have after : After first [twoReports] reported.collector := After.fresh.poll {} ends
  exact ⟨changed, after, endsNext, (polls_report after endsNext).2.2 .vault vaultWatcher rfl⟩

end NodeConsole.Collector
