import NodeConsole.Proofs.Collector.Isolation
import NodeConsole.Proofs.Files.Watcher
import NodeConsole.Proofs.Keyed

/-!
# What the collector of the applications remembers

The watcher remembers the files of its last scan, and the collector the statuses of files that it
has read. The two go together: after any polls the collector has, for each file of the last scan
that has given a status since it appeared, the last one that it gave, and no others
(`Remembers`). One poll keeps to that (`Remembers.statusesAfter`), so all polls do
(`Polls.remembers`). A poll that loses a file builds the applications anew from just these statuses.
-/

namespace NodeConsole.Collector

open NodeConsole.Files NodeConsole.Wire NodeConsole.Device

/-! ## Polls one after another -/

/-- Polls of the collector of the applications one after another, all of which have ended. Between
two polls the model may be changed. -/
inductive Polls (between : Model → Model → Prop) (source : Watcher) :
    List Tree → Collector → Model → Prop
  | fresh : Polls between source [] (.apps (source.after []) []) {}
  | poll {tree : Tree} {earlier : List Tree} {collector : Collector} {model start : Model}
      {changed : Bool} (polls : Polls between source earlier collector model)
      (meanwhile : between model start)
      (ends : (collector.poll tree start).outcome = .ok changed) :
      Polls between source (tree :: earlier) (collector.poll tree start).collector
        (collector.poll tree start).model

/-- A file is noticed by a scan, and gives a status. -/
def Gives (source : Watcher) (tree : Tree) (earlier : List Tree) (path : Path)
    (status : AppStatus) : Prop :=
  source.Notices tree earlier path ∧ (load appStatus tree path).outcome = .ok status

/-- The last status that a file has given since it appeared. -/
inductive LastGood (source : Watcher) : List Tree → Path → AppStatus → Prop
  | given {tree : Tree} {earlier : List Tree} {path : Path} {status : AppStatus}
      (gives : Gives source tree earlier path status) :
      LastGood source (tree :: earlier) path status
  | kept {tree : Tree} {earlier : List Tree} {path : Path} {status : AppStatus}
      (before : LastGood source earlier path status) (sees : source.Sees tree path)
      (noOther : ∀ other, ¬Gives source tree earlier path other) :
      LastGood source (tree :: earlier) path status

/-- A status that a file has given since it appeared. -/
inductive HasGiven (source : Watcher) : List Tree → Path → AppStatus → Prop
  | given {tree : Tree} {earlier : List Tree} {path : Path} {status : AppStatus}
      (gives : Gives source tree earlier path status) :
      HasGiven source (tree :: earlier) path status
  | kept {tree : Tree} {earlier : List Tree} {path : Path} {status : AppStatus}
      (before : HasGiven source earlier path status) (sees : source.Sees tree path) :
      HasGiven source (tree :: earlier) path status

/-- The last poll has lost a file. -/
def HasLost (source : Watcher) : List Tree → Prop
  | [] => False
  | tree :: earlier => ∃ path, source.Loses tree earlier path

variable {between : Model → Model → Prop} {source : Watcher} {tree : Tree}
  {earlier history : List Tree} {path : Path} {status : AppStatus}

theorem Gives.unique {other : AppStatus} (gives : Gives source tree earlier path status)
    (again : Gives source tree earlier path other) : other = status :=
  Except.ok.inj (again.2.symm.trans gives.2)

theorem LastGood.seesLast (good : LastGood source history path status) :
    source.SeesLast history path := by
  cases good with
  | given gives => exact gives.1.sees
  | kept before sees noOther => exact sees

/-- A file has one last status at most. -/
theorem LastGood.unique {other : AppStatus} (good : LastGood source history path status)
    (again : LastGood source history path other) : other = status := by
  induction good with
  | given gives =>
    cases again with
    | given givesAgain => exact gives.unique givesAgain
    | kept before sees noOther => exact absurd gives (noOther _)
  | kept before sees noOther inductionHypothesis =>
    cases again with
    | given gives => exact absurd gives (noOther _)
    | kept beforeAgain sees noOther => exact inductionHypothesis beforeAgain

theorem LastGood.hasGiven (good : LastGood source history path status) :
    HasGiven source history path status := by
  induction good with
  | given gives => exact .given gives
  | kept before sees noOther inductionHypothesis => exact .kept inductionHypothesis sees

theorem LastGood.next (good : LastGood source earlier path status) (sees : source.Sees tree path) :
    LastGood source (tree :: earlier) path status ∨
      ∃ other, Gives source tree earlier path other ∧
        LastGood source (tree :: earlier) path other := by
  by_cases given : ∃ other, Gives source tree earlier path other
  · obtain ⟨other, gives⟩ := given
    exact .inr ⟨other, gives, .given gives⟩
  · exact .inl (.kept good sees fun other gives => given ⟨other, gives⟩)

/-- A file that has given a status has a last one. -/
theorem HasGiven.exists_lastGood (hasGiven : HasGiven source history path status) :
    ∃ last, LastGood source history path last := by
  induction hasGiven with
  | given gives => exact ⟨_, .given gives⟩
  | kept before sees inductionHypothesis =>
    obtain ⟨last, good⟩ := inductionHypothesis
    obtain same | ⟨other, -, good⟩ := good.next sees
    · exact ⟨last, same⟩
    · exact ⟨other, good⟩

/-! ## One poll -/

/-- The statuses that a poll is given, in the order in which it takes them over. -/
def given (source : Watcher) (tree : Tree) (earlier : List Tree) : List (Path × AppStatus) :=
  accepted (load appStatus tree) (source.told tree earlier).changed

/-- A poll is given the statuses of the files that it notices. -/
theorem mem_given : (path, status) ∈ given source tree earlier ↔
    Gives source tree earlier path status := by
  unfold given accepted Gives
  rw [List.mem_filterMap, ← Watcher.mem_told_changed]
  constructor
  · rintro ⟨found, changed, gives⟩
    obtain ⟨message, outcome, same⟩ := Option.map_eq_some_iff.mp gives
    cases same
    exact ⟨changed, eq_ok_of_toOption outcome⟩
  · rintro ⟨changed, gives⟩
    refine ⟨path, changed, ?_⟩
    rw [gives]
    rfl

/-- The statuses that a poll leaves: those that it is given in place of earlier ones, without those
of the files that are lost. -/
def statusesAfter (source : Watcher) (tree : Tree) (earlier : List Tree)
    (statuses : Statuses) : Statuses :=
  (statuses.setAll (given source tree earlier)).filter fun entry =>
    !(source.told tree earlier).removed.contains entry.1

/-- The applications that a poll leaves: they take over the statuses that it is given, or when files
are lost, are built anew from those that are left. -/
def appsAfter (source : Watcher) (tree : Tree) (earlier : List Tree) (statuses : Statuses)
    (apps : AppMap) : AppMap :=
  if (source.told tree earlier).removed = [] then
    ((given source tree earlier).map (·.2)).foldl AppMap.update apps
  else .ofList ⟨(statusesAfter source tree earlier statuses).map (·.2)⟩

theorem apps_applyAll (model : Model) (files : List (Path × AppStatus)) :
    (model.applyAll (files.map (.app ·.2))).apps =
      (files.map (·.2)).foldl AppMap.update model.apps := by
  induction files generalizing model with
  | nil => rfl
  | cons file rest inductionHypothesis => exact inductionHypothesis (model.apply (.app file.2))

/-- A poll that ends leaves these statuses and applications. -/
theorem poll_leaves {statuses : Statuses} {start : Model} {changed : Bool}
    (ends : ((Collector.apps (source.after earlier) statuses).poll tree start).outcome =
      .ok changed) :
    let polled := (Collector.apps (source.after earlier) statuses).poll tree start
    polled.collector =
        .apps (source.after (tree :: earlier)) (statusesAfter source tree earlier statuses) ∧
      polled.model.apps = appsAfter source tree earlier statuses start.apps := by
  obtain ⟨changes, watcher, scanned, -, model, collector, -⟩ :=
    (appsAreIsolated_iff ..).mpr (pollApps_goesOn ends)
  obtain ⟨rfl, rfl⟩ := Watcher.scan_after scanned
  refine ⟨collector, ?_⟩
  rw [model]
  unfold appsAfter
  split
  · exact apps_applyAll start (given source tree earlier)
  · rfl

theorem mem_statusesAfter {statuses : Statuses} {entry : Path × AppStatus} :
    entry ∈ statusesAfter source tree earlier statuses ↔
      entry ∈ statuses.setAll (given source tree earlier) ∧ ¬source.Loses tree earlier entry.1 := by
  unfold statusesAfter
  rw [List.mem_filter, Bool.not_eq_true', Bool.eq_false_iff, Ne, List.contains_iff_mem,
    Watcher.mem_told_removed]

/-! ## What is remembered -/

/-- The statuses that are kept are the last ones of the files, one for each file. -/
structure Remembers (source : Watcher) (history : List Tree) (statuses : Statuses) : Prop where
  keyed : (statuses.map (·.1)).Nodup
  lastGood : ∀ path status, (path, status) ∈ statuses ↔ LastGood source history path status

theorem Statuses.set_eq_put (statuses : Statuses) (path : Path) (status : AppStatus) :
    statuses.set path status = put statuses path status :=
  rfl

/-- Setting statuses keeps one for each file. -/
theorem nodup_setAll {statuses : Statuses} (keyed : (statuses.map (·.1)).Nodup)
    (files : List (Path × AppStatus)) : ((statuses.setAll files).map (·.1)).Nodup := by
  induction files generalizing statuses with
  | nil => exact keyed
  | cons file rest inductionHypothesis =>
    have kept := nodup_put keyed file.1 file.2
    rw [← Statuses.set_eq_put] at kept
    exact inductionHypothesis kept

/-- The statuses after some files are theirs and those of the other files. -/
theorem mem_setAll {statuses : Statuses} {files : List (Path × AppStatus)}
    (single : ∀ file ∈ files, ∀ other ∈ files, other.1 = file.1 → other = file)
    {entry : Path × AppStatus} :
    entry ∈ statuses.setAll files ↔
      entry ∈ files ∨ entry ∈ statuses ∧ ∀ file ∈ files, file.1 ≠ entry.1 := by
  induction files generalizing statuses with
  | nil =>
    refine ⟨fun member => .inr ⟨member, List.forall_mem_nil _⟩, ?_⟩
    rintro (member | ⟨member, -⟩)
    · cases member
    · exact member
  | cons file rest inductionHypothesis =>
    have singleRest : ∀ one ∈ rest, ∀ other ∈ rest, other.1 = one.1 → other = one :=
      fun one member other otherMember =>
        single one (List.mem_cons_of_mem file member) other (List.mem_cons_of_mem file otherMember)
    have later : entry ∈ statuses.setAll (file :: rest) ↔ entry ∈ rest ∨
        (entry = (file.1, file.2) ∨ entry ∈ statuses ∧ entry.1 ≠ file.1) ∧
          ∀ other ∈ rest, other.1 ≠ entry.1 := by
      rw [← mem_put, ← Statuses.set_eq_put]
      exact inductionHypothesis singleRest
    rw [later, List.mem_cons, List.forall_mem_cons]
    constructor
    · rintro (member | ⟨rfl | ⟨member, other⟩, others⟩)
      · exact .inl (.inr member)
      · exact .inl (.inl rfl)
      · exact .inr ⟨member, other.symm, others⟩
    · rintro ((rfl | member) | ⟨member, other, others⟩)
      · by_cases again : ∃ other ∈ rest, other.1 = entry.1
        · obtain ⟨other, found, same⟩ := again
          rw [← single entry List.mem_cons_self other (List.mem_cons_of_mem _ found) same]
          exact .inl found
        · exact .inr ⟨.inl rfl, fun other found same => again ⟨other, found, same⟩⟩
      · exact .inl member
      · exact .inr ⟨.inr ⟨member, other.symm⟩, others⟩

/-- A poll leaves the last status of every file that it sees. -/
theorem Remembers.statusesAfter {statuses : Statuses}
    (remembers : Remembers source earlier statuses) :
    Remembers source (tree :: earlier) (statusesAfter source tree earlier statuses) where
  keyed := (nodup_setAll remembers.keyed _).sublist (List.filter_sublist.map _)
  lastGood path status := by
    have single : ∀ file ∈ given source tree earlier, ∀ other ∈ given source tree earlier,
        other.1 = file.1 → other = file := by
      rintro ⟨file, message⟩ member ⟨other, otherMessage⟩ otherMember rfl
      rw [(mem_given.mp member).unique (mem_given.mp otherMember)]
    rw [mem_statusesAfter, mem_setAll single, mem_given, remembers.lastGood]
    constructor
    · rintro ⟨gives | ⟨before, noOther⟩, notLost⟩
      · exact .given gives
      · refine .kept before ?_ fun other gives => noOther (path, other) (mem_given.mpr gives) rfl
        exact Classical.byContradiction fun gone => notLost ⟨before.seesLast, gone⟩
    · intro good
      refine ⟨?_, fun lost => lost.2 good.seesLast⟩
      cases good with
      | given gives => exact .inl gives
      | kept before sees noOther =>
        refine .inr ⟨before, ?_⟩
        rintro ⟨_, other⟩ member rfl
        exact noOther other (mem_given.mp member)

/-- After any polls the collector remembers the last status of every file that the last one saw. -/
theorem Polls.remembers {collector : Collector} {model : Model}
    (polls : Polls between source history collector model) :
    ∃ statuses, collector = .apps (source.after history) statuses ∧
      Remembers source history statuses := by
  induction polls with
  | fresh => exact ⟨[], rfl, .nil, fun _ _ => ⟨nofun, nofun⟩⟩
  | poll polls meanwhile ends inductionHypothesis =>
    obtain ⟨statuses, rfl, remembers⟩ := inductionHypothesis
    exact ⟨_, (poll_leaves ends).1, remembers.statusesAfter⟩

/-- The poll of a tree whose files can all be handled ends, and polls go on with it. -/
theorem Polls.next {statuses : Statuses} {model start : Model} {now : List Seen}
    (polls : Polls between source earlier (.apps (source.after earlier) statuses) model)
    (meanwhile : between model start) (found : source.current tree = .ok now)
    (goOn : ∀ file ∈ now, ¬(load appStatus tree file.path).Stops) :
    ∃ polled, polled.apps = appsAfter source tree earlier statuses start.apps ∧
      Polls between source (tree :: earlier)
        (.apps (source.after (tree :: earlier)) (statusesAfter source tree earlier statuses))
        polled := by
  have handled : ∀ path ∈ (source.told tree earlier).changed,
      ¬(load appStatus tree path).Stops := by
    intro path changed
    obtain ⟨file, seen, rfl⟩ := (Watcher.mem_told_changed.mp changed).sees
    rw [Watcher.sightings_of_current found] at seen
    exact goOn file seen
  obtain ⟨_, _, _, ends, -⟩ :=
    pollApps_isolates (Watcher.scan_of_current found) handled start statuses
  have extended := Polls.poll polls meanwhile ends
  obtain ⟨collector, apps⟩ := poll_leaves ends
  rw [collector] at extended
  exact ⟨_, apps, extended⟩

/-! ## Three polls

Two files report on one application and a third one on another. Then the third file reports on yet
another application. Then the first file reports again, and the third one is gone.
-/

/-- The watcher of the applications where nothing else is configured. -/
def appWatcher : Watcher :=
  ⟨⟨"/", ["run"]⟩, Topic.apps.defaultPattern, []⟩

/-- A report on the application whose identifier has a last digit. -/
def appReport (digit name : String) : List UInt8 :=
  let text :=
    "\x7b\"UUIDandVersion\": \x7b\"UUID\": \"00000000-0000-0000-0000-00000000000" ++ digit ++
      "\"\x7d, \"DisplayName\": \"" ++ name ++ "\", \"State\": 115\x7d"
  text.toUTF8.data.toList

/-- The tree of the first poll. -/
def reported : Tree :=
  let first := (Tree.write {} (statusFile "a.json") 1 (appReport "1" "one")).tree
  let second := (first.write (statusFile "b.json") 2 (appReport "1" "two")).tree
  (second.write (statusFile "c.json") 3 (appReport "2" "three")).tree

/-- The tree of the second poll. -/
def replaced : Tree :=
  (reported.write (statusFile "c.json") 4 (appReport "3" "four")).tree

/-- The tree of the third poll. -/
def lost : Tree :=
  ((replaced.write (statusFile "a.json") 5 (appReport "1" "five")).tree.remove
    (statusFile "c.json")).tree

/-- What the watcher sees, when the files of the applications are found in order. -/
theorem current_of_ordered {tree : Tree} (names : List String) {now : List Seen}
    (ordered : (names.map statusFile).Pairwise fun first second => Path.le first second = true)
    (found : (globBelow tree ⟨"/", ["run"]⟩ Topic.apps.defaultPattern).toOption =
        some (names.map fun name =>
          ⟨statusFile name, ["run", "zedmanager", "AppInstanceStatus", name]⟩) ∧
      (∀ name ∈ names, tree.isFile ["run", "zedmanager", "AppInstanceStatus", name] = true) ∧
      ((names.map statusFile).filterMap fun path =>
        (tree.file? path).map fun file => (⟨path, file.2.1⟩ : Seen)) = now) :
    appWatcher.current tree = .ok now := by
  obtain ⟨reached, files, rfl⟩ := found
  have kept : ((names.map fun name => (⟨statusFile name,
      ["run", "zedmanager", "AppInstanceStatus", name]⟩ : Reached)).filter fun found =>
        tree.isFile found.place) = names.map fun name =>
          ⟨statusFile name, ["run", "zedmanager", "AppInstanceStatus", name]⟩ := by
    refine List.filter_eq_self.mpr fun found member => ?_
    obtain ⟨name, known, rfl⟩ := List.mem_map.mp member
    exact files name known
  have selected : resolve tree ⟨"/", ["run"]⟩ Topic.apps.defaultPattern =
      .ok (names.map statusFile) := by
    rw [resolve_of_relative (by decide +kernel) reached, kept, List.map_map]
    exact congrArg Except.ok (List.mergeSort_of_pairwise ordered)
  unfold Watcher.current appWatcher
  rw [selected]
  rfl

theorem current_reported : appWatcher.current reported =
    .ok [⟨statusFile "a.json", 1⟩, ⟨statusFile "b.json", 2⟩, ⟨statusFile "c.json", 3⟩] :=
  current_of_ordered ["a.json", "b.json", "c.json"] (by decide +kernel) (by decide +kernel)

theorem current_replaced : appWatcher.current replaced =
    .ok [⟨statusFile "a.json", 1⟩, ⟨statusFile "b.json", 2⟩, ⟨statusFile "c.json", 4⟩] :=
  current_of_ordered ["a.json", "b.json", "c.json"] (by decide +kernel) (by decide +kernel)

theorem current_lost : appWatcher.current lost =
    .ok [⟨statusFile "a.json", 5⟩, ⟨statusFile "b.json", 2⟩] :=
  current_of_ordered ["a.json", "b.json"] (by decide +kernel) (by decide +kernel)

theorem told_reported :
    appWatcher.told reported [] = ⟨["a.json", "b.json", "c.json"].map statusFile, []⟩ :=
  Watcher.told_of_ordered rfl (Watcher.sightings_of_current current_reported) rfl
    (by decide +kernel)

theorem told_replaced :
    appWatcher.told replaced [reported] = ⟨[statusFile "c.json"], []⟩ :=
  Watcher.told_of_ordered (Watcher.seen_after current_reported)
    (Watcher.sightings_of_current current_replaced) rfl (by decide +kernel)

theorem told_lost : appWatcher.told lost [replaced, reported] =
    ⟨[statusFile "a.json"], [statusFile "c.json"]⟩ :=
  Watcher.told_of_ordered (Watcher.seen_after current_replaced)
    (Watcher.sightings_of_current current_lost) rfl (by decide +kernel)

/-- The three polls end. -/
theorem exists_polls_lost (between : Model → Model → Prop)
    (keeps : ∀ model, between model model) :
    ∃ reportedModel replacedModel lostModel : Model,
      let reportedStatuses := statusesAfter appWatcher reported [] []
      let replacedStatuses := statusesAfter appWatcher replaced [reported] reportedStatuses
      let lostStatuses := statusesAfter appWatcher lost [replaced, reported] replacedStatuses
      reportedModel.apps = appsAfter appWatcher reported [] [] {} ∧
      replacedModel.apps =
        appsAfter appWatcher replaced [reported] reportedStatuses reportedModel.apps ∧
      lostModel.apps =
        appsAfter appWatcher lost [replaced, reported] replacedStatuses replacedModel.apps ∧
      Polls between appWatcher [replaced, reported]
        (.apps (appWatcher.after [replaced, reported]) replacedStatuses) replacedModel ∧
      Polls between appWatcher [lost, replaced, reported]
        (.apps (appWatcher.after [lost, replaced, reported]) lostStatuses) lostModel := by
  obtain ⟨_, reportedApps, first⟩ :=
    Polls.next .fresh (keeps _) current_reported (by decide +kernel)
  obtain ⟨_, replacedApps, second⟩ :=
    first.next (keeps _) current_replaced (by decide +kernel)
  obtain ⟨_, lostApps, third⟩ := second.next (keeps _) current_lost (by decide +kernel)
  exact ⟨_, _, _, reportedApps, replacedApps, lostApps, second, third⟩

theorem hasLost_lost : HasLost appWatcher [lost, replaced, reported] := by
  refine ⟨statusFile "c.json", Watcher.mem_told_removed.mp ?_⟩
  rw [told_lost]
  exact List.mem_singleton.mpr rfl

/-! ## The statuses and the applications -/

/-- After any polls that have ended, the collector has one status for each file of the last scan
that has given one since it appeared, the last one that it gave. If the last scan has lost a file,
the applications of the model are built from just these statuses, whatever the model had before. -/
theorem polls_keep_statuses {collector : Collector} {model : Model}
    (polls : Polls between source history collector model) :
    ∃ statuses, collector = .apps (source.after history) statuses ∧
      (statuses.map (·.1)).Nodup ∧
      (∀ path, path ∈ statuses.map (·.1) ↔ ∃ status, HasGiven source history path status) ∧
      (∀ path status, (path, status) ∈ statuses ↔ LastGood source history path status) ∧
      (HasLost source history → model.apps = .ofList ⟨statuses.map (·.2)⟩) := by
  obtain ⟨statuses, rfl, remembers⟩ := polls.remembers
  refine ⟨statuses, rfl, remembers.keyed, fun path => ?_, remembers.lastGood, fun hasLost => ?_⟩
  · rw [List.mem_map]
    constructor
    · rintro ⟨⟨_, status⟩, member, rfl⟩
      exact ⟨status, ((remembers.lastGood _ _).mp member).hasGiven⟩
    · rintro ⟨status, hasGiven⟩
      obtain ⟨last, good⟩ := hasGiven.exists_lastGood
      exact ⟨(path, last), (remembers.lastGood _ _).mpr good, rfl⟩
  · generalize same : Collector.apps (source.after history) statuses = collector at polls
    cases polls with
    | fresh => cases hasLost
    | poll polls meanwhile ends =>
      obtain ⟨path, lost⟩ := hasLost
      obtain ⟨before, rfl, -⟩ := polls.remembers
      obtain ⟨collector, apps⟩ := poll_leaves ends
      rw [collector] at same
      cases same
      rw [apps]
      exact if_neg fun none => Watcher.told_removed_eq_nil.mp none path lost

/-- The applications after the third poll are built from the statuses of the files that are left. -/
theorem polls_keep_statuses_lost :
    ∃ collector model, Polls Eq appWatcher [lost, replaced, reported] collector model ∧
      ∃ statuses, collector = .apps (appWatcher.after [lost, replaced, reported]) statuses ∧
        (statuses.map (·.1)).Nodup ∧ model.apps = .ofList ⟨statuses.map (·.2)⟩ := by
  obtain ⟨_, _, model, -, -, -, -, polls⟩ := exists_polls_lost Eq fun _ => rfl
  obtain ⟨statuses, collector, keyed, -, -, rebuilt⟩ := polls_keep_statuses polls
  exact ⟨_, model, polls, statuses, collector, keyed, rebuilt hasLost_lost⟩

end NodeConsole.Collector
