import NodeConsole.Proofs.Collector.Statuses
import NodeConsole.Proofs.Device.Accumulation

/-!
# What the model shows of the applications

A poll that loses no file takes statuses over one by one, a poll that loses one builds the
applications anew. An application that a file has reported on before it turned to another one is
therefore shown until the next poll that loses a file. Apart from that, the model shows the
applications of the last statuses, none whose file is gone, and of the statuses that were taken over
since a file was lost the last one: `Polls.shows`. If every file keeps to one application and every
application to one file, the model is what building it anew would give.
-/

namespace NodeConsole.Collector

open NodeConsole.Files NodeConsole.Wire NodeConsole.Device

variable {source : Watcher} {tree : Tree} {earlier history : List Tree} {path : Path}
  {status : AppStatus} {apps start : AppMap} {statuses : Statuses}

/-- Whatever is done between polls, the applications stay. -/
def KeepsApps (before after : Model) : Prop :=
  after.apps = before.apps

/-- The statuses that were taken over since a poll lost a file, in order. -/
def sinceLoss (source : Watcher) : List Tree → List AppStatus
  | [] => []
  | tree :: earlier =>
    if (source.told tree earlier).removed = [] then
      sinceLoss source earlier ++ (given source tree earlier).map (·.2)
    else []

/-- The files that are seen keep to the applications that they report on. -/
def KeepsToApp (source : Watcher) (history : List Tree) : Prop :=
  ∀ path status other, HasGiven source history path status → HasGiven source history path other →
    other.uuid = status.uuid

/-- The files that are seen report each on an application of its own. -/
def OneAppEach (source : Watcher) (history : List Tree) : Prop :=
  ∀ path status other otherStatus, HasGiven source history path status →
    HasGiven source history other otherStatus → (otherStatus.uuid = status.uuid ↔ other = path)

/-- What applications show after polls. -/
structure Shows (source : Watcher) (history : List Tree) (apps : AppMap) : Prop where
  /-- An application that the last status of a file is of is shown. -/
  present : ∀ path status, LastGood source history path status →
    ∃ app, apps.find? status.uuid = some app
  /-- What is shown is a status of a file that is still there, the last one unless the file has
  turned to another application. -/
  stems : ∀ uuid app, apps.find? uuid = some app → ∃ path status,
    status.uuid = uuid ∧ app = .of status ∧ HasGiven source history path status ∧
      (LastGood source history path status ∨
        ∃ last, LastGood source history path last ∧ last.uuid ≠ uuid)
  /-- Of the statuses taken over since a file was lost, the last one of an application is shown. -/
  latest : ∀ uuid status, newest? (sinceLoss source history) uuid = some status →
    apps.find? uuid = some (.of status)
  /-- When a file has just been lost, only last statuses are shown. -/
  rebuilt : HasLost source history → ∀ uuid app, apps.find? uuid = some app →
    ∃ path status, LastGood source history path status ∧ status.uuid = uuid ∧ app = .of status

theorem HasGiven.seesLast (hasGiven : HasGiven source history path status) :
    source.SeesLast history path := by
  cases hasGiven with
  | given gives => exact gives.1.sees
  | kept before sees => exact sees

theorem exists_newest? {files : List (Path × AppStatus)} (member : (path, status) ∈ files) :
    ∃ last, newest? (files.map (·.2)) status.uuid = some last :=
  newest?_isSome (List.mem_map.mpr ⟨(path, status), member, rfl⟩)

theorem exists_of_newest? {files : List (Path × AppStatus)} {uuid : Uuid}
    (found : newest? (files.map (·.2)) uuid = some status) :
    ∃ path, (path, status) ∈ files ∧ status.uuid = uuid := by
  obtain ⟨listed, own⟩ := mem_of_newest? found
  obtain ⟨⟨path, _⟩, member, rfl⟩ := List.mem_map.mp listed
  exact ⟨path, member, own⟩

/-! ## One poll -/

/-- A poll that loses no file takes over what it is given. -/
theorem Shows.updates (shows : Shows source earlier start)
    (noLoss : ∀ path, ¬source.Loses tree earlier path) :
    Shows source (tree :: earlier)
      (((given source tree earlier).map (·.2)).foldl AppMap.update start) where
  present path status good := by
    rw [AppMap.find?_updates]
    cases good with
    | given gives =>
      obtain ⟨last, found⟩ := exists_newest? (mem_given.mpr gives)
      rw [found]
      exact ⟨_, rfl⟩
    | kept before sees noOther =>
      obtain ⟨app, found⟩ := shows.present path status before
      rw [found]
      cases newest? ((given source tree earlier).map (·.2)) status.uuid <;> exact ⟨_, rfl⟩
  stems uuid app shown := by
    rw [AppMap.find?_updates] at shown
    cases found : newest? ((given source tree earlier).map (·.2)) uuid with
    | some status =>
      rw [found] at shown
      cases shown
      obtain ⟨path, member, own⟩ := exists_of_newest? found
      have gives := mem_given.mp member
      exact ⟨path, status, own, rfl, .given gives, .inl (.given gives)⟩
    | none =>
      rw [found] at shown
      -- The entry is an earlier one: its file is still there, but may have turned away.
      obtain ⟨path, status, own, rfl, hasGiven, last⟩ := shows.stems uuid app shown
      have sees : source.Sees tree path :=
        Classical.byContradiction fun gone => noLoss path ⟨hasGiven.seesLast, gone⟩
      refine ⟨path, status, own, rfl, .kept hasGiven sees, ?_⟩
      have turns (other : AppStatus) (gives : Gives source tree earlier path other)
          (good : LastGood source (tree :: earlier) path other) :
          ∃ last, LastGood source (tree :: earlier) path last ∧ last.uuid ≠ uuid := by
        refine ⟨other, good, ?_⟩
        rintro rfl
        obtain ⟨last, again⟩ := exists_newest? (mem_given.mpr gives)
        rw [found] at again
        cases again
      obtain good | ⟨last, good, turned⟩ := last
      · obtain same | ⟨other, gives, good⟩ := good.next sees
        · exact .inl same
        · exact .inr (turns other gives good)
      · obtain same | ⟨other, gives, good⟩ := good.next sees
        · exact .inr ⟨last, same, turned⟩
        · exact .inr (turns other gives good)
  latest uuid status found := by
    unfold sinceLoss at found
    rw [if_pos (Watcher.told_removed_eq_nil.mpr noLoss), newest?_append] at found
    rw [AppMap.find?_updates]
    cases again : newest? ((given source tree earlier).map (·.2)) uuid with
    | some last =>
      rw [again] at found
      cases found
      rfl
    | none =>
      rw [again] at found
      exact shows.latest uuid status found
  rebuilt hasLost := by
    obtain ⟨path, lost⟩ := hasLost
    exact absurd lost (noLoss path)

/-- Applications that are built from the last statuses show just these. -/
theorem Remembers.shows (remembers : Remembers source (tree :: earlier) statuses)
    (loss : ∃ path, source.Loses tree earlier path) :
    Shows source (tree :: earlier) (.ofList ⟨statuses.map (·.2)⟩) := by
  have onlyLast (uuid : Uuid) (app : App)
      (shown : (AppMap.ofList ⟨statuses.map (·.2)⟩).find? uuid = some app) :
      ∃ path status, LastGood source (tree :: earlier) path status ∧ status.uuid = uuid ∧
        app = .of status := by
    rw [AppMap.find?_ofList] at shown
    obtain ⟨status, found, rfl⟩ := Option.map_eq_some_iff.mp shown
    obtain ⟨path, member, own⟩ := exists_of_newest? found
    exact ⟨path, status, (remembers.lastGood _ _).mp member, own, rfl⟩
  constructor
  case present =>
    intro path status good
    obtain ⟨last, found⟩ := exists_newest? ((remembers.lastGood path status).mpr good)
    rw [AppMap.find?_ofList, found]
    exact ⟨_, rfl⟩
  case stems =>
    intro uuid app shown
    obtain ⟨path, status, good, own, rfl⟩ := onlyLast uuid app shown
    exact ⟨path, status, own, rfl, good.hasGiven, .inl good⟩
  case latest =>
    intro uuid status found
    obtain ⟨path, lost⟩ := loss
    unfold sinceLoss at found
    rw [if_neg fun none => Watcher.told_removed_eq_nil.mp none path lost] at found
    cases found
  case rebuilt => exact fun _ => onlyLast

/-! ## All polls -/

/-- After any polls the model shows the statuses that it should. -/
theorem Polls.shows {collector : Collector} {model : Model}
    (polls : Polls KeepsApps source history collector model) : Shows source history model.apps := by
  induction polls with
  | fresh =>
    refine ⟨?_, ?_, ?_, ?_⟩
    · intro path status good
      cases good
    · intro uuid app shown
      cases shown
    · intro uuid status found
      cases found
    · intro hasLost
      cases hasLost
  | @poll tree earlier collector model start changed polls meanwhile ends inductionHypothesis =>
    obtain ⟨statuses, rfl, remembers⟩ := polls.remembers
    rw [(poll_leaves ends).2, show start.apps = model.apps from meanwhile]
    unfold appsAfter
    split
    · next none => exact inductionHypothesis.updates (Watcher.told_removed_eq_nil.mp none)
    · next some =>
      refine remembers.statusesAfter.shows (Classical.byContradiction fun none => some ?_)
      exact Watcher.told_removed_eq_nil.mpr fun path lost => none ⟨path, lost⟩

/-! ## Files that keep to their applications -/

theorem OneAppEach.keepsToApp (oneAppEach : OneAppEach source history) :
    KeepsToApp source history := by
  intro path status other hasGiven again
  exact (oneAppEach path status path other hasGiven again).mpr rfl

/-- As long as files keep to their applications, those of the last statuses are shown. -/
theorem Shows.exists_iff (shows : Shows source history apps)
    (keepsToApp : KeepsToApp source history) (uuid : Uuid) :
    (∃ app, apps.find? uuid = some app) ↔
      ∃ path status, LastGood source history path status ∧ status.uuid = uuid := by
  constructor
  · rintro ⟨app, shown⟩
    obtain ⟨path, status, rfl, -, hasGiven, good | ⟨last, good, turned⟩⟩ :=
      shows.stems uuid app shown
    · exact ⟨path, status, good, rfl⟩
    · exact absurd (keepsToApp path status last hasGiven good.hasGiven) turned
  · rintro ⟨path, status, good, rfl⟩
    exact shows.present path status good

/-- A file with an application of its own is shown by its last status. -/
theorem Shows.find?_of_lastGood (shows : Shows source history apps)
    (oneAppEach : OneAppEach source history) (good : LastGood source history path status) :
    apps.find? status.uuid = some (.of status) := by
  obtain ⟨app, shown⟩ := shows.present path status good
  obtain ⟨other, otherStatus, own, rfl, hasGiven, last⟩ := shows.stems status.uuid app shown
  obtain rfl := (oneAppEach path status other otherStatus good.hasGiven hasGiven).mp own
  obtain again | ⟨last, again, turned⟩ := last
  · rw [shown, good.unique again]
  · rw [good.unique again] at turned
    exact absurd rfl turned

/-- The applications of files with one of their own are those that are built anew. -/
theorem Shows.find?_eq_rebuilt (shows : Shows source history apps)
    (oneAppEach : OneAppEach source history) (remembers : Remembers source history statuses)
    (uuid : Uuid) :
    apps.find? uuid = (AppMap.ofList ⟨statuses.map (·.2)⟩).find? uuid := by
  rw [AppMap.find?_ofList]
  cases found : newest? (statuses.map (·.2)) uuid with
  | some status =>
    obtain ⟨path, member, rfl⟩ := exists_of_newest? found
    exact shows.find?_of_lastGood oneAppEach ((remembers.lastGood path status).mp member)
  | none =>
    cases shown : apps.find? uuid with
    | none => rfl
    | some app =>
      obtain ⟨path, status, good, rfl⟩ :=
        (shows.exists_iff oneAppEach.keepsToApp uuid).mp ⟨app, shown⟩
      obtain ⟨last, again⟩ := exists_newest? ((remembers.lastGood path status).mpr good)
      rw [found] at again
      cases again

/-- After any polls that have ended, the model shows an application of each last status, and besides
these only applications whose file is still there and has turned to another one since; none of them
is shown when a file has just been lost. Of the statuses taken over since then, the last one of an
application is shown. If files keep to their applications, those of the last statuses are shown and
no others; and if each file also has its own, the model is what building it from the last statuses
gives. -/
theorem polls_show_statuses {collector : Collector} {model : Model}
    (polls : Polls KeepsApps source history collector model) :
    ∃ statuses, collector = .apps (source.after history) statuses ∧
      Shows source history model.apps ∧
      (KeepsToApp source history → ∀ uuid, (∃ app, model.apps.find? uuid = some app) ↔
        ∃ path status, LastGood source history path status ∧ status.uuid = uuid) ∧
      (OneAppEach source history →
        (∀ uuid, model.apps.find? uuid =
          (AppMap.ofList ⟨statuses.map (·.2)⟩).find? uuid) ∧
        ∀ path status, LastGood source history path status →
          model.apps.find? status.uuid = some (.of status)) := by
  obtain ⟨statuses, rfl, remembers⟩ := polls.remembers
  have shows := polls.shows
  refine ⟨statuses, rfl, shows, shows.exists_iff, fun oneAppEach => ⟨?_, ?_⟩⟩
  · exact shows.find?_eq_rebuilt oneAppEach remembers
  · intro path status good
    exact shows.find?_of_lastGood oneAppEach good

/-- After the three polls there is a status for each application that is shown. -/
theorem polls_show_statuses_lost :
    ∃ collector model, Polls KeepsApps appWatcher [lost, replaced, reported] collector model ∧
      Shows appWatcher [lost, replaced, reported] model.apps := by
  obtain ⟨_, _, model, -, -, -, -, polls⟩ := exists_polls_lost KeepsApps fun _ => rfl
  obtain ⟨statuses, -, shows, -, -⟩ := polls_show_statuses polls
  exact ⟨_, model, polls, shows⟩

/-- After the second poll an application is shown that no last status is of. After the third poll
the status of an application is shown that is not the one taken over last. -/
theorem polls_not_rebuilt :
    (∃ collector model, Polls KeepsApps appWatcher [replaced, reported] collector model ∧
      (∃ app, model.apps.find? ⟨2⟩ = some app) ∧
      ∀ path status, LastGood appWatcher [replaced, reported] path status → status.uuid ≠ ⟨2⟩) ∧
    ∃ collector model status,
      Polls KeepsApps appWatcher [lost, replaced, reported] collector model ∧
      given appWatcher lost [replaced, reported] = [(statusFile "a.json", status)] ∧
      model.apps.find? status.uuid ≠ some (.of status) := by
  obtain ⟨first, second, third, firstApps, secondApps, thirdApps, turned, removed⟩ :=
    exists_polls_lost KeepsApps fun _ => rfl
  refine ⟨⟨_, second, turned, ?_, ?_⟩, ?_⟩
  · refine Option.isSome_iff_exists.mp ?_
    rw [secondApps, firstApps]
    simp only [appsAfter, statusesAfter, given, told_reported, told_replaced]
    decide +kernel
  · have others : ∀ entry ∈ statusesAfter appWatcher replaced [reported]
        (statusesAfter appWatcher reported [] []), entry.2.uuid ≠ ⟨2⟩ := by
      simp only [statusesAfter, given, told_reported, told_replaced]
      decide +kernel
    obtain ⟨_, same, remembers⟩ := turned.remembers
    cases same
    intro path status good
    exact others (path, status) ((remembers.lastGood path status).mpr good)
  · have differs : ((load appStatus lost (statusFile "a.json")).outcome.toOption.any fun status =>
        third.apps.find? status.uuid ≠ some (.of status)) = true := by
      rw [thirdApps]
      simp only [appsAfter, statusesAfter, given, told_reported, told_replaced, told_lost,
        reduceCtorEq, ↓reduceIte]
      decide +kernel
    obtain ⟨status, loaded, differs⟩ := (Option.any_eq_true ..).mp differs
    refine ⟨_, third, status, removed, ?_, of_decide_eq_true differs⟩
    unfold given accepted
    rw [told_lost, List.filterMap_cons, loaded]
    rfl

end NodeConsole.Collector
