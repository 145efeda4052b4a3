import NodeConsole.Collector.Poll
import NodeConsole.Proofs.Files.Watcher
import NodeConsole.Proofs.Wire.Containment

/-!
# Isolation of bad files

A file that cannot be read is meant to cost its own message only: the poll reports it once, goes on
with the next file and ends by handling the files that are gone. That holds exactly when the pattern
is accepted and no changed file stops the poll. A file stops a poll when its document is nested too
deep or its message escapes; `poll_isolates_iff` says so for all collectors of status files. A poll
that is stopped has already remembered every file of its scan, so what it did not handle is lost.
-/

namespace NodeConsole.Collector

open NodeConsole.Files NodeConsole.Wire NodeConsole.Device NodeConsole.Log

variable {State Message : Type}

/-! ## Files that stop a poll -/

/-- A file fails in a way that is not dropped. -/
def Loaded.Stops (loaded : Loaded Message) : Prop :=
  ∃ fault, loaded.outcome = .error fault ∧ fault.isDropped = false

instance (loaded : Loaded Message) : Decidable loaded.Stops :=
  match outcome : loaded.outcome with
  | .ok _ => isFalse (by simp [Loaded.Stops, outcome])
  | .error fault =>
    decidable_of_iff (fault.isDropped = false) (by simp [Loaded.Stops, outcome])

/-- A file holds a document that is nested too deep, or a message that escapes. -/
def FileStops (tree : Tree) (escapes : Value → Prop) (path : Path) : Prop :=
  ∃ id time bytes, tree.file? path = some (id, time, bytes) ∧
    (document bytes = .error (.notJson .nestedTooDeep) ∨
      ∃ payload, document bytes = .ok payload ∧ escapes payload)

/-- What a file that is found holds decides whether it stops a poll. -/
theorem fileStops_iff_of_file? {tree : Tree} {path : Path} {id : Nat} {time : Int}
    {bytes : List UInt8} (found : tree.file? path = some (id, time, bytes))
    (escapes : Value → Prop) :
    FileStops tree escapes path ↔
      document bytes = .error (.notJson .nestedTooDeep) ∨
        ∃ payload, document bytes = .ok payload ∧ escapes payload := by
  constructor
  · rintro ⟨_, _, _, again, stops⟩
    cases found.symm.trans again
    exact stops
  · exact fun stops => ⟨id, time, bytes, found, stops⟩

theorem message_isDropped (failure : Wire.Failure) :
    (LoadFault.message failure).isDropped = false ↔ ∀ fault, failure ≠ .refused fault := by
  cases failure <;> simp [LoadFault.isDropped]

theorem document_isDropped (fault : DocumentFault) :
    (LoadFault.document fault).isDropped = false ↔ fault = .notJson .nestedTooDeep := by
  rcases fault with _ | (_ | _ | _) <;> simp [LoadFault.isDropped]

/-- Loading a file stops a poll exactly when the file does. -/
theorem stops_load (read : Value → Reading Message) (tree : Tree) (path : Path) :
    (load read tree path).Stops ↔ FileStops tree (fun payload => (read payload).Escapes) path := by
  cases found : tree.file? path with
  | none => simp [load, Loaded.Stops, FileStops, found, LoadFault.isDropped]
  | some file =>
    obtain ⟨id, time, bytes⟩ := file
    rw [fileStops_iff_of_file? found]
    unfold load Loaded.Stops Reading.Escapes
    cases opened : document bytes with
    | error fault => simp [found, opened, document_isDropped]
    | ok payload =>
      cases outcome : (read payload).outcome with
      | ok message =>
        have kept : (Except.ok message).mapError LoadFault.message = .ok message := rfl
        simp [found, opened, outcome, kept]
      | error failure =>
        have passed : (Except.error failure : Except _ Message).mapError LoadFault.message =
            .error (.message failure) := rfl
        simp [found, opened, outcome, passed, message_isDropped]

/-- The messages of a status topic that escape. -/
def StatusTopic.Escapes : StatusTopic → Value → Prop
  | .network => NetworkEscapes
  | .vault => VaultEscapes
  | .downloader => DownloadEscapes
  | .node | .onboarding | .summary => fun _ => False

/-- The messages that escape are those whose update does. -/
theorem StatusTopic.escapes_iff (topic : StatusTopic) (payload : Value) :
    topic.Escapes payload ↔ (topic.update payload).Escapes := by
  cases topic with
  | node => simp [StatusTopic.update, StatusTopic.Escapes, nodeReport_not_escapes]
  | onboarding => simp [StatusTopic.update, StatusTopic.Escapes, onboardingReport_not_escapes]
  | summary => simp [StatusTopic.update, StatusTopic.Escapes]
  | network => simp [StatusTopic.update, StatusTopic.Escapes, networkStatus_escapes]
  | vault => simp [StatusTopic.update, StatusTopic.Escapes, vaultReport_escapes]
  | downloader => simp [StatusTopic.update, StatusTopic.Escapes, downloadStatus_escapes]

/-! ## Handling files -/

/-- The files that give a message, each with its message, in order. -/
def accepted (loaded : Path → Loaded Message) (paths : List Path) : List (Path × Message) :=
  paths.filterMap fun path => (loaded path).outcome.toOption.map (path, ·)

theorem accepted_append (loaded : Path → Loaded Message) (paths rest : List Path) :
    accepted loaded (paths ++ rest) = accepted loaded paths ++ accepted loaded rest :=
  List.filterMap_append ..

theorem accepted_cons (loaded : Path → Loaded Message) (path : Path) (rest : List Path) :
    accepted loaded (path :: rest) = accepted loaded [path] ++ accepted loaded rest :=
  accepted_append loaded [path] rest

/-- What is reported about a file: the remarks on its message, and once that it is dropped, if it
gives none. -/
def report (topic : Topic) (path : Path) (loaded : Loaded Message) : List Entry :=
  loaded.remarks.map .remarked ++
    match loaded.outcome with
    | .ok _ => []
    | .error fault => [.dropped topic.name path fault]

/-- What is reported about files, in order. -/
def reports (topic : Topic) (loaded : Path → Loaded Message) (paths : List Path) : List Entry :=
  paths.flatMap fun path => report topic path (loaded path)

@[simp]
theorem shown_append (level : Level) (earlier later : List Entry) :
    shown level (earlier ++ later) = shown level earlier ++ shown level later :=
  List.filter_append ..

@[simp]
theorem shown_remarks (remarks : List Remark) :
    shown .warning (remarks.map .remarked) = remarks.map .remarked := by
  simp [shown, Entry.level, Level.rank]

@[simp]
theorem shown_appliedEntry (model : Model) (update : Update) :
    shown .warning [appliedEntry model update] = [] :=
  rfl

theorem eachItem_cons_of_ok {Fault Item : Type} {work : State → Item → Worked State Fault}
    {state : State} {item : Item} {changed : Bool} (done : (work state item).outcome = .ok changed)
    (rest : List Item) :
    eachItem work state (item :: rest) =
      ⟨(eachItem work (work state item).state rest).state,
        (work state item).log ++ (eachItem work (work state item).state rest).log,
        (eachItem work (work state item).state rest).outcome.map (changed || ·)⟩ := by
  rw [eachItem, done]

/-- How the files of a topic are handled: what each of them gives, and how a message is accepted.
No warning is made of a message that is accepted. -/
structure Handler (State Message : Type) where
  topic : Topic
  loaded : Path → Loaded Message
  accept : State → Path → Message → State × Entry
  quiet : ∀ state path message, shown .warning [(accept state path message).2] = []

namespace Handler

/-- Handles a file. -/
def work (handler : Handler State Message) (state : State) (path : Path) : Worked State LoadFault :=
  handle handler.topic path state (handler.accept state path) (handler.loaded path)

/-- The state after some messages. -/
def acceptAll (handler : Handler State Message) (state : State)
    (files : List (Path × Message)) : State :=
  files.foldl (fun state file => (handler.accept state file.1 file.2).1) state

/-- Work on files in isolation: every message is accepted in order, every file is reported, and the
work ends. -/
structure Isolates (handler : Handler State Message) (state : State) (paths : List Path)
    (worked : Worked State LoadFault) : Prop where
  accepts : worked.state = handler.acceptAll state (accepted handler.loaded paths)
  reports : shown .warning worked.log = reports handler.topic handler.loaded paths
  ends : worked.outcome = .ok (!(accepted handler.loaded paths).isEmpty)

/-- Work on files that stops: every message before the file that stops it is accepted in order, and
nothing comes of the files after it. -/
structure StopsAfter (handler : Handler State Message) (state : State) (before : List Path)
    (path : Path) (worked : Worked State LoadFault) : Prop where
  accepts : worked.state = handler.acceptAll state (accepted handler.loaded before)
  reports : shown .warning worked.log =
    reports handler.topic handler.loaded before ++ (handler.loaded path).remarks.map .remarked
  fails : ∃ fault, worked.outcome = .error fault ∧ (handler.loaded path).outcome = .error fault

variable {handler : Handler State Message} {state : State} {path : Path} {paths : List Path}

theorem acceptAll_append (handler : Handler State Message) (state : State)
    (paths rest : List Path) :
    handler.acceptAll state (accepted handler.loaded (paths ++ rest)) =
      handler.acceptAll (handler.acceptAll state (accepted handler.loaded paths))
        (accepted handler.loaded rest) := by
  rw [accepted_append]
  exact List.foldl_append ..

/-- A file that does not stop the poll is handled in isolation. -/
theorem work_isolates (goesOn : ¬(handler.loaded path).Stops) (state : State) :
    handler.Isolates state [path] (handler.work state path) := by
  unfold work handle
  cases outcome : (handler.loaded path).outcome with
  | ok message =>
    constructor <;>
      simp [outcome, acceptAll, accepted, Collector.reports, report, Except.toOption, handler.quiet]
  | error fault =>
    have dropped : fault.isDropped = true :=
      Bool.of_not_eq_false fun stops => goesOn ⟨fault, outcome, stops⟩
    constructor <;>
      simp [outcome, acceptAll, accepted, Collector.reports, report, Except.toOption, dropped,
        shown, Entry.level, Level.rank]

theorem work_stops (stops : (handler.loaded path).Stops) (state : State) :
    handler.StopsAfter state [] path (handler.work state path) := by
  obtain ⟨fault, failed, notDropped⟩ := stops
  unfold work handle
  constructor <;>
    simp [failed, notDropped, acceptAll, accepted, Collector.reports]

/-- Files handled in isolation one after another are handled in isolation together. -/
theorem Isolates.cons (handled : handler.Isolates state [path] (handler.work state path))
    {rest : List Path}
    (followed : handler.Isolates (handler.work state path).state rest
      (eachItem handler.work (handler.work state path).state rest)) :
    handler.Isolates state (path :: rest) (eachItem handler.work state (path :: rest)) := by
  rw [eachItem_cons_of_ok handled.ends]
  constructor
  · rw [followed.accepts, handled.accepts]
    exact (handler.acceptAll_append state [path] rest).symm
  · simp [handled.reports, followed.reports, Collector.reports]
  · rw [followed.ends, accepted_cons handler.loaded path rest]
    cases accepted handler.loaded [path] <;> rfl

/-- A file handled in isolation does not keep the files after it from stopping the poll. -/
theorem Isolates.cons_stopsAfter (handled : handler.Isolates state [path] (handler.work state path))
    {before rest : List Path} {last : Path}
    (followed : handler.StopsAfter (handler.work state path).state before last
      (eachItem handler.work (handler.work state path).state rest)) :
    handler.StopsAfter state (path :: before) last
      (eachItem handler.work state (path :: rest)) := by
  rw [eachItem_cons_of_ok handled.ends]
  obtain ⟨fault, fails, failed⟩ := followed.fails
  constructor
  · rw [followed.accepts, handled.accepts]
    exact (handler.acceptAll_append state [path] before).symm
  · simp [handled.reports, followed.reports, Collector.reports]
  · exact ⟨fault, by rw [fails]; rfl, failed⟩

/-- Files of which none stops the poll are handled in isolation. -/
theorem eachItem_isolates (goOn : ∀ path ∈ paths, ¬(handler.loaded path).Stops) (state : State) :
    handler.Isolates state paths (eachItem handler.work state paths) := by
  induction paths generalizing state with
  | nil => exact ⟨rfl, rfl, rfl⟩
  | cons path rest inductionHypothesis =>
    obtain ⟨goesOn, othersGoOn⟩ := List.forall_mem_cons.mp goOn
    exact (work_isolates goesOn state).cons (inductionHypothesis othersGoOn _)

/-- Files of which one stops the poll are handled in isolation up to the first that does. -/
theorem eachItem_stopsAfter (handler : Handler State Message)
    (stops : ∃ path ∈ paths, (handler.loaded path).Stops) (state : State) :
    ∃ before path after, paths = before ++ path :: after ∧
      handler.StopsAfter state before path (eachItem handler.work state paths) := by
  induction paths generalizing state with
  | nil => simp at stops
  | cons first rest inductionHypothesis =>
    by_cases firstStops : (handler.loaded first).Stops
    · have stopped := work_stops firstStops state
      obtain ⟨fault, fails, -⟩ := stopped.fails
      refine ⟨[], first, rest, rfl, ?_⟩
      rwa [eachItem, fails]
    · have laterStops : ∃ path ∈ rest, (handler.loaded path).Stops := by
        simpa [firstStops] using stops
      have handled := work_isolates firstStops state
      obtain ⟨before, path, after, rfl, stopped⟩ := inductionHypothesis laterStops _
      exact ⟨first :: before, path, after, rfl, handled.cons_stopsAfter stopped⟩

end Handler

/-! ## Polls -/

/-- A poll stops: its pattern is refused, or a changed file stops it. -/
def PollStops (tree : Tree) (watcher : Watcher) (escapes : Value → Prop) : Prop :=
  (∃ fault, watcher.scan tree = .error fault) ∨
    ∃ changes next, watcher.scan tree = .ok (changes, next) ∧
      ∃ path ∈ changes.changed, FileStops tree escapes path

/-- The poll of a status topic ends; it has applied the message of every changed file that gives
one, in order, has reported every other one, and has logged the files that are gone. -/
def StatusIsIsolated (tree : Tree) (model : Model) (topic : StatusTopic) (watcher : Watcher) :
    Prop :=
  ∃ changes next, watcher.scan tree = .ok (changes, next) ∧
    let polled := (Collector.status topic watcher).poll tree model
    let loaded := load topic.update tree
    let files := accepted loaded changes.changed
    polled.outcome = .ok (!files.isEmpty) ∧
    polled.model = model.applyAll (files.map (·.2)) ∧
    polled.collector = .status topic next ∧
    shown .warning polled.log = reports topic.topic loaded changes.changed ∧
    (changes.removed ≠ [] →
      .filesRemoved topic.topic.name changes.removed.length ∈ polled.log)

/-- The statuses that are known after some files. -/
def Statuses.setAll (statuses : Statuses) (files : List (Path × AppStatus)) : Statuses :=
  files.foldl (fun statuses file => statuses.set file.1 file.2) statuses

/-- The poll of the applications ends; it has applied the message of every changed file that gives
one, in order, has reported every other one, and if files are gone it has built the applications
anew from the files that are left. -/
def AppsAreIsolated (tree : Tree) (model : Model) (watcher : Watcher) (statuses : Statuses) :
    Prop :=
  ∃ changes next, watcher.scan tree = .ok (changes, next) ∧
    let polled := (Collector.apps watcher statuses).poll tree model
    let loaded := load appStatus tree
    let files := accepted loaded changes.changed
    let applied := model.applyAll (files.map (.app ·.2))
    let left := (statuses.setAll files).filter fun entry => !changes.removed.contains entry.1
    polled.outcome = .ok (!files.isEmpty || !changes.removed.isEmpty) ∧
    polled.model =
      (if changes.removed = [] then applied else applied.apply (.appList ⟨left.map (·.2)⟩)) ∧
    polled.collector = .apps next left ∧
    shown .warning polled.log = reports .apps loaded changes.changed

/-- How the files of a status topic are handled. -/
def StatusTopic.handler (topic : StatusTopic) (tree : Tree) : Handler Model Update where
  topic := topic.topic
  loaded := load topic.update tree
  accept model _ update := (model.apply update, appliedEntry model update)
  quiet _ _ _ := rfl

/-- How the files of the applications are handled. -/
def appHandler (tree : Tree) : Handler AppsState AppStatus where
  topic := .apps
  loaded := load appStatus tree
  accept state path status :=
    (⟨state.model.apply (.app status), state.statuses.set path status⟩,
      appliedEntry state.model (.app status))
  quiet _ _ _ := rfl

@[simp]
theorem StatusTopic.handler_topic (topic : StatusTopic) (tree : Tree) :
    (topic.handler tree).topic = topic.topic :=
  rfl

@[simp]
theorem StatusTopic.handler_loaded (topic : StatusTopic) (tree : Tree) :
    (topic.handler tree).loaded = load topic.update tree :=
  rfl

@[simp]
theorem appHandler_topic (tree : Tree) : (appHandler tree).topic = .apps :=
  rfl

@[simp]
theorem appHandler_loaded (tree : Tree) : (appHandler tree).loaded = load appStatus tree :=
  rfl

theorem acceptAll_status (topic : StatusTopic) (tree : Tree) (model : Model)
    (files : List (Path × Update)) :
    (topic.handler tree).acceptAll model files = model.applyAll (files.map (·.2)) := by
  rw [Model.applyAll, List.foldl_map]
  rfl

theorem acceptAll_app (tree : Tree) (state : AppsState) (files : List (Path × AppStatus)) :
    (appHandler tree).acceptAll state files =
      ⟨state.model.applyAll (files.map (.app ·.2)), state.statuses.setAll files⟩ := by
  induction files generalizing state with
  | nil => rfl
  | cons file rest inductionHypothesis => exact inductionHypothesis _

/-- Once its pattern is accepted, a poll stops exactly when one of the changed files stops it. -/
theorem pollStops_iff_of_scan {tree : Tree} {watcher next : Watcher} {changes : Changes}
    (scanned : watcher.scan tree = .ok (changes, next)) {read : Value → Reading Message}
    {escapes : Value → Prop} (exact : ∀ payload, escapes payload ↔ (read payload).Escapes) :
    PollStops tree watcher escapes ↔ ∃ path ∈ changes.changed, (load read tree path).Stops := by
  simp only [stops_load, ← exact]
  constructor
  · rintro (⟨fault, refused⟩ | ⟨_, _, again, stops⟩)
    · rw [scanned] at refused
      exact nomatch refused
    · cases scanned.symm.trans again
      exact stops
  · exact fun stops => .inr ⟨changes, next, scanned, stops⟩

section Scanned

variable {tree : Tree} {watcher next : Watcher} {changes : Changes}
  (scanned : watcher.scan tree = .ok (changes, next))

include scanned

/-- The poll of a status topic handles its files in isolation if none of them stops it. -/
theorem pollStatus_isolates {topic : StatusTopic}
    (goOn : ∀ path ∈ changes.changed, ¬(load topic.update tree path).Stops) (model : Model) :
    StatusIsIsolated tree model topic watcher := by
  have isolated : (topic.handler tree).Isolates model changes.changed _ :=
    Handler.eachItem_isolates goOn _
  have worked : eachItem (handleStatus tree topic) model changes.changed =
      eachItem (topic.handler tree).work model changes.changed := rfl
  have removal : shown .warning (if changes.removed = [] then []
      else [.filesRemoved topic.topic.name changes.removed.length]) = [] := by
    split <;> rfl
  refine ⟨changes, next, scanned, ?_⟩
  simpa [poll, pollStatus, scanned, worked, isolated.ends, isolated.accepts, isolated.reports,
    acceptAll_status, removal] using fun gone => .inr gone

/-- The poll of the applications handles its files in isolation if none of them stops it. -/
theorem pollApps_isolates (goOn : ∀ path ∈ changes.changed, ¬(load appStatus tree path).Stops)
    (model : Model) (statuses : Statuses) : AppsAreIsolated tree model watcher statuses := by
  have isolated : (appHandler tree).Isolates ⟨model, statuses⟩ changes.changed _ :=
    Handler.eachItem_isolates goOn _
  have worked : eachItem (handleApp tree) ⟨model, statuses⟩ changes.changed =
      eachItem (appHandler tree).work ⟨model, statuses⟩ changes.changed := rfl
  refine ⟨changes, next, scanned, ?_⟩
  cases removed : changes.removed with
  | nil =>
    simp only [poll, pollApps, scanned, worked, isolated.ends, isolated.accepts, isolated.reports,
      acceptAll_app, removed, appHandler_topic, appHandler_loaded, ↓reduceIte, List.isEmpty_nil,
      Bool.not_true, Bool.or_false, List.contains_nil, Bool.not_false, true_and, and_true]
    exact congrArg _ (List.filter_eq_self.mpr fun _ _ => rfl).symm
  | cons first others =>
    simp [poll, pollApps, scanned, worked, isolated.ends, isolated.accepts, isolated.reports,
      acceptAll_app, removed, rebuild]

/-- The poll of a status topic that a file stops has applied the files before it. The next poll of
the same tree has nothing to do: the files after it are lost. -/
theorem pollStatus_stops {topic : StatusTopic}
    (stops : ∃ path ∈ changes.changed, (load topic.update tree path).Stops) (model : Model) :
    let polled := (Collector.status topic watcher).poll tree model
    ∃ before path after fault, changes.changed = before ++ path :: after ∧
      (load topic.update tree path).outcome = .error fault ∧
      polled.outcome = .error (.file fault) ∧
      polled.model = model.applyAll ((accepted (load topic.update tree) before).map (·.2)) ∧
      polled.collector.poll tree polled.model =
        ⟨polled.collector, polled.model, [], .ok false⟩ := by
  obtain ⟨before, path, after, split, stopped⟩ :=
    (topic.handler tree).eachItem_stopsAfter stops model
  obtain ⟨fault, fails, failed⟩ := stopped.fails
  have worked : eachItem (handleStatus tree topic) model changes.changed =
      eachItem (topic.handler tree).work model changes.changed := rfl
  refine ⟨before, path, after, fault, split, failed, ?_⟩
  simp [poll, pollStatus, scanned, worked, fails, stopped.accepts, acceptAll_status,
    Watcher.scan_again scanned, eachItem]

/-- The poll of the applications that a file stops has applied the files before it. The next poll of
the same tree has nothing to do: the files after it are lost, and those that were gone stay. -/
theorem pollApps_stops (stops : ∃ path ∈ changes.changed, (load appStatus tree path).Stops)
    (model : Model) (statuses : Statuses) :
    let polled := (Collector.apps watcher statuses).poll tree model
    ∃ before path after fault, changes.changed = before ++ path :: after ∧
      (load appStatus tree path).outcome = .error fault ∧
      polled.outcome = .error (.file fault) ∧
      polled.model = model.applyAll ((accepted (load appStatus tree) before).map (.app ·.2)) ∧
      polled.collector.poll tree polled.model =
        ⟨polled.collector, polled.model, [], .ok false⟩ := by
  obtain ⟨before, path, after, split, stopped⟩ :=
    (appHandler tree).eachItem_stopsAfter stops ⟨model, statuses⟩
  obtain ⟨fault, fails, failed⟩ := stopped.fails
  have worked : eachItem (handleApp tree) ⟨model, statuses⟩ changes.changed =
      eachItem (appHandler tree).work ⟨model, statuses⟩ changes.changed := rfl
  refine ⟨before, path, after, fault, split, failed, ?_⟩
  simp [poll, pollApps, scanned, worked, fails, stopped.accepts, acceptAll_app,
    Watcher.scan_again scanned, eachItem]

end Scanned

section Ended

variable {tree : Tree} {model : Model} {watcher : Watcher} {changed : Bool}

/-- The poll of a status topic that ends has not stopped. -/
theorem pollStatus_goesOn {topic : StatusTopic}
    (ends : ((Collector.status topic watcher).poll tree model).outcome = .ok changed) :
    ¬PollStops tree watcher topic.Escapes := by
  intro stops
  cases scanned : watcher.scan tree with
  | error fault => simp [poll, pollStatus, scanned] at ends
  | ok found =>
    rw [pollStops_iff_of_scan scanned topic.escapes_iff] at stops
    obtain ⟨_, _, _, fault, -, -, fails, -⟩ := pollStatus_stops scanned stops model
    rw [ends] at fails
    exact nomatch fails

/-- The poll of the applications that ends has not stopped. -/
theorem pollApps_goesOn {statuses : Statuses}
    (ends : ((Collector.apps watcher statuses).poll tree model).outcome = .ok changed) :
    ¬PollStops tree watcher AppEscapes := by
  intro stops
  cases scanned : watcher.scan tree with
  | error fault => simp [poll, pollApps, scanned] at ends
  | ok found =>
    rw [pollStops_iff_of_scan scanned fun payload => (appStatus_escapes payload).symm] at stops
    obtain ⟨_, _, _, fault, -, -, fails, -⟩ := pollApps_stops scanned stops model statuses
    rw [ends] at fails
    exact nomatch fails

end Ended

/-- The poll of a status topic handles its files in isolation exactly when it does not stop. -/
theorem statusIsIsolated_iff (tree : Tree) (model : Model) (topic : StatusTopic)
    (watcher : Watcher) :
    StatusIsIsolated tree model topic watcher ↔ ¬PollStops tree watcher topic.Escapes := by
  refine ⟨fun ⟨_, _, _, ends, _⟩ => pollStatus_goesOn ends, fun goesOn => ?_⟩
  cases scanned : watcher.scan tree with
  | error fault => exact absurd (.inl ⟨fault, scanned⟩) goesOn
  | ok found =>
    rw [pollStops_iff_of_scan scanned topic.escapes_iff] at goesOn
    exact pollStatus_isolates scanned (fun path member stops => goesOn ⟨path, member, stops⟩) model

/-- The poll of the applications handles its files in isolation exactly when it does not stop. -/
theorem appsAreIsolated_iff (tree : Tree) (model : Model) (watcher : Watcher)
    (statuses : Statuses) :
    AppsAreIsolated tree model watcher statuses ↔ ¬PollStops tree watcher AppEscapes := by
  refine ⟨fun ⟨_, _, _, ends, _⟩ => pollApps_goesOn ends, fun goesOn => ?_⟩
  cases scanned : watcher.scan tree with
  | error fault => exact absurd (.inl ⟨fault, scanned⟩) goesOn
  | ok found =>
    rw [pollStops_iff_of_scan scanned fun payload => (appStatus_escapes payload).symm] at goesOn
    exact pollApps_isolates scanned (fun path member stops => goesOn ⟨path, member, stops⟩) model
      statuses

/-- Polls handle their files in isolation exactly when they do not stop. -/
theorem poll_isolates_iff (tree : Tree) (model : Model) (watcher : Watcher) :
    (∀ topic, StatusIsIsolated tree model topic watcher ↔
      ¬PollStops tree watcher topic.Escapes) ∧
    (∀ statuses, AppsAreIsolated tree model watcher statuses ↔
      ¬PollStops tree watcher AppEscapes) :=
  ⟨fun topic => statusIsIsolated_iff tree model topic watcher,
    fun statuses => appsAreIsolated_iff tree model watcher statuses⟩

/-- The status file of an application. -/
def statusFile (name : String) : Path :=
  ⟨"/", ["run", "zedmanager", "AppInstanceStatus", name]⟩

/-- A tree with a file whose application started out of the calendar, and a good file that was
changed after it. -/
def lateStart : Tree :=
  let late :=
    "\x7b\"UUIDandVersion\": \x7b\"UUID\": \"aaaaaaaa-0000-0000-0000-000000000001\"\x7d, " ++
      "\"State\": 115, \"BootTime\": \"9999-12-31T23:59:59-01:00\"\x7d"
  let good :=
    "\x7b\"UUIDandVersion\": \x7b\"UUID\": \"bbbbbbbb-0000-0000-0000-000000000002\"\x7d, " ++
      "\"State\": 115\x7d"
  let first := Tree.write {} (statusFile "a.json") 1 late.toUTF8.data.toList
  (first.tree.write (statusFile "b.json") 2 good.toUTF8.data.toList).tree

/-- The first file stops the poll, and the second one is not applied. -/
theorem lateStart_not_isolated :
    ¬AppsAreIsolated lateStart {} ⟨⟨"/", ["run"]⟩, Topic.apps.defaultPattern, []⟩ [] := by
  have reached : (globBelow lateStart ⟨"/", ["run"]⟩ Topic.apps.defaultPattern).toOption =
      some (["a.json", "b.json"].map fun name =>
        ⟨statusFile name, ["run", "zedmanager", "AppInstanceStatus", name]⟩) := by
    decide +kernel
  have selected : resolve lateStart ⟨"/", ["run"]⟩ Topic.apps.defaultPattern =
      .ok [statusFile "a.json", statusFile "b.json"] := by
    rw [resolve_of_relative (by decide +kernel) reached, List.mergeSort_of_pairwise]
    · rfl
    · decide +kernel
  have scanned : ∃ changes next,
      Watcher.scan lateStart ⟨⟨"/", ["run"]⟩, Topic.apps.defaultPattern, []⟩ = .ok (changes, next) ∧
        statusFile "a.json" ∈ changes.changed := by
    refine ⟨_, _, by simp only [Watcher.scan, Watcher.current, selected]; rfl, ?_⟩
    exact Watcher.mem_changed.mpr ⟨1, by decide +kernel⟩
  obtain ⟨changes, next, scanned, changed⟩ := scanned
  rw [appsAreIsolated_iff, Classical.not_not,
    pollStops_iff_of_scan scanned fun payload => (appStatus_escapes payload).symm]
  exact ⟨_, changed, by decide +kernel⟩

end NodeConsole.Collector
