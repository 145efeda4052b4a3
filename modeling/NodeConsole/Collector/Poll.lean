import NodeConsole.Collector.Topic
import NodeConsole.Files.Watcher
import NodeConsole.KernelLog.Reader
import NodeConsole.Log

/-!
# Polling

A collector brings one topic into the model. A poll handles the files that have changed, oldest
first, so that the newest message stays. The collector of the applications keeps the last status of
every file; when a file is gone it builds the applications anew from the files that are left.
-/

namespace NodeConsole

open NodeConsole.Files NodeConsole.Wire NodeConsole.Device NodeConsole.Log

namespace Collector

/-- Why a poll stops: its pattern is refused, a file fails in a way that is not a refusal, or the
kernel log cannot be read. -/
inductive Failure where
  | pattern (fault : PatternFault)
  | file (fault : LoadFault)
  | kernelLog (fault : KernelLog.ReadFault)
  deriving Repr

/-- The last status of every file of an application, in the order of the first ones. -/
abbrev Statuses := List (Path × AppStatus)

/-- Sets the status of a file: in place if the file is known, at the end otherwise. -/
def Statuses.set (statuses : Statuses) (path : Path) (status : AppStatus) : Statuses :=
  if statuses.any (·.1 = path) then
    statuses.map fun entry => if entry.1 = path then (path, status) else entry
  else statuses ++ [(path, status)]

end Collector

/-- A collector of one topic. -/
inductive Collector where
  | status (topic : Collector.StatusTopic) (watcher : Watcher)
  | apps (watcher : Watcher) (statuses : Collector.Statuses)
  | kernelLog (reader : KernelLog.Reader)
  deriving Repr

namespace Collector

/-- The topic of a collector. -/
def topic : Collector → Topic
  | status topic _ => topic.topic
  | apps .. => .apps
  | kernelLog _ => .kernelLog

/-- A state after some work, what was reported, and whether anything was changed. -/
structure Worked (State Fault : Type) where
  state : State
  log : List Entry
  outcome : Except Fault Bool

/-- Does some work on one item after another, until one fails. -/
def eachItem {State Fault Item : Type} (work : State → Item → Worked State Fault) (state : State) :
    List Item → Worked State Fault
  | [] => ⟨state, [], .ok false⟩
  | item :: rest =>
    let first := work state item
    match first.outcome with
    | .error _ => first
    | .ok changed =>
      let others := eachItem work first.state rest
      ⟨others.state, first.log ++ others.log, others.outcome.map (changed || ·)⟩

/-- The entry of an update. -/
def appliedEntry (model : Model) (update : Update) : Entry :=
  .applied update.logName (model.apply update).generation

/-- Handles a loaded file: `accept` takes its message, a dropped file is reported. -/
def handle {State Message : Type} (topic : Topic) (path : Path) (state : State)
    (accept : Message → State × Entry) (loaded : Loaded Message) : Worked State LoadFault :=
  let remarks := loaded.remarks.map Entry.remarked
  match loaded.outcome with
  | .ok message =>
    let (state, entry) := accept message
    ⟨state, remarks ++ [entry], .ok true⟩
  | .error fault =>
    if fault.isDropped then ⟨state, remarks ++ [.dropped topic.name path fault], .ok false⟩
    else ⟨state, remarks, .error fault⟩

/-- Handles a changed file of a status topic. -/
def handleStatus (tree : Tree) (topic : StatusTopic) (model : Model) (path : Path) :
    Worked Model LoadFault :=
  handle topic.topic path model (fun update => (model.apply update, appliedEntry model update))
    (load topic.update tree path)

/-- The model and the statuses of the applications. -/
structure AppsState where
  model : Model
  statuses : Statuses

/-- Handles a changed file of an application. -/
def handleApp (tree : Tree) (state : AppsState) (path : Path) : Worked AppsState LoadFault :=
  handle .apps path state
    (fun status =>
      (⟨state.model.apply (.app status), state.statuses.set path status⟩,
        appliedEntry state.model (.app status)))
    (load appStatus tree path)

/-- Builds the applications anew without the files that are gone. -/
def rebuild (state : AppsState) (removed : List Path) : AppsState :=
  let kept := state.statuses.filter fun entry => !removed.contains entry.1
  ⟨state.model.apply (.appList ⟨kept.map (·.2)⟩), kept⟩

/-- What a poll did. -/
structure Polled where
  collector : Collector
  model : Model
  log : List Entry
  outcome : Except Failure Bool

/-- Polls a status topic. -/
def pollStatus (tree : Tree) (model : Model) (topic : StatusTopic) (watcher : Watcher) : Polled :=
  match watcher.scan tree with
  | .error fault => ⟨.status topic watcher, model, [], .error (.pattern fault)⟩
  | .ok (changes, watcher) =>
    let worked := eachItem (handleStatus tree topic) model changes.changed
    match worked.outcome with
    | .error fault => ⟨.status topic watcher, worked.state, worked.log, .error (.file fault)⟩
    | .ok changed =>
      let removed := if changes.removed = [] then []
        else [.filesRemoved topic.topic.name changes.removed.length]
      ⟨.status topic watcher, worked.state, worked.log ++ removed, .ok changed⟩

/-- Polls the applications. -/
def pollApps (tree : Tree) (model : Model) (watcher : Watcher) (statuses : Statuses) : Polled :=
  match watcher.scan tree with
  | .error fault => ⟨.apps watcher statuses, model, [], .error (.pattern fault)⟩
  | .ok (changes, watcher) =>
    let worked := eachItem (handleApp tree) ⟨model, statuses⟩ changes.changed
    match worked.outcome with
    | .error fault =>
      ⟨.apps watcher worked.state.statuses, worked.state.model, worked.log, .error (.file fault)⟩
    | .ok changed =>
      if changes.removed = [] then
        ⟨.apps watcher worked.state.statuses, worked.state.model, worked.log, .ok changed⟩
      else
        let rebuilt := rebuild worked.state changes.removed
        ⟨.apps watcher rebuilt.statuses, rebuilt.model,
          worked.log ++ [appliedEntry worked.state.model (.appList ⟨[]⟩)], .ok true⟩

/-- Polls the kernel log. -/
def pollKernelLog (tree : Tree) (model : Model) (reader : KernelLog.Reader) : Polled :=
  let (reader, read) := reader.read tree
  match read with
  | .error (.cannotOpen fault) =>
    ⟨.kernelLog reader, model, [.kernelLogUnavailable reader.path fault], .ok false⟩
  | .error fault => ⟨.kernelLog reader, model, [], .error (.kernelLog fault)⟩
  | .ok lines =>
    let refused := (KernelLog.faults lines).map Entry.recordRefused
    match KernelLog.records lines with
    | [] => ⟨.kernelLog reader, model, refused, .ok false⟩
    | records =>
      let update := Update.kernelLog records
      ⟨.kernelLog reader, model.apply update, refused ++ [appliedEntry model update], .ok true⟩

/-- Polls a collector. -/
def poll (tree : Tree) (model : Model) : Collector → Polled
  | status topic watcher => pollStatus tree model topic watcher
  | apps watcher statuses => pollApps tree model watcher statuses
  | kernelLog reader => pollKernelLog tree model reader

end Collector

end NodeConsole
