import NodeConsole.Input.Source
import NodeConsole.Profile
import NodeConsole.Screen.Ui

/-!
# The program

The model, the collectors that fill it, and the interface that shows it. An event is routed by the
interface; then the actions that are waiting are carried out, and those sent meanwhile wait for the
next event.
-/

namespace NodeConsole

open NodeConsole.Collector NodeConsole.Decimal NodeConsole.Device NodeConsole.Files
  NodeConsole.Input NodeConsole.Layout NodeConsole.Log NodeConsole.Paint NodeConsole.Panel
  NodeConsole.Screen NodeConsole.Time

/-- Why the program cannot start. -/
inductive StartFailure where
  | unknownTab (unknown : UnknownTab)
  | unknownTopic (unknown : UnknownTopic)
  | tickOutOfRange
  deriving Repr

/-- What the user is told, if a failure is one for the user. -/
def StartFailure.message? : StartFailure → Option String
  | unknownTab unknown => some unknown.message
  | unknownTopic unknown => some unknown.message
  | tickOutOfRange => none

/-- The program; `H` are its windows, `bus` are the actions that wait. -/
structure App (H : Type) where
  ui : Ui H
  model : Model
  collectors : List Collector
  bus : List Action := []
  running : Bool := false

namespace App

/-- A tick whose length in seconds a 64-bit number can hold. -/
def tickFits (tickMs : Int) : Bool :=
  match Binary64.ofFraction (tickMs < 0) ⟨tickMs.natAbs, 1000⟩ with
  | .infinite _ => false
  | _ => true

variable {H : Type} [Host H]

/-- The program with the settings of a profile, on a directory of status files. -/
def start (profile : Profile) (base : Path) : Except StartFailure (App H) :=
  match Tab.ofName? profile.startTab with
  | none => .error (.unknownTab ⟨profile.startTab⟩)
  | some tab =>
    match Collector.collectors base profile.topics with
    | .error unknown => .error (.unknownTopic unknown)
    | .ok collectors =>
      if tickFits profile.tickMs then
        .ok { ui := .withPages profile.debug tab, model := {}, collectors := collectors }
      else .error .tickOutOfRange

/-- Sends an action. -/
def send (app : App H) (action : Action) : App H :=
  { app with bus := app.bus ++ [action] }

/-- What a pass over the collectors gives. -/
structure Collected (H : Type) where
  app : App H
  log : List Log.Entry
  outcome : Except Collector.Failure Nat

/-- Polls all collectors once. -/
def collectOnce (app : App H) (tree : Tree) : Collected H :=
  let passed := Collector.collectOnce tree app.model app.collectors
  ⟨{ app with model := passed.model, collectors := passed.collectors }, passed.log, passed.outcome⟩

/-- Paints the screen. -/
def draw (app : App H) (width height : Int) : Except SizeOutOfRange (App H × List Stroke) := do
  let (ui, strokes) ← app.ui.render ⟨0, 0, max 0 width, max 0 height⟩ app.model
  pure ({ app with ui := ui }, strokes)

/-- Opens the dialog of a port, if the port is still there. -/
def editInterface (app : App H) (name : String) : App H :=
  match app.model.port? name with
  | none => { app with ui := app.ui.notify ("interface " ++ name ++ " is no longer reported") }
  | some port => { app with ui := app.ui.showIpDialog port }

/-- Carries out an action. -/
def handleAction (app : App H) : Action → Except Screen.Failure (App H)
  | .quit => .ok { app with running := false }
  | .editInterface name => .ok (app.editInterface name)
  | .configRequested interface config =>
    let (ui, _) := app.ui.popLayer
    .ok { app with ui := ui.notify (interface ++ ": " ++ config.describe ++ " requested") }
  | .notify text => .ok { app with ui := app.ui.notify text }
  | .dismissDialog _ => .ok app
  | .buttonClicked _ => .ok app
  | .redraw => .ok app
  | .foreign value => .error (.unrecognised (.action value))

/-- Carries out actions one after another, up to the first that fails. -/
def handleActions (app : App H) : List Action → App H × Except Screen.Failure Unit
  | [] => (app, .ok ())
  | action :: rest =>
    match app.handleAction action with
    | .error failure => (app, .error failure)
    | .ok app => app.handleActions rest

/-- Routes an event and carries out the actions that wait after it; `true` if the screen is to be
drawn again. -/
def process (app : App H) (clock : Instant) (event : Event) : App H × Except Screen.Failure Bool :=
  match app.ui.handleEvent clock event with
  | .error failure => (app, .error failure)
  | .ok handled =>
    let waiting := app.bus ++ handled.sent ++ handled.action.toList
    let (redraw, actions) := Action.coalesce waiting
    let (app, outcome) := { app with ui := handled.ui, bus := [] }.handleActions actions
    (app, outcome.map fun _ => redraw || !actions.isEmpty || event.isKey)

/-- Draws the screen and gives the program after it. -/
def redraw (app : App H) (width height : Int) : Except Screen.Failure (App H) :=
  match app.draw width height with
  | .ok (app, _) => .ok app
  | .error _ => .error .sizeOutOfRange

/-- Processes events as long as the program runs, and draws whenever a drawing is due. -/
def runEvents (app : App H) (width height : Int) (clock : Instant) :
    List Event → App H × Except Screen.Failure Unit
  | [] => (app, .ok ())
  | event :: rest =>
    if app.running then
      let (app, outcome) := app.process clock event
      match outcome with
      | .error failure => (app, .error failure)
      | .ok false => app.runEvents width height clock rest
      | .ok true =>
        match app.redraw width height with
        | .error failure => (app, .error failure)
        | .ok app => app.runEvents width height clock rest
    else (app, .ok ())

/-- Runs the program on the bytes of a terminal. -/
def run (app : App H) (width height : Int) (clock : Instant) (bytes : List UInt8) :
    App H × Except Screen.Failure Unit :=
  let app := { app with running := true }
  match app.redraw width height with
  | .error failure => (app, .error failure)
  | .ok app =>
    let source : Source := {}
    app.runEvents width height clock (source.feed bytes).1.queue

end App

end NodeConsole
