import NodeConsole.Proofs.Screen.Layers

/-!
# The delivery of actions

Windows, the status bar and other tasks send actions; the program takes those that wait from the
queue once an event has been routed, and carries them out. `run_delivers` says that none is lost,
doubled or overtaken, whatever the windows are and whenever the other tasks send theirs, also
between the taking and the carrying out. An event that the program processes is such a run, with
nothing in between: `process_iff_run`.
-/

namespace NodeConsole

open NodeConsole.Form NodeConsole.Input NodeConsole.Screen NodeConsole.Time

namespace Screen

/-- Actions that are no requests to draw again. -/
def Action.withoutRedraws (actions : List Action) : List Action :=
  actions.filter fun action => !action.isRedraw

theorem Action.withoutRedraws_append (actions more : List Action) :
    withoutRedraws (actions ++ more) = withoutRedraws actions ++ withoutRedraws more :=
  List.filter_append _ _

/-- A frame is due when there is a request to draw again, or an action to be carried out: exactly
when there are actions at all. -/
theorem Action.due_iff (actions : List Action) (key : Bool) :
    ((coalesce actions).1 || !(coalesce actions).2.isEmpty || key) = true ↔
      key = true ∨ actions ≠ [] := by
  cases actions with
  | nil => simp [coalesce]
  | cons action rest =>
    cases redraw : action.isRedraw with
    | true => simp [coalesce, redraw]
    | false => simp [coalesce, redraw]

theorem tickLayers_actions {W : Type} [Window W] (layers : List W) :
    (LayerStack.tickLayers layers).2 =
      layers.reverse.flatMap fun layer => (Window.tick layer).2.toList := by
  induction layers with
  | nil => rfl
  | cons layer below inductionHypothesis =>
    simp [LayerStack.tickLayers, inductionHypothesis]

/-- A tick sends what the windows of the selected tab ask for, from the bottom up, and then what the
status bar asks for. -/
theorem Ui.sent_tick {W : Type} [Window W] (ui : Ui W) (clock : Instant) :
    (ui.tick clock).sent =
      (ui.active.fromBottom.flatMap fun layer => (Window.tick layer).2.toList) ++
        (ui.statusBar.tick clock).2.toList :=
  congrArg (· ++ _) (tickLayers_actions ui.active.layers)

end Screen

namespace App

/-- Where the program is: between events; at an event that has been routed; or with the actions that
it has taken from the queue, of which the last ones still have to be carried out. -/
inductive Phase where
  | idle
  | routed (event : Event)
  | carrying (event : Event) (batch rest : List Action)

/-- The actions that still have to be carried out. -/
def Phase.rest : Phase → List Action
  | carrying _ _ rest => rest
  | _ => []

/-- The actions that have been taken from the queue for the event. -/
def Phase.batch? : Phase → Option (List Action)
  | carrying _ batch _ => some batch
  | _ => none

/-- The program, and where it is. -/
structure Turn (H : Type) where
  app : App H
  phase : Phase := .idle

/-- What can happen: another task sends an action; something that has nothing to do with the queue
changes the program; an event is routed, and actions are sent; the actions that wait are taken; one
of them is carried out; or the event is done, and a frame is due or not. -/
inductive Happening where
  | sent (action : Action)
  | changed
  | routed (clock : Instant) (event : Event) (actions : List Action)
  | drained (batch : List Action)
  | carriedOut (action : Action)
  | done (event : Event) (batch : List Action) (due : Bool)

namespace Happening

/-- The actions that are sent. -/
def sends : Happening → List Action
  | sent action => [action]
  | routed _ _ actions => actions
  | _ => []

/-- The action that is carried out. -/
def carries : Happening → List Action
  | carriedOut action => [action]
  | _ => []

/-- Actions are taken from the queue. -/
def IsDrain (happening : Happening) : Prop :=
  ∃ batch, happening = drained batch

end Happening

variable {H : Type} [Host H]

/-- What happens to a program, and what it leaves. Other tasks may send actions at any time. -/
inductive Turn.Step : Turn H → Happening → Turn H → Prop where
  | sent (turn : Turn H) (action : Action) :
      Step turn (.sent action) { turn with app := turn.app.send action }
  | changed {turn : Turn H} {next : App H} (sameBus : next.bus = turn.app.bus) :
      Step turn .changed { turn with app := next }
  | routed {app : App H} {clock : Instant} {event : Event} {handled : Handled H}
      (routed : app.ui.handleEvent clock event = .ok handled) :
      Step ⟨app, .idle⟩ (.routed clock event (handled.sent ++ handled.action.toList))
        ⟨{ app with ui := handled.ui, bus := app.bus ++ (handled.sent ++ handled.action.toList) },
          .routed event⟩
  | drained (app : App H) (event : Event) :
      Step ⟨app, .routed event⟩ (.drained app.bus)
        ⟨{ app with bus := [] }, .carrying event app.bus (Action.coalesce app.bus).2⟩
  | carriedOut {app next : App H} {event : Event} {batch rest : List Action} {action : Action}
      (carriedOut : app.handleAction action = .ok next) :
      Step ⟨app, .carrying event batch (action :: rest)⟩ (.carriedOut action)
        ⟨next, .carrying event batch rest⟩
  | done (app : App H) (event : Event) (batch : List Action) :
      Step ⟨app, .carrying event batch []⟩
        (.done event batch ((Action.coalesce batch).1 || !(Action.coalesce batch).2.isEmpty ||
          event.isKey))
        ⟨app, .idle⟩

/-- What happens one after another. -/
inductive Turn.Run : Turn H → List Happening → Turn H → Prop where
  | none (turn : Turn H) : Run turn [] turn
  | step {first turn last : Turn H} {happening : Happening} {rest : List Happening}
      (step : first.Step happening turn) (run : Run turn rest last) :
      Run first (happening :: rest) last

/-- The actions, no requests to draw again, that have been sent and not been carried out. -/
def Turn.waiting (turn : Turn H) : List Action :=
  turn.phase.rest ++ Action.withoutRedraws turn.app.bus

/-! ## One step -/

namespace Turn

variable {first turn last : Turn H} {happening : Happening} {run : List Happening}

/-- In a step, what is carried out and what waits then is what waited and what is sent. -/
theorem Step.carries_waiting (step : first.Step happening turn) :
    happening.carries ++ turn.waiting =
      first.waiting ++ Action.withoutRedraws happening.sends := by
  cases step with
  | sent action =>
    simp [Turn.waiting, App.send, Action.withoutRedraws_append, Happening.carries, Happening.sends]
  | changed sameBus =>
    simp [Turn.waiting, sameBus, Happening.carries, Happening.sends, Action.withoutRedraws]
  | routed routed =>
    simp [Turn.waiting, Phase.rest, Action.withoutRedraws_append, Happening.carries,
      Happening.sends]
  | drained app event =>
    simp [Turn.waiting, Phase.rest, Action.withoutRedraws, Action.coalesce, Happening.carries,
      Happening.sends]
  | carriedOut carriedOut =>
    simp [Turn.waiting, Phase.rest, bus_handleAction carriedOut, Action.withoutRedraws,
      Happening.carries, Happening.sends]
  | done app event batch =>
    simp [Turn.waiting, Phase.rest, Happening.carries, Happening.sends, Action.withoutRedraws]

/-- A step that takes nothing from the queue adds to it what is sent, and of the actions that have
been taken before, the one that is carried out is the first. -/
theorem Step.of_not_isDrain (step : first.Step happening turn) (noDrain : ¬happening.IsDrain) :
    turn.app.bus = first.app.bus ++ happening.sends ∧
      happening.carries ++ turn.phase.rest = first.phase.rest := by
  cases step with
  | sent action => exact ⟨rfl, rfl⟩
  | changed sameBus => exact ⟨sameBus.trans (List.append_nil _).symm, rfl⟩
  | routed routed => exact ⟨rfl, rfl⟩
  | drained app event => exact absurd ⟨app.bus, rfl⟩ noDrain
  | carriedOut carriedOut =>
    exact ⟨(bus_handleAction carriedOut).trans (List.append_nil _).symm, rfl⟩
  | done app event batch => exact ⟨(List.append_nil _).symm, rfl⟩

/-- After a batch has been taken from the queue, its actions are still to be carried out, except
requests to draw again, and nothing else waits. -/
theorem Step.of_drained {batch : List Action} (step : first.Step (.drained batch) turn) :
    first.app.bus = batch ∧ turn.app.bus = [] ∧ turn.phase.rest = Action.withoutRedraws batch := by
  cases step
  exact ⟨rfl, rfl, rfl⟩

/-- As long as nothing is taken from the queue, an event is done with the batch that has been taken
before. -/
theorem Step.batch_of_not_isDrain {batch : List Action} (step : first.Step happening turn)
    (noDrain : ¬happening.IsDrain) (taken : ∀ held ∈ first.phase.batch?, held = batch) :
    (∀ held ∈ turn.phase.batch?, held = batch) ∧
      ∀ event held due, happening = .done event held due → held = batch := by
  cases step with
  | sent action => exact ⟨taken, nofun⟩
  | changed sameBus => exact ⟨taken, nofun⟩
  | routed routed => exact ⟨nofun, nofun⟩
  | drained app event => exact absurd ⟨app.bus, rfl⟩ noDrain
  | carriedOut carriedOut => exact ⟨taken, nofun⟩
  | done app event held =>
    refine ⟨nofun, ?_⟩
    rintro _ _ _ ⟨⟩
    exact taken held rfl

/-- A frame is due after a key, and when the batch was not empty, however many requests to draw
again it held. -/
theorem Step.due_iff {event : Event} {batch : List Action} {due : Bool}
    (step : first.Step (.done event batch due) turn) :
    due = true ↔ event.isKey = true ∨ batch ≠ [] := by
  cases step
  exact Action.due_iff batch event.isKey

/-! ## Runs -/

/-- The actions that are sent in a run. -/
def sends (run : List Happening) : List Action :=
  run.flatMap Happening.sends

/-- The actions that are carried out in a run. -/
def carries (run : List Happening) : List Action :=
  run.flatMap Happening.carries

theorem Run.append {more : List Happening} (before : first.Run run turn)
    (after : turn.Run more last) : first.Run (run ++ more) last := by
  induction before with
  | none turn => exact after
  | step step _ inductionHypothesis => exact .step step (inductionHypothesis after)

/-- What happens in a run is a step between two parts of the run. -/
theorem Run.exists_step {front back : List Happening}
    (whole : first.Run (front ++ happening :: back) last) :
    ∃ before after, first.Run front before ∧ before.Step happening after ∧
      after.Run back last := by
  induction front generalizing first with
  | nil =>
    cases whole with
    | step step rest => exact ⟨first, _, .none first, step, rest⟩
  | cons earlier front inductionHypothesis =>
    cases whole with
    | step step rest =>
      obtain ⟨before, after, runBefore, between, runAfter⟩ := inductionHypothesis rest
      exact ⟨before, after, .step step runBefore, between, runAfter⟩

/-- In a run, what is carried out and what waits at the end is what waited and what is sent. -/
theorem Run.carries_waiting (whole : first.Run run last) :
    carries run ++ last.waiting = first.waiting ++ Action.withoutRedraws (sends run) := by
  induction whole with
  | none turn => simp [carries, sends, Action.withoutRedraws]
  | @step first turn last happening rest step _ inductionHypothesis =>
    calc carries (happening :: rest) ++ last.waiting
        = happening.carries ++ (carries rest ++ last.waiting) := List.append_assoc _ _ _
      _ = (happening.carries ++ turn.waiting) ++ Action.withoutRedraws (sends rest) := by
          rw [inductionHypothesis, List.append_assoc]
      _ = first.waiting ++ Action.withoutRedraws (happening.sends ++ sends rest) := by
          rw [step.carries_waiting, Action.withoutRedraws_append, List.append_assoc]

/-- As long as nothing is taken from the queue, it grows by what is sent, and what is carried out
are the first of the actions that have been taken before. -/
theorem Run.of_noDrain (whole : first.Run run last)
    (noDrain : ∀ happening ∈ run, ¬happening.IsDrain) :
    last.app.bus = first.app.bus ++ sends run ∧
      carries run ++ last.phase.rest = first.phase.rest := by
  induction whole with
  | none turn => exact ⟨(List.append_nil _).symm, rfl⟩
  | @step first turn last happening rest step _ inductionHypothesis =>
    rw [List.forall_mem_cons] at noDrain
    obtain ⟨bus, remaining⟩ := step.of_not_isDrain noDrain.1
    obtain ⟨busLast, remainingLast⟩ := inductionHypothesis noDrain.2
    constructor
    · rw [busLast, bus, List.append_assoc]
      rfl
    · rw [← remaining, ← remainingLast, ← List.append_assoc]
      rfl

/-- As long as nothing is taken from the queue, all events are done with the batch that has been
taken before. -/
theorem Run.batch_of_noDrain {batch : List Action} (whole : first.Run run last)
    (noDrain : ∀ happening ∈ run, ¬happening.IsDrain)
    (taken : ∀ held ∈ first.phase.batch?, held = batch) :
    ∀ event held due, .done event held due ∈ run → held = batch := by
  induction whole with
  | none turn => nofun
  | step step _ inductionHypothesis =>
    rw [List.forall_mem_cons] at noDrain
    obtain ⟨takenNext, same⟩ := step.batch_of_not_isDrain noDrain.1 taken
    intro event held due member
    obtain here | later := List.mem_cons.mp member
    · exact same event held due here.symm
    · exact inductionHypothesis noDrain.2 takenNext event held due later

end Turn

/-! ## Processing an event -/

/-- Processing an event: it is routed, what waits is taken from the queue and carried out, and
nothing happens in between. -/
def processing (clock : Instant) (event : Event) (sent batch : List Action) (due : Bool) :
    List Happening :=
  .routed clock event sent :: .drained batch ::
    ((Action.withoutRedraws batch).map .carriedOut ++ [.done event batch due])

/-- Actions are carried out one after another exactly when each of them is. -/
theorem handleActions_iff_run {app next : App H} {event : Event} {batch actions : List Action} :
    app.handleActions actions = (next, .ok ()) ↔
      Turn.Run ⟨app, .carrying event batch actions⟩ (actions.map .carriedOut)
        ⟨next, .carrying event batch []⟩ := by
  induction actions generalizing app with
  | nil =>
    constructor
    · intro same
      cases same
      exact .none _
    · intro run
      cases run
      rfl
  | cons action rest inductionHypothesis =>
    constructor
    · intro all
      unfold handleActions at all
      split at all
      · cases all
      · next middle carriedOut => exact .step (.carriedOut carriedOut) (inductionHypothesis.mp all)
    · intro run
      cases run with
      | step step run =>
        cases step with
        | carriedOut carriedOut =>
          simp only [handleActions, carriedOut]
          exact inductionHypothesis.mpr run

/-- What processing an event reports follows from the actions that wait once it is routed. -/
theorem due_of_process {app next : App H} {clock : Instant} {event : Event} {due : Bool}
    {handled : Handled H} (processed : app.process clock event = (next, .ok due))
    (routed : app.ui.handleEvent clock event = .ok handled) :
    let batch := app.bus ++ handled.sent ++ handled.action.toList
    due = ((Action.coalesce batch).1 || !(Action.coalesce batch).2.isEmpty || event.isKey) := by
  intro batch
  simp only [App.process, routed] at processed
  generalize handleActions { app with ui := handled.ui, bus := [] } (Action.coalesce batch).2 =
    carriedOut at processed
  obtain ⟨last, outcome⟩ := carriedOut
  cases outcome with
  | error failure => cases processed
  | ok done =>
    cases processed
    rfl

/-- An event is processed exactly when it is routed, what waits is taken from the queue and carried
out, and the frame is then due that the processing reports. -/
theorem process_iff_run {app next : App H} {clock : Instant} {event : Event} {due : Bool} :
    app.process clock event = (next, .ok due) ↔
      ∃ actions, Turn.Run ⟨app, .idle⟩ (processing clock event actions (app.bus ++ actions) due)
        ⟨next, .idle⟩ := by
  constructor
  · intro processed
    obtain ⟨handled, routed, carriedOut⟩ := exists_of_process processed
    have reported := due_of_process processed routed
    dsimp only at reported
    rw [List.append_assoc] at reported carriedOut
    subst reported
    refine ⟨handled.sent ++ handled.action.toList,
      .step (.routed routed) (.step (.drained _ event) ?_)⟩
    exact (handleActions_iff_run.mp carriedOut).append (.step (.done _ event _) (.none _))
  · rintro ⟨actions, run⟩
    cases run with
    | step routed run =>
      cases routed with
      | routed routed =>
        cases run with
        | step drained run =>
          cases drained
          obtain ⟨before, after, carriedOut, done, rest⟩ := run.exists_step
          cases rest
          cases done
          have all := handleActions_iff_run.mpr carriedOut
          dsimp only at all
          simp only [App.process, routed, List.append_assoc, all]
          rfl

/-! ## Delivery -/

/-- How the actions of a run are delivered. Those carried out and those that wait at the end are
those that waited and those sent, in order. A batch is all that waits when it is taken from the
queue; until the next one is taken, only its actions are carried out, and what is sent meanwhile
waits. A tick sends what the windows of the selected tab ask for, from the bottom up, and then what
the status bar asks for. A frame is due after a key, and after a batch that was not empty. And
processing an event is such a run. -/
structure Delivers (first : Turn H) (run : List Happening) (last : Turn H) : Prop where
  order : Turn.carries run ++ last.waiting =
    first.waiting ++ Action.withoutRedraws (Turn.sends run)
  batch : ∀ front batch back, run = front ++ .drained batch :: back →
    (∃ turn, first.Run front turn ∧ turn.app.bus = batch) ∧
      ((∀ happening ∈ back, ¬happening.IsDrain) →
        Turn.carries back ++ last.phase.rest = Action.withoutRedraws batch ∧
          last.app.bus = Turn.sends back ∧
            ∀ event held due, .done event held due ∈ back → held = batch)
  tick : ∀ front clock actions back, run = front ++ .routed clock .tick actions :: back →
    ∃ turn, first.Run front turn ∧
      actions = (turn.app.ui.active.fromBottom.flatMap fun layer => (Window.tick layer).2.toList) ++
        (turn.app.ui.statusBar.tick clock).2.toList
  due : ∀ event batch due, .done event batch due ∈ run →
    (due = true ↔ event.isKey = true ∨ batch ≠ [])
  process : last.phase = .idle → ∀ clock event next due,
    last.app.process clock event = (next, .ok due) ↔
      ∃ actions, last.Run (processing clock event actions (last.app.bus ++ actions) due)
        ⟨next, .idle⟩

/-- Whatever the windows are, and however events are processed and other tasks send actions
meanwhile, all actions are delivered: none is lost, doubled or overtaken. -/
theorem turns_deliverActions {first last : Turn H} {run : List Happening}
    (whole : first.Run run last) : Delivers first run last where
  order := whole.carries_waiting
  batch := by
    rintro front batch back rfl
    obtain ⟨before, after, runBefore, drained, runAfter⟩ := whole.exists_step
    obtain ⟨waiting, nothing, remaining⟩ := drained.of_drained
    refine ⟨⟨before, runBefore, waiting⟩, fun noDrain => ?_⟩
    obtain ⟨bus, carried⟩ := runAfter.of_noDrain noDrain
    rw [nothing, List.nil_append] at bus
    rw [remaining] at carried
    refine ⟨carried, bus, runAfter.batch_of_noDrain noDrain ?_⟩
    cases drained
    rintro _ ⟨⟩
    rfl
  tick := by
    rintro front clock actions back rfl
    obtain ⟨before, after, runBefore, routed, -⟩ := whole.exists_step
    refine ⟨before, runBefore, ?_⟩
    cases routed with
    | @routed app _ _ handled routed =>
      cases routed
      exact (List.append_nil _).trans (app.ui.sent_tick clock)
  due := by
    intro event batch due member
    obtain ⟨front, back, rfl⟩ := List.append_of_mem member
    obtain ⟨before, after, -, done, -⟩ := whole.exists_step
    exact done.due_iff
  process := by
    intro idle clock event next due
    obtain ⟨app, phase⟩ := last
    subst idle
    exact process_iff_run

/-- Notices that other tasks send before and after a tick is routed are shown in order; what is sent
after they have been taken from the queue, to quit, waits for the next event. -/
theorem turns_deliverActions_quit :
    let batch : List Action := [.notify "left", .redraw, .notify "right"]
    let run : List Happening := [.sent (.notify "left"), .routed ⟨0⟩ .tick [.redraw],
      .sent (.notify "right"), .drained batch, .carriedOut (.notify "left"), .sent .quit,
      .carriedOut (.notify "right"), .done .tick batch true]
    let ui := ((onePort.ui.tick ⟨0⟩).ui.notify "left").notify "right"
    let last : Turn Layer := ⟨{ onePort with ui := ui, bus := [.quit] }, .idle⟩
    Turn.Run ⟨onePort, .idle⟩ run last ∧ Delivers ⟨onePort, .idle⟩ run last := by
  intro batch run ui last
  have routed : (onePort.send (.notify "left")).ui.handleEvent ⟨0⟩ .tick =
      .ok (onePort.ui.tick ⟨0⟩) := rfl
  have carried : Turn.Run ⟨{ onePort with ui := (onePort.ui.tick ⟨0⟩).ui, bus := [] },
      .carrying .tick batch [.notify "left", .notify "right"]⟩
      [.carriedOut (.notify "left"), .sent .quit, .carriedOut (.notify "right"),
        .done .tick batch true] last :=
    .step (.carriedOut rfl) (.step (.sent _ _) (.step (.carriedOut rfl)
      (.step (.done _ _ _) (.none _))))
  have whole : Turn.Run ⟨onePort, .idle⟩ run last :=
    .step (.sent _ _) (.step (.routed routed) (.step (.sent _ _) (.step (.drained _ _) carried)))
  exact ⟨whole, turns_deliverActions whole⟩

end App

end NodeConsole
