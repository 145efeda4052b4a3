import NodeConsole.Proofs.Form.Lookups
import NodeConsole.Proofs.Screen.Layers

/-!
# The program keeps running

Whatever happens to the program, no key and no tick can make it fail but Ctrl+A, and none can stop
it but Ctrl+E, both of them keys for debugging: `afterAll_keepsRunning`. No window ever looks for
something that is not there; what waits while an event is processed are requests to draw again, to
quit if Ctrl+E was pressed, and the one action that is handed on, all of which can be carried out.
-/

namespace NodeConsole

open NodeConsole.Collector NodeConsole.Device NodeConsole.Files NodeConsole.Form NodeConsole.Input
  NodeConsole.Screen NodeConsole.Time

namespace Screen

/-! ## Windows -/

/-- The name of the selected port; its place has to be that of a name. -/
def NetworkPage.selectedNameStrictly (page : NetworkPage) : Except Missing (Option String) :=
  if page.names = [] then .ok none
  else
    let index := min page.selected (page.names.length - 1)
    (require (.port index) page.names[index]?).map some

/-- Takes a key. -/
def Page.handleKeyStrictly (page : Page) (key : Key) : Except Missing (Page × Option Action) :=
  match page with
  | .network list =>
    if key.isPlain "enter" then
      list.selectedNameStrictly.map fun name => (page, name.map .editInterface)
    else .ok (page.handleKey key)
  | _ => .ok (page.handleKey key)

/-- Takes a key. -/
def Layer.handleKeyStrictly (layer : Layer) (key : Key) : Except Missing (Layer × Option Action) :=
  match layer with
  | page found => (found.handleKeyStrictly key).map fun (found, action) => (page found, action)
  | dialog found => (found.handleKeyStrictly key).map fun (found, action) => (dialog found, action)

/-- The selected port is found. -/
theorem NetworkPage.selectedNameStrictly_eq (page : NetworkPage) :
    page.selectedNameStrictly = .ok page.selectedName? := by
  unfold selectedNameStrictly selectedName?
  split
  · next none =>
    rw [none]
    rfl
  · next some =>
    have positive : 0 < page.names.length := List.length_pos_iff.mpr some
    have inRange : min page.selected (page.names.length - 1) < page.names.length := by omega
    dsimp only
    rw [List.getElem?_eq_getElem inRange]
    rfl

theorem isPlain_of_other {key : Key} {code : String} (plain : key.isPlain code = true)
    (other : String) (differs : other ≠ code) : key.isPlain other = false := by
  simp only [Key.isPlain, Bool.and_eq_true, decide_eq_true_eq] at plain
  simp [Key.isPlain, plain.1.1, differs.symm]

/-- Enter asks to edit the port of the selected name. -/
theorem NetworkPage.handleKey_enter (page : NetworkPage) {key : Key}
    (enter : key.isPlain "enter" = true) :
    page.handleKey key = (page, page.selectedName?.map .editInterface) := by
  have up := isPlain_of_other enter "up" (by decide)
  have down := isPlain_of_other enter "down" (by decide)
  unfold handleKey
  rw [up, down, enter]
  rfl

/-- A page finds all that a key asks for. -/
theorem Page.handleKeyStrictly_eq (page : Page) (key : Key) :
    page.handleKeyStrictly key = .ok (page.handleKey key) := by
  unfold handleKeyStrictly
  split
  · next list =>
    split
    · next enter =>
      rw [list.selectedNameStrictly_eq, Page.handleKey, list.handleKey_enter enter]
      rfl
    · rfl
  · rfl

/-- The windows of a tab that are in order find all that a key asks for. -/
theorem Holds.handleKeyStrictly_eq {tab : Tab} {layers : List Layer} (holds : Holds tab layers)
    {layer : Layer} (member : layer ∈ layers) (key : Key) :
    layer.handleKeyStrictly key = .ok (layer.handleKey key) := by
  have page (page : Page) : (Layer.page page).handleKeyStrictly key =
      .ok ((Layer.page page).handleKey key) := by
    unfold Layer.handleKeyStrictly
    dsimp only
    rw [page.handleKeyStrictly_eq]
    rfl
  cases holds with
  | page found =>
    obtain rfl := List.mem_singleton.mp member
    exact page found
  | dialog found port keys =>
    obtain rfl | below := List.mem_cons.mp member
    · unfold Layer.handleKeyStrictly
      dsimp only
      rw [Dialog.afterKeys_handleKeyStrictly]
      rfl
    · obtain rfl := List.mem_singleton.mp below
      exact page (.network found)

/-! ## The interface -/

namespace Ui

variable {ui : Ui Layer} {key : Key} {handled : Handled Layer}

theorem debug_popLayer (ui : Ui Layer) : ui.popLayer.1.debug = ui.debug := by
  unfold popLayer
  split <;> rfl

/-- Doing what a window asks for leaves the setting for debugging. -/
theorem debug_interpret (ui : Ui Layer) (answer : Option Action) :
    (ui.interpret answer).ui.debug = ui.debug := by
  unfold interpret
  split
  · rfl
  · exact ui.debug_popLayer
  · split
    · exact ui.debug_popLayer
    · rfl
  · rfl

theorem debug_selectTab (ui : Ui Layer) (tab : Tab) : (ui.selectTab tab).1.debug = ui.debug := by
  unfold selectTab
  split <;> rfl

theorem debug_routeKey (ui : Ui Layer) (key : Key) : (ui.routeKey key).ui.debug = ui.debug :=
  (debug_selectTab _ _).trans (debug_interpret _ _)

/-- What a window asks for is not to quit, but at most to draw again. -/
theorem redraw_of_interpret {answer : Option Action} {action : Action}
    (sent : action ∈ (ui.interpret answer).sent) : action = .redraw := by
  unfold interpret at sent
  split at sent
  · contradiction
  · exact List.mem_singleton.mp sent
  · split at sent
    · exact List.mem_singleton.mp sent
    · contradiction
  · contradiction

theorem redraw_of_routeKey {action : Action} (sent : action ∈ (ui.routeKey key).sent) :
    action = .redraw := by
  obtain asked | selected := List.mem_append.mp sent
  · exact redraw_of_interpret asked
  · exact sent_selectTab selected

theorem code_of_isCtrl {code : String} (pressed : key.isCtrl code = true) : key.code = code := by
  simp only [Key.isCtrl, Bool.and_eq_true, decide_eq_true_eq] at pressed
  exact pressed.1

/-- The key fails: it is Ctrl+A with debugging. -/
def Crashes (debug : Bool) (key : Key) : Prop :=
  debug = true ∧ key.isCtrl "a" = true

/-- The event quits: it is Ctrl+E with debugging. -/
def Quits (debug : Bool) (event : Event) : Prop :=
  debug = true ∧ ∃ key, event = .key key ∧ key.isCtrl "e" = true

/-- What handling an event leaves: the setting for debugging is as it was, and to quit is asked for
only by the key that quits. -/
structure IsCalm (ui : Ui Layer) (event : Event) (handled : Handled Layer) : Prop where
  debug : handled.ui.debug = ui.debug
  quit : .quit ∈ handled.sent → Quits ui.debug event

/-- A key that is handled quits only if it is the one to do so. -/
theorem isCalm_of_handleKey (routed : ui.handleKey key = .ok handled) :
    IsCalm ui (.key key) handled := by
  obtain rfl | ⟨debug, ⟨pressed, rfl⟩ | ⟨-, rfl⟩ | ⟨-, rfl⟩⟩ := handled_of_handleKey routed
  · refine ⟨ui.debug_routeKey key, fun quit => ?_⟩
    have redraw := redraw_of_routeKey quit
    contradiction
  · exact ⟨rfl, fun _ => ⟨debug, key, rfl, pressed⟩⟩
  · exact ⟨rfl, by simp⟩
  · exact ⟨ui.debug_popLayer, by simp [closeTop]⟩

/-- A key that fails does so before anything is changed. -/
theorem handleKey_of_crashes (crashes : Crashes ui.debug key) :
    ui.handleKey key = .error .crashRequested := by
  obtain ⟨debug, pressed⟩ := crashes
  have code := code_of_isCtrl pressed
  have other (name : String) (differs : "a" ≠ name) : key.isCtrl name = false := by
    simp [Key.isCtrl, code, differs]
  simp [Ui.handleKey, debug, debugKey?, pressed, other "e" (by decide), other "r" (by decide),
    other "p" (by decide)]

/-- Every other key is handled. -/
theorem handleKey_of_not_crashes (stays : ¬Crashes ui.debug key) :
    ∃ handled, ui.handleKey key = .ok handled := by
  unfold Ui.handleKey
  split
  · next debug =>
    unfold debugKey?
    split
    · exact ⟨_, rfl⟩
    · split
      · exact ⟨_, rfl⟩
      · split
        · exact ⟨_, rfl⟩
        · split
          · next pressed => exact absurd ⟨debug, pressed⟩ stays
          · exact ⟨_, rfl⟩
  · exact ⟨_, rfl⟩

/-- A tick is handled, and asks for nothing but to draw again. -/
theorem tick_isCalm (ui : Ui Layer) (clock : Instant) : IsCalm ui .tick (ui.tick clock) := by
  unfold Ui.tick
  rw [ui.active.tick_eq]
  refine ⟨rfl, fun quit => ?_⟩
  have redraw := StatusBar.redraw_of_tick (Option.mem_toList.mp quit)
  contradiction

/-- Whatever is handled is handled calmly. -/
theorem isCalm_of_handleEvent {clock : Instant} {event : Event}
    (routed : ui.handleEvent clock event = .ok handled) : IsCalm ui event handled := by
  cases event with
  | key key => exact isCalm_of_handleKey routed
  | tick =>
    cases routed
    exact ui.tick_isCalm clock
  | foreign value => contradiction

end Ui

end Screen

/-! ## The program -/

namespace App

/-- What can happen to the program: it is set running, a key or a tick is processed, the collectors
change the model or ask to draw again, and the screen is drawn. -/
inductive Occurrence where
  | entered
  | key (clock : Instant) (key : Key)
  | tick (clock : Instant)
  | collected (model : Model) (collectors : List Collector)
  | redrawAsked
  | drawn (width height : Int)

/-- The key that quits is pressed, with debugging. -/
def Occurrence.Quits (debug : Bool) (occurrence : Occurrence) : Prop :=
  debug = true ∧ ∃ clock key, occurrence = .key clock key ∧ key.isCtrl "e" = true

/-- The program after something has happened. What fails leaves what it has left. -/
def after (app : App Layer) : Occurrence → App Layer
  | .entered => { app with running := true }
  | .key clock key => (app.process clock (.key key)).1
  | .tick clock => (app.process clock .tick).1
  | .collected model collectors => { app with model := model, collectors := collectors }
  | .redrawAsked => app.send .redraw
  | .drawn width height => ((app.draw width height).map (·.1)).toOption.getD app

/-- The program after all that has happened. -/
def afterAll (app : App Layer) (occurrences : List Occurrence) : App Layer :=
  occurrences.foldl after app

/-- The actions that wait while an event is processed: those from before, those that handling the
event sends, and the one that it hands on. -/
def queued (app : App Layer) (clock : Instant) (event : Event) : List Action :=
  match app.ui.handleEvent clock event with
  | .ok handled => app.bus ++ handled.sent ++ handled.action.toList
  | .error _ => app.bus

variable {app : App Layer} {clock : Instant} {event : Event} {handled : Handled Layer}

/-! ### Carrying out actions -/

/-- What is an action can be carried out. It leaves the setting for debugging, and only to quit
changes whether the program runs. -/
theorem handleAction_of_known (app : App Layer) {action : Action}
    (known : ∀ value, action ≠ .foreign value) :
    ∃ next, app.handleAction action = .ok next ∧ next.ui.debug = app.ui.debug ∧
      (action ≠ .quit → next.running = app.running) := by
  cases action with
  | quit => exact ⟨_, rfl, rfl, fun other => absurd rfl other⟩
  | editInterface name =>
    refine ⟨_, rfl, ?_⟩
    unfold App.editInterface
    split
    · exact ⟨rfl, fun _ => rfl⟩
    · exact ⟨rfl, fun _ => rfl⟩
  | configRequested interface config => exact ⟨_, rfl, app.ui.debug_popLayer, fun _ => rfl⟩
  | foreign value => exact absurd rfl (known value)
  | notify text => exact ⟨_, rfl, rfl, fun _ => rfl⟩
  | dismissDialog title => exact ⟨_, rfl, rfl, fun _ => rfl⟩
  | buttonClicked label => exact ⟨_, rfl, rfl, fun _ => rfl⟩
  | redraw => exact ⟨_, rfl, rfl, fun _ => rfl⟩

/-- Actions can be carried out one after another. -/
theorem handleActions_of_known (app : App Layer) {actions : List Action}
    (known : ∀ value, .foreign value ∉ actions) :
    ∃ next, app.handleActions actions = (next, .ok ()) ∧ next.ui.debug = app.ui.debug ∧
      (.quit ∉ actions → next.running = app.running) := by
  induction actions generalizing app with
  | nil => exact ⟨app, rfl, rfl, fun _ => rfl⟩
  | cons action rest inductionHypothesis =>
    have first (value : Value) : action ≠ .foreign value := by
      rintro rfl
      exact known value List.mem_cons_self
    obtain ⟨done, outcome, debug, running⟩ := app.handleAction_of_known first
    obtain ⟨next, restOutcome, restDebug, restRunning⟩ := inductionHypothesis done
      fun value member => known value (List.mem_cons_of_mem _ member)
    refine ⟨next, ?_, restDebug.trans debug, ?_⟩
    · simp only [handleActions, outcome, restOutcome]
    · intro stays
      simp only [List.mem_cons, not_or] at stays
      exact (restRunning stays.2).trans (running (Ne.symm stays.1))

theorem process_of_routed (routed : app.ui.handleEvent clock event = .ok handled) :
    app.process clock event =
      let (redraw, actions) := Action.coalesce (app.queued clock event)
      let (next, outcome) := handleActions { app with ui := handled.ui, bus := [] } actions
      (next, outcome.map fun _ => redraw || !actions.isEmpty || event.isKey) := by
  simp only [App.process, queued, routed]

namespace IsOrderly

/-- What waits in a program that is in order are requests to draw again and to quit, and what is
handed on: a configuration, or to edit a port. -/
theorem queued_cases (orderly : app.IsOrderly)
    (routed : app.ui.handleEvent clock event = .ok handled) {action : Action}
    (waits : action ∈ app.queued clock event) :
    action = .redraw ∨ action = .quit ∧ action ∈ handled.sent ∨
      handled.action = some action ∧
        ((∃ interface config, action = .configRequested interface config) ∨
          ∃ name, action = .editInterface name) := by
  have handledOrderly := orderly.stacked.handleEvent routed
  unfold queued at waits
  rw [routed] at waits
  simp only [List.mem_append, Option.mem_toList] at waits
  obtain (before | sent) | handed := waits
  · exact .inl (orderly.waiting action before)
  · obtain redraw | quit := handledOrderly.sent action sent
    · exact .inl redraw
    · exact .inr (.inl ⟨quit, sent⟩)
  · obtain config | ⟨edit, -⟩ := handledOrderly.action action handed
    · exact .inr (.inr ⟨handed, .inl config⟩)
    · exact .inr (.inr ⟨handed, .inr edit⟩)

/-- To quit waits only while the key that quits is processed. -/
theorem quits_of_queued (orderly : app.IsOrderly) (quit : .quit ∈ app.queued clock event) :
    Ui.Quits app.ui.debug event := by
  cases routed : app.ui.handleEvent clock event with
  | error failure =>
    rw [queued, routed] at quit
    have redraw := orderly.waiting .quit quit
    contradiction
  | ok handled =>
    obtain redraw | ⟨-, sent⟩ | ⟨-, ⟨_, _, config⟩ | ⟨_, edit⟩⟩ := orderly.queued_cases routed quit
    · contradiction
    · exact (Ui.isCalm_of_handleEvent routed).quit sent
    · contradiction
    · contradiction

/-- An event that is handled is processed, and leaves the program running unless it quits. -/
theorem process_of_handled (orderly : app.IsOrderly)
    (routed : app.ui.handleEvent clock event = .ok handled) :
    ∃ next redraw, app.process clock event = (next, .ok redraw) ∧ next.ui.debug = app.ui.debug ∧
      (¬Ui.Quits app.ui.debug event → next.running = app.running) := by
  -- Only requests to draw again are left out of what is carried out.
  have waits {action : Action} (member : action ∈ (Action.coalesce (app.queued clock event)).2) :
      action ∈ app.queued clock event :=
    (List.mem_filter.mp member).1
  have known (value : Value) : .foreign value ∉ (Action.coalesce (app.queued clock event)).2 := by
    intro member
    obtain redraw | ⟨quit, -⟩ | ⟨-, ⟨_, _, config⟩ | ⟨_, edit⟩⟩ :=
      orderly.queued_cases routed (waits member)
    · contradiction
    · contradiction
    · contradiction
    · contradiction
  obtain ⟨next, outcome, debug, running⟩ :=
    handleActions_of_known { app with ui := handled.ui, bus := [] } known
  have processed := process_of_routed routed
  simp only [outcome] at processed
  refine ⟨next, _, processed, debug.trans (Ui.isCalm_of_handleEvent routed).debug,
    fun stays => running fun quit => stays (orderly.quits_of_queued (waits quit))⟩

theorem process_key (orderly : app.IsOrderly) (clock : Instant) {key : Key}
    (stays : ¬Ui.Crashes app.ui.debug key) :
    ∃ next redraw, app.process clock (.key key) = (next, .ok redraw) ∧
      next.ui.debug = app.ui.debug ∧
        (¬Ui.Quits app.ui.debug (.key key) → next.running = app.running) := by
  obtain ⟨handled, routed⟩ := Ui.handleKey_of_not_crashes stays
  have handles : app.ui.handleEvent clock (.key key) = .ok handled := routed
  exact orderly.process_of_handled handles

/-- A tick is processed, and leaves the program running. -/
theorem process_tick (orderly : app.IsOrderly) (clock : Instant) :
    ∃ next redraw, app.process clock .tick = (next, .ok redraw) ∧
      next.ui.debug = app.ui.debug ∧ next.running = app.running := by
  have routed : app.ui.handleEvent clock .tick = .ok (app.ui.tick clock) := rfl
  obtain ⟨next, redraw, processed, debug, running⟩ :=
    orderly.process_of_handled routed
  refine ⟨next, redraw, processed, debug, running ?_⟩
  rintro ⟨-, key, tick, -⟩
  contradiction

end IsOrderly

theorem process_of_crashes (clock : Instant) {key : Key} (crashes : Ui.Crashes app.ui.debug key) :
    app.process clock (.key key) = (app, .error .crashRequested) := by
  have routed : app.ui.handleEvent clock (.key key) = .error .crashRequested :=
    Ui.handleKey_of_crashes crashes
  simp only [App.process, routed]

/-! ### Runs -/

/-- What something that happens keeps: the order of the program, its setting for debugging, and
unless it is the key that quits, that the program runs. -/
structure Keeps (app : App Layer) (occurrence : Occurrence) : Prop where
  orderly : (app.after occurrence).IsOrderly
  debug : (app.after occurrence).ui.debug = app.ui.debug
  running : ¬occurrence.Quits app.ui.debug → app.running = true →
    (app.after occurrence).running = true

/-- What happens without a change keeps everything. -/
theorem Keeps.of_same {occurrence : Occurrence} (orderly : app.IsOrderly)
    (same : app.after occurrence = app) : Keeps app occurrence := by
  constructor
  · rwa [same]
  · rw [same]
  · intro _ running
    rwa [same]

/-- A step keeps the order of the program. -/
theorem Keeps.of_step {occurrence : Occurrence} {next : App Layer} (orderly : app.IsOrderly)
    (reached : app.after occurrence = next) (step : Step app next)
    (debug : next.ui.debug = app.ui.debug)
    (running : ¬occurrence.Quits app.ui.debug → next.running = app.running ∨ next.running = true) :
    Keeps app occurrence := by
  subst reached
  refine ⟨orderly.step step, debug, fun stays before => ?_⟩
  obtain same | runs := running stays
  · rw [same, before]
  · exact runs

/-- Whatever happens to a program that is in order keeps that. -/
theorem IsOrderly.keeps (orderly : app.IsOrderly) (occurrence : Occurrence) :
    Keeps app occurrence := by
  cases occurrence with
  | entered => exact .of_step orderly rfl (.entered app) rfl fun _ => .inr rfl
  | key clock key =>
    by_cases crashes : Ui.Crashes app.ui.debug key
    · refine .of_same orderly ?_
      simp only [App.after, process_of_crashes clock crashes]
    · obtain ⟨next, redraw, processed, debug, running⟩ := orderly.process_key clock crashes
      refine .of_step orderly ?_ (.processed clock (.key key) redraw processed) debug ?_
      · simp only [App.after, processed]
      · refine fun stays => .inl (running ?_)
        rintro ⟨debugging, _, ⟨⟩, pressed⟩
        exact stays ⟨debugging, clock, key, rfl, pressed⟩
  | tick clock =>
    obtain ⟨next, redraw, processed, debug, running⟩ := orderly.process_tick clock
    refine .of_step orderly ?_ (.processed clock .tick redraw processed) debug fun _ => .inl running
    simp only [App.after, processed]
  | collected model collectors =>
    exact .of_step orderly rfl (.collected app model collectors) rfl fun _ => .inl rfl
  | redrawAsked => exact .of_step orderly rfl (.sent app) rfl fun _ => .inl rfl
  | drawn width height =>
    cases drawn : app.draw width height with
    | error failure =>
      refine .of_same orderly ?_
      simp only [App.after, drawn]
      rfl
    | ok result =>
      obtain ⟨next, strokes⟩ := result
      have kept : next.ui.debug = app.ui.debug ∧ next.running = app.running := by
        obtain ⟨⟨ui, _⟩, rendered, same⟩ := bind_eq_ok.mp drawn
        cases same
        obtain ⟨⟨stack, _⟩, -, same⟩ := bind_eq_ok.mp rendered
        cases same
        exact ⟨rfl, rfl⟩
      refine .of_step orderly ?_ (.drawn width height strokes drawn) kept.1 fun _ => .inl kept.2
      simp only [App.after, drawn]
      rfl

/-- Whatever happens to a program that is in order, one thing after another, leaves it in order and
keeps its setting for debugging. -/
theorem IsOrderly.afterAll (orderly : app.IsOrderly) (occurrences : List Occurrence) :
    (app.afterAll occurrences).IsOrderly ∧
      (app.afterAll occurrences).ui.debug = app.ui.debug := by
  induction occurrences generalizing app with
  | nil => exact ⟨orderly, rfl⟩
  | cons occurrence rest inductionHypothesis =>
    have kept := orderly.keeps occurrence
    obtain ⟨last, debug⟩ := inductionHypothesis kept.orderly
    exact ⟨last, debug.trans kept.debug⟩

/-- Without debugging, whatever happens keeps a program running. -/
theorem IsOrderly.running_afterAll (orderly : app.IsOrderly) (released : app.ui.debug = false)
    (running : app.running = true) (occurrences : List Occurrence) :
    (app.afterAll occurrences).running = true := by
  induction occurrences generalizing app with
  | nil => exact running
  | cons occurrence rest inductionHypothesis =>
    have kept := orderly.keeps occurrence
    refine inductionHypothesis kept.orderly (kept.debug.trans released) (kept.running ?_ running)
    rintro ⟨debugging, -⟩
    rw [released] at debugging
    contradiction

/-- What keeps a program running: no window and no new dialog looks for something that is not there;
of all keys and ticks only Ctrl+A fails, and nothing but Ctrl+E stops it, both with debugging alone;
and without debugging, nothing that waits asks to quit. -/
structure KeepsRunning (debug : Bool) (app : App Layer) : Prop where
  windows : ∀ tab, ∀ layer ∈ (app.ui.layers.get tab).layers, ∀ key,
    layer.handleKeyStrictly key = .ok (layer.handleKey key)
  dialogs : ∀ port, Dialog.ipConfigStrictly port = .ok (.ipConfig port)
  crash : ∀ clock key, debug = true → key.isCtrl "a" = true →
    app.process clock (.key key) = (app, .error .crashRequested)
  key : ∀ clock key, ¬(debug = true ∧ key.isCtrl "a" = true) →
    ∃ next redraw, app.process clock (.key key) = (next, .ok redraw)
  tick : ∀ clock, ∃ next redraw, app.process clock .tick = (next, .ok redraw)
  stop : ∀ occurrence, app.running = true → (app.after occurrence).running = false →
    debug = true ∧ ∃ clock key, occurrence = .key clock key ∧ key.isCtrl "e" = true
  quit : debug = false → ∀ clock event, .quit ∉ app.queued clock event
  endless : debug = false → app.running = true → ∀ more, (app.afterAll more).running = true

/-- However the program is run, no key and no tick makes it fail but Ctrl+A with debugging, and
nothing stops it but Ctrl+E with debugging. -/
theorem afterAll_keepsRunning {profile : Profile} {base : Path} {first : App Layer}
    (started : App.start profile base = .ok first) (occurrences : List Occurrence) :
    (first.afterAll occurrences).KeepsRunning profile.debug := by
  obtain ⟨orderly, debug⟩ := (isOrderly_start started).afterAll occurrences
  obtain ⟨tab, pages, -⟩ := exists_of_start started
  have setting : first.ui.debug = profile.debug := by
    rw [pages]
    rfl
  rw [setting] at debug
  constructor
  · intro tab layer member key
    exact (orderly.stacked tab).handleKeyStrictly_eq member key
  · exact Dialog.ipConfigStrictly_eq
  · intro clock key debugging pressed
    exact process_of_crashes clock ⟨debug.trans debugging, pressed⟩
  · intro clock key stays
    rw [← debug] at stays
    obtain ⟨next, redraw, processed, -⟩ := orderly.process_key clock stays
    exact ⟨next, redraw, processed⟩
  · intro clock
    obtain ⟨next, redraw, processed, -⟩ := orderly.process_tick clock
    exact ⟨next, redraw, processed⟩
  · intro occurrence running stopped
    refine Classical.byContradiction fun stays => ?_
    rw [← debug] at stays
    have still := (orderly.keeps occurrence).running stays running
    rw [stopped] at still
    contradiction
  · intro released clock event quit
    obtain ⟨debugging, -⟩ := orderly.quits_of_queued quit
    rw [debug, released] at debugging
    contradiction
  · intro released running more
    exact orderly.running_afterAll (debug.trans released) running more

/-- With debugging and a dialog open, the program runs until Ctrl+E is pressed, and fails when
Ctrl+A is. -/
theorem afterAll_keepsRunning_debugging :
    let first : App Layer := { onePort with ui := .withPages true .network, model := {} }
    let app := first.afterAll [.entered, .collected onePort.model onePort.collectors,
      .drawn 80 24, .key ⟨0⟩ (.plain "enter")]
    App.start { Profile.release with startTab := "network", debug := true } ⟨"/", ["run"]⟩ =
        .ok first ∧ app.KeepsRunning true ∧ (app.ui.layers.get .network).size = 2 ∧
      app.running = true ∧ (app.after (.key ⟨0⟩ ⟨"e", { control := true }⟩)).running = false := by
  intro first app
  have started : App.start { Profile.release with startTab := "network", debug := true }
      ⟨"/", ["run"]⟩ = .ok first := by rfl
  exact ⟨started, afterAll_keepsRunning started _, rfl, rfl, rfl⟩

end App

end NodeConsole
