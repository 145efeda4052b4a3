import NodeConsole.App
import NodeConsole.Proofs.Form.Submission
import NodeConsole.Proofs.Screen.Routing

/-!
# The layers of the tabs

However the program is run, each tab keeps its own page at the bottom, and no other window stands
above it than, in the network tab, one dialog that asks for the configuration of a port:
`isStacked_of_reachable`. A dialog is opened only from the page itself, by a key that leaves the
tab selected.
-/

namespace NodeConsole

open NodeConsole.Device NodeConsole.Files NodeConsole.Form NodeConsole.Input NodeConsole.Layout
  NodeConsole.Paint NodeConsole.Screen NodeConsole.Time

namespace Screen

/-- The windows that a tab may have, the top one first: its page, or in the network tab a dialog,
after some keys, that asks for the configuration of a port, over the page. -/
inductive Holds : Tab → List Layer → Prop where
  | page (page : Page) : Holds page.tab [.page page]
  | dialog (page : NetworkPage) (port : Port) (keys : List Key) :
      Holds .network [.dialog ((Dialog.ipConfig port).afterKeys keys), .page (.network page)]

/-- The tab shows the page with the ports, and nothing over it. -/
def ShowsPorts (tab : Tab) (layers : List Layer) : Prop :=
  tab = .network ∧ ∃ page, layers = [.page (.network page)]

/-- What a window may ask for by a key. -/
def MayAsk (key : Key) (tab : Tab) (layers : List Layer) : Action → Prop
  | .dismissDialog _ => True
  | .configRequested _ _ => True
  | .editInterface _ => key.isPlain "enter" = true ∧ ShowsPorts tab layers
  | _ => False

/-! ## Windows -/

theorem Page.tab_handleKey (page : Page) (key : Key) : (page.handleKey key).1.tab = page.tab := by
  cases page <;> rfl

/-- Only the page with the ports asks for something by a key: Enter asks to edit a port. -/
theorem Page.edits_of_handleKey {page : Page} {key : Key} {action : Action}
    (asked : (page.handleKey key).2 = some action) :
    key.isPlain "enter" = true ∧ (∃ list, (page.handleKey key).1 = .network list) ∧
      ∃ name, action = .editInterface name := by
  cases page with
  | network page =>
    change (page.handleKey key).2 = some action at asked
    unfold NetworkPage.handleKey at asked
    split at asked
    · contradiction
    · split at asked
      · contradiction
      · split at asked
        · next pressed =>
          obtain ⟨name, -, rfl⟩ := Option.map_eq_some_iff.mp asked
          exact ⟨pressed, ⟨_, rfl⟩, name, rfl⟩
        · contradiction
  | summary => contradiction
  | home => contradiction
  | applications => contradiction
  | kernelLog page => contradiction

theorem Page.mayAsk_of_handleKey {page : Page} {key : Key} {action : Action}
    (asked : (page.handleKey key).2 = some action) :
    MayAsk key page.tab [.page (page.handleKey key).1] action := by
  obtain ⟨pressed, ⟨list, shown⟩, name, rfl⟩ := Page.edits_of_handleKey asked
  refine ⟨pressed, ?_, list, congrArg (fun page => [Layer.page page]) shown⟩
  rw [← page.tab_handleKey key, shown]
  rfl

/-- Painting a page leaves it on its tab. -/
theorem Page.tab_render {page next : Page} {area : Rect} {model : Model} {focused : Bool}
    {strokes : List Stroke} (painted : page.render area model focused = .ok (next, strokes)) :
    next.tab = page.tab := by
  cases page with
  | summary =>
    obtain ⟨found, -, painted⟩ := map_eq_ok.mp painted
    cases painted
    rfl
  | home =>
    cases painted
    rfl
  | network page =>
    cases painted
    rfl
  | applications =>
    cases painted
    rfl
  | kernelLog page =>
    cases painted
    rfl

theorem Layer.page_of_render {page : Page} {next : Layer} {area : Rect} {model : Model}
    {focused : Bool} {strokes : List Stroke}
    (painted : (Layer.page page).render area model focused = .ok (next, strokes)) :
    ∃ found, found.tab = page.tab ∧ next = .page found := by
  obtain ⟨⟨found, strokes⟩, outcome, painted⟩ := map_eq_ok.mp painted
  cases painted
  exact ⟨found, Page.tab_render outcome, rfl⟩

theorem renderLayers_cons (layer : Layer) (layers : List Layer) (area : Rect) (model : Model)
    (onTop : Bool) :
    LayerStack.renderLayers area model onTop (layer :: layers) =
      (LayerStack.renderLayers area model false layers >>= fun below =>
        (layer.render area model onTop).map fun top =>
          (top.1 :: below.1, below.2 ++ top.2)) :=
  rfl

/-- Windows that have been painted are those below, and the one on top. -/
theorem exists_of_renderLayers {layer : Layer} {layers next : List Layer} {area : Rect}
    {model : Model} {onTop : Bool} {strokes : List Stroke}
    (painted : LayerStack.renderLayers area model onTop (layer :: layers) = .ok (next, strokes)) :
    ∃ below strokesBelow top strokesTop,
      LayerStack.renderLayers area model false layers = .ok (below, strokesBelow) ∧
        layer.render area model onTop = .ok (top, strokesTop) ∧
          next = top :: below ∧ strokes = strokesBelow ++ strokesTop := by
  rw [renderLayers_cons] at painted
  obtain ⟨⟨below, strokesBelow⟩, paintedBelow, painted⟩ := bind_eq_ok.mp painted
  obtain ⟨⟨top, strokesTop⟩, paintedTop, painted⟩ := map_eq_ok.mp painted
  cases painted
  exact ⟨below, strokesBelow, top, strokesTop, paintedBelow, paintedTop, rfl, rfl⟩

/-! ## Stacks -/

namespace Holds

variable {tab : Tab} {layers : List Layer}

/-- A key leaves the windows of a tab in order. -/
theorem handleKey (holds : Holds tab layers) (key : Key) :
    Holds tab ((⟨layers⟩ : LayerStack Layer).handleKey key).1.layers := by
  cases holds with
  | page page =>
    rw [← page.tab_handleKey key]
    exact .page (page.handleKey key).1
  | dialog page port keys =>
    have more := Holds.dialog page port (keys ++ [key])
    rw [Dialog.afterKeys_concat] at more
    exact more

/-- What the top window of a tab asks for by a key is what it may ask for. -/
theorem mayAsk (holds : Holds tab layers) {key : Key} {action : Action}
    (asked : ((⟨layers⟩ : LayerStack Layer).handleKey key).2 = some action) :
    MayAsk key tab ((⟨layers⟩ : LayerStack Layer).handleKey key).1.layers action := by
  cases holds with
  | page page => exact Page.mayAsk_of_handleKey asked
  | dialog page port keys =>
    obtain ⟨form, asks⟩ := (Dialog.ipConfig_asks port).afterKeys keys
    obtain silent | dismissed | ⟨config, -, answer⟩ := asks.answer_cases key
    · have both := asked.symm.trans silent
      contradiction
    · obtain rfl := Option.some.inj (asked.symm.trans dismissed)
      trivial
    · obtain rfl := Option.some.inj (asked.symm.trans answer)
      trivial

theorem tail (holds : Holds tab layers) (several : ¬ layers.length ≤ 1) :
    Holds tab layers.tail := by
  cases holds with
  | page page => exact absurd (Nat.le_refl 1) several
  | dialog page port keys => exact .page (.network page)

/-- Painting leaves the windows of a tab in order. -/
theorem renderLayers (holds : Holds tab layers) {area : Rect} {model : Model}
    {next : List Layer} {strokes : List Stroke}
    (painted : LayerStack.renderLayers area model true layers = .ok (next, strokes)) :
    Holds tab next := by
  cases holds with
  | page page =>
    obtain ⟨below, _, top, _, paintedBelow, paintedTop, rfl, -⟩ := exists_of_renderLayers painted
    obtain ⟨found, same, rfl⟩ := Layer.page_of_render paintedTop
    cases paintedBelow
    rw [← same]
    exact .page found
  | dialog page port keys =>
    obtain ⟨below, _, top, _, paintedBelow, paintedTop, rfl, -⟩ := exists_of_renderLayers painted
    obtain ⟨bottom, _, low, _, paintedBottom, paintedLow, rfl, -⟩ :=
      exists_of_renderLayers paintedBelow
    obtain ⟨found, same, rfl⟩ := Layer.page_of_render paintedLow
    cases paintedTop
    cases paintedBottom
    cases found with
    | network found => exact .dialog found port keys
    | summary => contradiction
    | home => contradiction
    | applications => contradiction
    | kernelLog found => contradiction

end Holds

/-- Windows take no note of the time. -/
theorem tickLayers_eq (layers : List Layer) : LayerStack.tickLayers layers = (layers, []) := by
  induction layers with
  | nil => rfl
  | cons layer below inductionHypothesis =>
    unfold LayerStack.tickLayers
    rw [inductionHypothesis]
    rfl

theorem LayerStack.tick_eq (stack : LayerStack Layer) : stack.tick = (stack, []) := by
  unfold LayerStack.tick
  rw [tickLayers_eq]

/-- The status bar asks for nothing but to draw again. -/
theorem StatusBar.redraw_of_tick {bar : StatusBar} {clock : Instant} {action : Action}
    (asked : (bar.tick clock).2 = some action) : action = .redraw := by
  unfold StatusBar.tick at asked
  dsimp only at asked
  split at asked
  · split at asked
    · exact (Option.some.inj asked).symm
    · contradiction
  · exact (Option.some.inj asked).symm

/-! ## The interface -/

/-- The windows of every tab are in order. -/
def Ui.IsStacked (ui : Ui Layer) : Prop :=
  ∀ tab, Holds tab (ui.layers.get tab).layers

/-- What handling an event leaves is in order: the windows are, what is sent asks to draw again or
to quit, and what is handed on is a configuration, or to edit a port that the selected tab shows. -/
structure Handled.IsOrderly (handled : Handled Layer) : Prop where
  stacked : handled.ui.IsStacked
  sent : ∀ action ∈ handled.sent, action = .redraw ∨ action = .quit
  action : ∀ action, handled.action = some action →
    (∃ interface config, action = .configRequested interface config) ∨
      (∃ name, action = .editInterface name) ∧ ShowsPorts handled.ui.tab handled.ui.active.layers

namespace Ui

variable {ui : Ui Layer}

theorem IsStacked.of_layers (stacked : ui.IsStacked) {other : Ui Layer}
    (same : other.layers = ui.layers) : other.IsStacked := by
  intro tab
  rw [same]
  exact stacked tab

/-- An interface stays in order when the selected tab gets windows that it may have. -/
theorem IsStacked.setActive (stacked : ui.IsStacked) {stack : LayerStack Layer}
    (holds : Holds ui.tab stack.layers) : (ui.setActive stack).IsStacked := by
  intro tab
  rw [ui.get_setActive]
  split
  · next here =>
    rw [here]
    exact holds
  · exact stacked tab

theorem IsStacked.popLayer (stacked : ui.IsStacked) : ui.popLayer.1.IsStacked := by
  unfold Ui.popLayer
  split
  · exact stacked
  · next several => exact stacked.setActive ((stacked ui.tab).tail several)

theorem IsStacked.closeTop (stacked : ui.IsStacked) : ui.closeTop.IsOrderly where
  stacked := stacked.popLayer
  sent := by simp [Ui.closeTop]
  action := nofun

theorem sent_selectTab {tab : Tab} {action : Action} (sent : action ∈ (ui.selectTab tab).2) :
    action = .redraw := by
  unfold selectTab at sent
  split at sent
  · contradiction
  · exact List.mem_singleton.mp sent

/-- Selecting a tab leaves everything in order, unless a port shall be edited and another tab is
selected. -/
theorem selectTab_isOrderly {handled : Handled Layer} (orderly : handled.IsOrderly) {tab : Tab}
    (stays : ∀ name, handled.action = some (.editInterface name) → tab = handled.ui.tab) :
    Handled.IsOrderly { handled with
      ui := (handled.ui.selectTab tab).1
      sent := handled.sent ++ (handled.ui.selectTab tab).2 } where
  stacked := orderly.stacked.of_layers (layers_selectTab handled.ui tab)
  sent := by
    intro action sent
    obtain before | after := List.mem_append.mp sent
    · exact orderly.sent action before
    · exact .inl (sent_selectTab after)
  action := by
    intro action handed
    obtain config | ⟨⟨name, rfl⟩, shows⟩ := orderly.action action handed
    · exact .inl config
    · have same : (handled.ui.selectTab tab).1 = handled.ui := by
        unfold selectTab
        rw [if_pos (stays name handed)]
      refine .inr ⟨⟨name, rfl⟩, ?_⟩
      dsimp only
      rw [same]
      exact shows

theorem tabAfter_of_isPlain {key : Key} {code : String} (plain : key.isPlain code = true)
    (tab : Tab) : tabAfter tab key = tab := by
  have free : key.modifiers ≠ { control := true } := by
    intro controlled
    simp [Key.isPlain, controlled] at plain
  simp [tabAfter, Key.isCtrl, free]

/-- Doing what the top window asks for, or handing it on, leaves everything in order. -/
theorem IsStacked.interpret (stacked : ui.IsStacked) {key : Key} {action : Option Action}
    (mayAsk : ∀ asked, action = some asked → MayAsk key ui.tab ui.active.layers asked) :
    (ui.interpret action).IsOrderly := by
  cases action with
  | none => exact ⟨stacked, nofun, nofun⟩
  | some asked =>
    have may := mayAsk asked rfl
    cases asked with
    | dismissDialog title => exact stacked.closeTop
    | configRequested interface config =>
      refine ⟨stacked, nofun, fun action handed => ?_⟩
      cases handed
      exact .inl ⟨interface, config, rfl⟩
    | editInterface name =>
      refine ⟨stacked, nofun, fun action handed => ?_⟩
      cases handed
      exact .inr ⟨⟨name, rfl⟩, may.2⟩
    | quit => contradiction
    | redraw => contradiction
    | buttonClicked label => contradiction
    | notify text => contradiction
    | foreign value => contradiction

/-- What is handed on is what was asked for. -/
theorem asked_of_interpret {action : Option Action} {asked : Action}
    (handed : (ui.interpret action).action = some asked) : action = some asked := by
  unfold interpret at handed
  split at handed
  · contradiction
  · contradiction
  · split at handed
    · contradiction
    · contradiction
  · exact handed

/-- A key that is routed leaves everything in order. -/
theorem IsStacked.routeKey (stacked : ui.IsStacked) (key : Key) : (ui.routeKey key).IsOrderly := by
  have placed := stacked.setActive ((stacked ui.tab).handleKey key)
  have mayAsk (asked : Action) (answer : (ui.active.handleKey key).2 = some asked) :
      MayAsk key ui.tab (ui.setActive (ui.active.handleKey key).1).active.layers asked := by
    rw [active_setActive]
    exact (stacked ui.tab).mayAsk answer
  -- To edit a port is asked for by Enter, which is no key for another tab.
  refine selectTab_isOrderly (placed.interpret mayAsk) fun name handed => ?_
  exact tabAfter_of_isPlain (mayAsk _ (asked_of_interpret handed)).1 _

/-- A key leaves everything in order. -/
theorem IsStacked.handleKey (stacked : ui.IsStacked) {key : Key} {handled : Handled Layer}
    (routed : ui.handleKey key = .ok handled) : handled.IsOrderly := by
  obtain rfl | ⟨-, ⟨-, rfl⟩ | ⟨-, rfl⟩ | ⟨-, rfl⟩⟩ := handled_of_handleKey routed
  · exact stacked.routeKey key
  · exact ⟨stacked, by simp, nofun⟩
  · exact ⟨stacked, by simp, nofun⟩
  · exact stacked.closeTop

theorem IsStacked.tick (stacked : ui.IsStacked) (clock : Instant) : (ui.tick clock).IsOrderly := by
  unfold Ui.tick
  rw [ui.active.tick_eq]
  refine ⟨(stacked.setActive (stacked ui.tab)).of_layers rfl, fun action sent => ?_, nofun⟩
  exact .inl (StatusBar.redraw_of_tick (Option.mem_toList.mp sent))

theorem isStacked_withPages (debug : Bool) (tab : Tab) :
    (withPages debug tab : Ui Layer).IsStacked := by
  intro asked
  have page := Holds.page (.of asked)
  cases asked <;> exact page

/-- An event that is handled leaves everything in order. -/
theorem IsStacked.handleEvent (stacked : ui.IsStacked) {clock : Instant} {event : Event}
    {handled : Handled Layer} (routed : ui.handleEvent clock event = .ok handled) :
    handled.IsOrderly := by
  cases event with
  | key key => exact stacked.handleKey routed
  | tick =>
    cases routed
    exact stacked.tick clock
  | foreign value => contradiction

/-- Painting leaves an interface in order. -/
theorem IsStacked.render (stacked : ui.IsStacked) {next : Ui Layer} {area : Rect} {model : Model}
    {strokes : List Stroke} (painted : ui.render area model = .ok (next, strokes)) :
    next.IsStacked := by
  obtain ⟨⟨stack, strokes⟩, stackPainted, painted⟩ := bind_eq_ok.mp painted
  obtain ⟨⟨layers, _⟩, layersPainted, same⟩ := map_eq_ok.mp stackPainted
  cases same
  cases painted
  exact stacked.setActive ((stacked ui.tab).renderLayers layersPainted)

end Ui

end Screen

/-! ## The program -/

namespace App

/-- What can happen to the program: it is set running, an event is processed, the collectors change
the model and ask to draw again, and the screen is drawn. What fails is not among it. -/
inductive Step : App Layer → App Layer → Prop where
  | entered (app : App Layer) : Step app { app with running := true }
  | processed {app next : App Layer} (clock : Instant) (event : Event) (redraw : Bool)
      (processed : app.process clock event = (next, .ok redraw)) : Step app next
  | collected (app : App Layer) (model : Model) (collectors : List Collector) :
      Step app { app with model := model, collectors := collectors }
  | sent (app : App Layer) : Step app (app.send .redraw)
  | drawn {app next : App Layer} (width height : Int) (strokes : List Stroke)
      (drawn : app.draw width height = .ok (next, strokes)) : Step app next

/-- The states of the program that is started in a state. -/
inductive Reachable (first : App Layer) : App Layer → Prop where
  | started : Reachable first first
  | step {app next : App Layer} (reachable : Reachable first app) (step : Step app next) :
      Reachable first next

/-- The windows are in order, and nothing waits but requests to draw again. -/
structure IsOrderly (app : App Layer) : Prop where
  stacked : app.ui.IsStacked
  waiting : ∀ action ∈ app.bus, action = .redraw

variable {app next : App Layer}

/-- Carrying out an action sends none. -/
theorem bus_handleAction {H : Type} [Host H] {app next : App H} {action : Action}
    (done : app.handleAction action = .ok next) : next.bus = app.bus := by
  cases action with
  | editInterface name =>
    cases done
    unfold App.editInterface
    split <;> rfl
  | foreign value => cases done
  | quit => cases done; rfl
  | configRequested interface config => cases done; rfl
  | notify text => cases done; rfl
  | dismissDialog title => cases done; rfl
  | buttonClicked name => cases done; rfl
  | redraw => cases done; rfl

/-- Carrying out actions sends none. -/
theorem bus_handleActions {H : Type} [Host H] (app : App H) (actions : List Action) :
    (app.handleActions actions).1.bus = app.bus := by
  induction actions generalizing app with
  | nil => rfl
  | cons action rest inductionHypothesis =>
    unfold handleActions
    split
    · rfl
    · next done => rw [inductionHypothesis, bus_handleAction done]

/-- Quitting any number of times does nothing but to stop the program. -/
theorem handleActions_quits {quits : List Action} (all : ∀ action ∈ quits, action = .quit)
    (rest : List Action) (app : App Layer) :
    ∃ running, app.handleActions (quits ++ rest) =
      handleActions { app with running := running } rest := by
  induction quits generalizing app with
  | nil => exact ⟨app.running, rfl⟩
  | cons action quits inductionHypothesis =>
    obtain rfl := all action List.mem_cons_self
    exact inductionHypothesis (fun other member => all other (List.mem_cons_of_mem _ member))
      { app with running := false }

/-- Carrying out what was handed on leaves the windows in order: a configuration closes the top
window, and a port is edited in a dialog over the page that shows it. -/
theorem stacked_handleAction {handled : Handled Layer} (orderly : handled.IsOrderly)
    {action : Action} (handed : handled.action = some action) (sameUi : app.ui = handled.ui)
    (done : app.handleAction action = .ok next) : next.ui.IsStacked := by
  have stacked : app.ui.IsStacked := sameUi ▸ orderly.stacked
  obtain ⟨interface, config, rfl⟩ | ⟨⟨name, rfl⟩, network, page, shown⟩ :=
    orderly.action action handed
  · cases done
    exact stacked.popLayer
  · cases done
    unfold App.editInterface
    split
    · exact stacked
    · next port _ =>
      refine stacked.setActive ?_
      unfold LayerStack.push
      rw [sameUi, network, shown]
      exact .dialog page port []

/-- What is carried out after an event, in a program that is in order: to quit as often as it was
sent, and what was handed on. -/
theorem IsOrderly.coalesce_eq (orderly : app.IsOrderly) {handled : Handled Layer}
    (handledOrderly : handled.IsOrderly) :
    (Action.coalesce (app.bus ++ handled.sent ++ handled.action.toList)).2 =
      (handled.sent.filter fun action => !action.isRedraw) ++ handled.action.toList := by
  have waiting : app.bus.filter (fun action => !action.isRedraw) = [] := by
    refine List.filter_eq_nil_iff.mpr fun action member => ?_
    rw [orderly.waiting action member]
    decide
  have handedOn : handled.action.toList.filter (fun action => !action.isRedraw) =
      handled.action.toList := by
    refine List.filter_eq_self.mpr fun action member => ?_
    obtain ⟨_, _, rfl⟩ | ⟨⟨_, rfl⟩, -⟩ :=
      handledOrderly.action action (Option.mem_toList.mp member)
    · rfl
    · rfl
  unfold Action.coalesce
  rw [List.filter_append, List.filter_append, waiting, handedOn, List.nil_append]

/-- An event that is processed has been handled, and the actions after it carried out. -/
theorem exists_of_process {H : Type} [Host H] {app next : App H} {clock : Instant} {event : Event}
    {redraw : Bool} (processed : app.process clock event = (next, .ok redraw)) :
    ∃ handled, app.ui.handleEvent clock event = .ok handled ∧
      handleActions { app with ui := handled.ui, bus := [] }
        (Action.coalesce (app.bus ++ handled.sent ++ handled.action.toList)).2 =
          (next, .ok ()) := by
  unfold App.process at processed
  split at processed
  · cases processed
  · next handled routed =>
    refine ⟨handled, routed, ?_⟩
    dsimp only at processed
    cases carriedOut : handleActions { app with ui := handled.ui, bus := [] }
        (Action.coalesce (app.bus ++ handled.sent ++ handled.action.toList)).2 with
    | mk last outcome =>
      rw [carriedOut] at processed
      cases outcome with
      | error failure => cases processed
      | ok done =>
        cases processed
        rfl

/-- Nothing waits after an event that has been processed. -/
theorem bus_process {H : Type} [Host H] {app next : App H} {clock : Instant} {event : Event}
    {redraw : Bool} (processed : app.process clock event = (next, .ok redraw)) : next.bus = [] := by
  obtain ⟨handled, -, carriedOut⟩ := exists_of_process processed
  have bus := bus_handleActions { app with ui := handled.ui, bus := [] }
    (Action.coalesce (app.bus ++ handled.sent ++ handled.action.toList)).2
  rw [carriedOut] at bus
  exact bus

/-- Processing an event leaves the windows in order. -/
theorem IsOrderly.process (orderly : app.IsOrderly) {clock : Instant} {event : Event}
    {redraw : Bool} (processed : app.process clock event = (next, .ok redraw)) :
    next.ui.IsStacked := by
  obtain ⟨handled, routed, carriedOut⟩ := exists_of_process processed
  have handledOrderly := orderly.stacked.handleEvent routed
  rw [orderly.coalesce_eq handledOrderly] at carriedOut
  have quits : ∀ action ∈ handled.sent.filter (fun action => !action.isRedraw),
      action = .quit := by
    intro action member
    obtain ⟨sent, drawn⟩ := List.mem_filter.mp member
    obtain rfl | quit := handledOrderly.sent action sent
    · contradiction
    · exact quit
  obtain ⟨running, rest⟩ := handleActions_quits quits handled.action.toList
    { app with ui := handled.ui, bus := [] }
  rw [rest] at carriedOut
  cases handed : handled.action with
  | none =>
    rw [handed] at carriedOut
    cases carriedOut
    exact handledOrderly.stacked
  | some action =>
    -- Quitting has not touched the windows, so they still are what handling the event left.
    rw [handed, Option.toList_some] at carriedOut
    unfold handleActions at carriedOut
    split at carriedOut
    · cases carriedOut
    · next done =>
      cases carriedOut
      exact stacked_handleAction handledOrderly handed rfl done

/-- A step leaves the program in order. -/
theorem IsOrderly.step (orderly : app.IsOrderly) (step : Step app next) : next.IsOrderly := by
  cases step with
  | entered => exact ⟨orderly.stacked, orderly.waiting⟩
  | processed clock event redraw processed =>
    refine ⟨orderly.process processed, ?_⟩
    rw [bus_process processed]
    nofun
  | collected model collectors => exact ⟨orderly.stacked, orderly.waiting⟩
  | sent =>
    refine ⟨orderly.stacked, fun action member => ?_⟩
    obtain before | new := List.mem_append.mp member
    · exact orderly.waiting action before
    · exact List.mem_singleton.mp new
  | drawn width height strokes drawn =>
    obtain ⟨⟨ui, strokes⟩, painted, drawn⟩ := bind_eq_ok.mp drawn
    cases drawn
    exact ⟨orderly.stacked.render painted, orderly.waiting⟩

/-- The program starts with the setting for debugging of its profile, with a page in each tab and
with nothing that waits. -/
theorem exists_of_start {profile : Profile} {base : Path} {first : App Layer}
    (started : App.start profile base = .ok first) :
    ∃ tab, first.ui = .withPages profile.debug tab ∧ first.bus = [] := by
  unfold App.start at started
  split at started
  · cases started
  · split at started
    · cases started
    · split at started
      · cases started
        exact ⟨_, rfl, rfl⟩
      · cases started

/-- The program is in order when it starts. -/
theorem isOrderly_start {profile : Profile} {base : Path} {first : App Layer}
    (started : App.start profile base = .ok first) : first.IsOrderly := by
  obtain ⟨tab, pages, nothing⟩ := exists_of_start started
  constructor
  · rw [pages]
    exact Ui.isStacked_withPages profile.debug tab
  · rw [nothing]
    nofun

theorem IsOrderly.of_reachable {first app : App Layer} (orderly : first.IsOrderly)
    (reachable : Reachable first app) : app.IsOrderly := by
  induction reachable with
  | started => exact orderly
  | step _ step inductionHypothesis => exact inductionHypothesis.step step

/-- In every state of the program, each tab holds its page alone, or the network tab a dialog for a
port over it; and nothing waits after an event has been processed. -/
theorem isStacked_of_reachable {profile : Profile} {base : Path} {first app : App Layer}
    (started : App.start profile base = .ok first) (reachable : Reachable first app) :
    (∀ tab, Holds tab (app.ui.layers.get tab).layers) ∧
      ∀ clock event next redraw, app.process clock event = (next, .ok redraw) → next.bus = [] := by
  have orderly := (isOrderly_start started).of_reachable reachable
  exact ⟨orderly.stacked, fun _ _ _ _ processed => bus_process processed⟩

/-- The program on a device with one port, once it has shown it. -/
def onePort : App Layer where
  ui := (Ui.withPages false .network).setActive ⟨[.page (.network ⟨0, ["eth0"]⟩)]⟩
  model := { network := [⟨"eth0", true, [], none, none, .known .client, true, none, [], ""⟩] }
  collectors := (Collector.collectors ⟨"/", ["run"]⟩ []).toOption.getD []

/-- A program that has shown a port opens a dialog over the page when Enter is pressed, and its
windows are in order. -/
theorem isStacked_of_reachable_edited :
    let first : App Layer := { onePort with ui := .withPages false .network, model := {} }
    let edited := (onePort.process ⟨0⟩ (.key (.plain "enter"))).1
    App.start { Profile.release with startTab := "network" } ⟨"/", ["run"]⟩ = .ok first ∧
      Reachable first edited ∧ (edited.ui.layers.get .network).size = 2 ∧
        ∀ tab, Holds tab (edited.ui.layers.get tab).layers := by
  intro first edited
  have started : App.start { Profile.release with startTab := "network" } ⟨"/", ["run"]⟩ =
      .ok first := by rfl
  have collected : Step first { first with model := onePort.model } :=
    .collected first onePort.model first.collectors
  have drawn : Step { first with model := onePort.model } onePort := .drawn 80 24 _ rfl
  have pressed : Step onePort edited := .processed ⟨0⟩ (.key (.plain "enter")) true rfl
  have reachable := ((Reachable.started.step collected).step drawn).step pressed
  exact ⟨started, reachable, rfl, (isStacked_of_reachable started reachable).1⟩

end App

end NodeConsole
