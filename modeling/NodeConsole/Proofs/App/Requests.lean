import NodeConsole.Proofs.App.Running

/-!
# A request closes its own dialog

When a key has the program carry out a request for a configuration, it is the dialog on top of the
selected tab that has asked for it, for the port that it was opened for. That dialog is closed, and
a notice tells of the request; nothing else of the windows changes: `process_closes`. Only redraws
wait from before, and a key that presses a button selects no other tab, so that the window on top is
still the dialog when the request is carried out.
-/

namespace NodeConsole

open NodeConsole.Collector NodeConsole.Device NodeConsole.Files NodeConsole.Form NodeConsole.Input
  NodeConsole.Net NodeConsole.Screen NodeConsole.Time

/-! ## Who asks -/

namespace Form.Dialog

/-- A key that has a dialog ask for a configuration presses a button. -/
theorem Asks.presses_of_requested {port : Port} {form : IpForm} {dialog : Dialog}
    (asks : Asks port form dialog) {key : Key} {interface : String} {config : PortConfig}
    (requested : (dialog.handleKey key).2 = some (.configRequested interface config)) :
    presses key = true := by
  obtain ⟨-, -, silent | dismissed⟩ | ⟨pressed, -⟩ := asks.handleKey_cases key
  · have both := requested.symm.trans silent
    contradiction
  · have both := requested.symm.trans dismissed
    cases both
  · unfold IpForm.pressed? at pressed
    split at pressed
    · assumption
    · contradiction

end Form.Dialog

namespace Screen

theorem Ui.tabAfter_of_presses {key : Key} (pressed : presses key = true) (tab : Tab) :
    tabAfter tab key = tab := by
  unfold presses at pressed
  obtain enter | space := Bool.or_eq_true_iff.mp pressed
  · exact tabAfter_of_isPlain enter tab
  · exact tabAfter_of_isPlain space tab

/-- Only the dialog of a port asks for a configuration, and it asks for that of its port, by a key
that presses a button. -/
theorem Holds.requested {tab : Tab} {layers : List Layer} (holds : Holds tab layers) {key : Key}
    {interface : String} {config : PortConfig}
    (asked : ((⟨layers⟩ : LayerStack Layer).handleKey key).2 =
      some (.configRequested interface config)) :
    ∃ port keys page,
      layers = [.dialog ((Dialog.ipConfig port).afterKeys keys), .page (.network page)] ∧
      port.name = interface ∧ presses key = true ∧
        (((Dialog.ipConfig port).afterKeys keys).handleKey key).2 =
          some (.configRequested interface config) := by
  cases holds with
  | page page =>
    obtain ⟨-, -, name, edit⟩ := Page.edits_of_handleKey asked
    contradiction
  | dialog page port keys =>
    obtain ⟨form, asks⟩ := (Dialog.ipConfig_asks port).afterKeys keys
    have requested : (((Dialog.ipConfig port).afterKeys keys).handleKey key).2 =
        some (.configRequested interface config) := asked
    obtain ⟨same, -⟩ := (Dialog.handleKey_submits port keys key).1 interface config requested
    exact ⟨port, keys, page, rfl, same.symm, asks.presses_of_requested requested, requested⟩

namespace Ui

variable {ui : Ui Layer} {key : Key} {handled : Handled Layer}

/-- What a key hands on has been asked for by the top window, and the key has been routed. -/
theorem routed_of_action (routed : ui.handleKey key = .ok handled) {action : Action}
    (handed : handled.action = some action) :
    handled = ui.routeKey key ∧ (ui.active.handleKey key).2 = some action := by
  obtain rfl | ⟨-, ⟨-, rfl⟩ | ⟨-, rfl⟩ | ⟨-, rfl⟩⟩ := handled_of_handleKey routed
  · exact ⟨rfl, asked_of_interpret handed⟩
  -- The keys for debugging hand nothing on.
  · contradiction
  · contradiction
  · contradiction

/-- A key for which the dialog on top asks for a configuration is routed without closing anything:
the request is handed on. -/
theorem routeKey_of_requested {top : Layer} {below : List Layer} {interface : String}
    {config : PortConfig} (stacked : ui.active.layers = top :: below)
    (pressed : presses key = true)
    (requested : (top.handleKey key).2 = some (.configRequested interface config)) :
    ui.routeKey key =
      { ui := ui.setActive ⟨(top.handleKey key).1 :: below⟩
        action := some (.configRequested interface config) } := by
  have given : ui.active.handleKey key =
      (⟨(top.handleKey key).1 :: below⟩, some (.configRequested interface config)) := by
    rw [← requested]
    simp only [LayerStack.handleKey, stacked]
    rfl
  unfold routeKey
  simp only [given, interpret, selectTab, tabAfter_of_presses pressed, if_true, List.append_nil]

end Ui

end Screen

namespace App

/-- A request of the dialog for a port has been carried out: that dialog was on top of the selected
tab and is gone, a notice tells of the request, and all other windows and the selected tab are as
they were. -/
structure Closes (app : App Layer) (key : Key) (interface : String) (config : PortConfig)
    (next : App Layer) : Prop where
  dialog : ∃ port keys below, port.name = interface ∧
    app.ui.active.layers = .dialog ((Dialog.ipConfig port).afterKeys keys) :: below ∧
    (((Dialog.ipConfig port).afterKeys keys).handleKey key).2 =
      some (.configRequested interface config) ∧
    next.ui.active.layers = below
  others : ∀ tab, tab ≠ app.ui.tab → next.ui.layers.get tab = app.ui.layers.get tab
  tab : next.ui.tab = app.ui.tab
  notice : next.ui.statusBar.notice = interface ++ ": " ++ config.describe ++ " requested"

variable {app : App Layer} {clock : Instant} {key : Key} {interface : String} {config : PortConfig}

/-- A request that the top window makes is carried out: the window is taken away, and the notice
shown. -/
theorem IsOrderly.process_requested (orderly : app.IsOrderly) {top : Layer} {below : List Layer}
    (stacked : app.ui.active.layers = top :: below) (several : below ≠ [])
    (pressed : presses key = true)
    (requested : (top.handleKey key).2 = some (.configRequested interface config))
    (routed : app.ui.handleEvent clock (.key key) = .ok (app.ui.routeKey key)) :
    app.process clock (.key key) =
      ({ app with
          ui := (app.ui.setActive ⟨below⟩).notify
            (interface ++ ": " ++ config.describe ++ " requested")
          bus := [] }, .ok true) := by
  have handled := Ui.routeKey_of_requested stacked pressed requested
  have only : (Action.coalesce (app.queued clock (.key key))).2 =
      [.configRequested interface config] := by
    rw [queued, routed]
    refine (orderly.coalesce_eq (orderly.stacked.handleEvent routed)).trans ?_
    rw [handled]
    rfl
  have popped := Ui.popLayer_of_several several
    (congrArg (·.layers) (app.ui.active_setActive ⟨(top.handleKey key).1 :: below⟩))
  rw [process_of_routed routed, handled]
  simp only [only, handleActions, handleAction, popped, Ui.setActive_setActive]
  simp [Except.map, Event.isKey]

/-- In a program that is in order, a request for a configuration closes the dialog that has asked
for it. -/
theorem IsOrderly.closes (orderly : app.IsOrderly)
    (queued : .configRequested interface config ∈ app.queued clock (.key key)) :
    ∃ next, app.process clock (.key key) = (next, .ok true) ∧
      Closes app key interface config next := by
  cases routed : app.ui.handleEvent clock (.key key) with
  | error failure =>
    rw [App.queued, routed] at queued
    have redraw := orderly.waiting _ queued
    contradiction
  | ok handled =>
    obtain redraw | ⟨quit, -⟩ | ⟨handed, -⟩ := orderly.queued_cases routed queued
    · contradiction
    · contradiction
    · obtain ⟨rfl, asked⟩ := Ui.routed_of_action routed handed
      obtain ⟨port, keys, page, stacked, name, pressed, requested⟩ :=
        (orderly.stacked app.ui.tab).requested asked
      refine ⟨_, orderly.process_requested stacked (List.cons_ne_nil _ _) pressed requested routed,
        ?_⟩
      constructor
      · refine ⟨port, keys, _, name, stacked, requested, ?_⟩
        exact congrArg LayerStack.layers (app.ui.active_setActive ⟨[.page (.network page)]⟩)
      · intro tab other
        exact (app.ui.get_setActive ⟨[.page (.network page)]⟩ tab).trans (if_neg other)
      · rfl
      · rfl

/-- However the program is run, a request for a configuration that a key has it carry out closes the
dialog that has asked for it, which is on top of the selected tab, and no other window. -/
theorem process_closes {profile : Profile} {base : Path} {first : App Layer}
    (started : App.start profile base = .ok first) (occurrences : List Occurrence)
    (queued : .configRequested interface config ∈
      (first.afterAll occurrences).queued clock (.key key)) :
    ∃ next, (first.afterAll occurrences).process clock (.key key) = (next, .ok true) ∧
      Closes (first.afterAll occurrences) key interface config next :=
  ((isOrderly_start started).afterAll occurrences).1.closes queued

/-- On a device with one port, the dialog for it asks for DHCP when its button is pressed, and is
closed. -/
theorem process_closes_onePort :
    let first : App Layer := { onePort with ui := .withPages false .network, model := {} }
    let app := first.afterAll [.collected onePort.model onePort.collectors, .drawn 80 24,
      .key ⟨0⟩ (.plain "enter"), .key ⟨0⟩ (.plain "tab")]
    App.start { Profile.release with startTab := "network" } ⟨"/", ["run"]⟩ = .ok first ∧
      .configRequested "eth0" { dhcp := true } ∈ app.queued ⟨0⟩ (.key (.plain "enter")) ∧
        ∃ next, app.process ⟨0⟩ (.key (.plain "enter")) = (next, .ok true) ∧
          Closes app (.plain "enter") "eth0" { dhcp := true } next ∧
            next.ui.statusBar.notice = "eth0: DHCP requested" := by
  intro first app
  have started : App.start { Profile.release with startTab := "network" } ⟨"/", ["run"]⟩ =
      .ok first := by rfl
  have queued : .configRequested "eth0" { dhcp := true } ∈
      app.queued ⟨0⟩ (.key (.plain "enter")) := by
    have found : (app.queued ⟨0⟩ (.key (.plain "enter"))).any (fun
        | .configRequested interface config => interface = "eth0" ∧ config = { dhcp := true }
        | _ => false) = true := by decide +kernel
    generalize app.queued ⟨0⟩ (.key (.plain "enter")) = actions at found ⊢
    obtain ⟨action, member, same⟩ := List.any_eq_true.mp found
    split at same
    · obtain ⟨rfl, rfl⟩ := of_decide_eq_true same
      exact member
    · contradiction
  obtain ⟨next, processed, closes⟩ := process_closes started _ queued
  exact ⟨started, queued, next, processed, closes, closes.notice⟩

end App

end NodeConsole
