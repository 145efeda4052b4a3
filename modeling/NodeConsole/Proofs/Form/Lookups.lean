import Mathlib.Data.List.Induction
import NodeConsole.Proofs.Form.IpDialog

/-!
# Lookups of the IP dialog

A form finds its views by their places, its widgets by their names, and a choice finds the selected
option by its place. Where nothing is found, the handlers of keys go on as if nothing had been asked
for. Here they are also defined in steps that fail there (`handleKeyStrictly`). In the dialog for a
port, whatever keys it has taken, these steps never fail, and they do what the handlers do:
`afterKeys_handleKeyStrictly`.
-/

namespace NodeConsole.Form

open NodeConsole.Device NodeConsole.Input NodeConsole.Screen
open FocusTracker

/-! ## Steps that fail when nothing is found -/

/-- What is looked for and is not there. -/
inductive Missing where
  | view (index : Nat)
  | widget (id : String)
  | option (index : Nat)
  | options
  | port (index : Nat)
  deriving DecidableEq, Repr

/-- What has been looked for, which has to be there. -/
def require {α : Type} (missing : Missing) : Option α → Except Missing α
  | some found => .ok found
  | none => .error missing

namespace FocusTracker

/-- The view that has the focus; the place of the focus has to be that of a view. -/
def focusedStrictly (tracker : FocusTracker) : Except Missing (Option String) :=
  match tracker.index with
  | none => .ok none
  | some index => (require (.view index) tracker.ids[index]?).map some

/-- Moves the focus to a place, which has to be that of a view. -/
def moveToStrictly (tracker : FocusTracker) (index : Nat) :
    Except Missing (FocusTracker × Option String) :=
  (require (.view index) tracker.ids[index]?).map fun id =>
    ({ tracker with index := some index }, some id)

/-- Moves the focus to the next view. -/
def nextStrictly (tracker : FocusTracker) : Except Missing (FocusTracker × Option String) :=
  if tracker.ids = [] then .ok (tracker, none)
  else
    tracker.moveToStrictly <| match tracker.index with
      | none => 0
      | some index => (index + 1) % tracker.ids.length

/-- Moves the focus to the view before. -/
def prevStrictly (tracker : FocusTracker) : Except Missing (FocusTracker × Option String) :=
  if tracker.ids = [] then .ok (tracker, none)
  else
    tracker.moveToStrictly <| match tracker.index with
      | none => tracker.ids.length - 1
      | some index => (index + (tracker.ids.length - 1)) % tracker.ids.length

end FocusTracker

namespace Choice

/-- The selected option, which has to be there. -/
def valueStrictly (choice : Choice) : Except Missing String :=
  require (.option choice.selected) choice.options[choice.selected]?

/-- Goes on by a number of places, round and round; there have to be options. -/
def turnStrictly (choice : Choice) (places : Nat) : Except Missing Choice :=
  if choice.options = [] then .error .options
  else .ok { choice with selected := (choice.selected + places) % choice.options.length }

/-- Takes a key. -/
def handleKeyStrictly (choice : Choice) (key : Key) : Except Missing Choice :=
  if key.isPlain "left" then choice.turnStrictly (choice.options.length - 1)
  else if key.isPlain "right" || key.isPlain " " then choice.turnStrictly 1
  else .ok choice

end Choice

/-- Takes a key. -/
def Widget.handleKeyStrictly (widget : Widget) (key : Key) :
    Except Missing (Widget × Option Action) :=
  match widget.body with
  | .choice choice =>
    (choice.handleKeyStrictly key).map fun choice => ({ widget with body := .choice choice }, none)
  | _ => .ok (widget.handleKey key)

/-- Steps through the views until one is accepted; each of them has to be a widget. -/
def seekStrictly (form : Form)
    (step : FocusTracker → Except Missing (FocusTracker × Option String)) :
    Nat → FocusTracker → Except Missing (FocusTracker × Option String)
  | 0, tracker => .ok (tracker, none)
  | count + 1, tracker => do
    match ← step tracker with
    | (tracker, none) => .ok (tracker, none)
    | (tracker, some id) =>
      let widget ← require (.widget id) (form.widget? id)
      if widget.canFocus then .ok (tracker, some id) else seekStrictly form step count tracker

/-- Moves the focus by steps; the widget that gets it has to be there. -/
def moveFocusStrictly (form : Form)
    (step : FocusTracker → Except Missing (FocusTracker × Option String)) :
    Except Missing (Form × Option String) := do
  let focused ← form.focus.focusedStrictly
  match ← form.seekStrictly step (max 1 form.focus.ids.length) form.focus with
  | (tracker, none) =>
    let tracker := match focused with
      | some before => (tracker.setFocus before).1
      | none => tracker.clear
    .ok ({ form with focus := tracker }, none)
  | (tracker, some target) =>
    let unlit := match focused with
      | some before => form.modify before Widget.putOut
      | none => form
    let _ ← require (.widget target) (unlit.widget? target)
    .ok ({ unlit.modify target Widget.light with focus := tracker }, some target)

/-- Takes a key. -/
def handleKeyStrictly (form : Form) (key : Key) : Except Missing (Form × Option Action) :=
  if key.code = "tab" ∧ key.modifiers = {} then
    (form.moveFocusStrictly nextStrictly).map fun moved => (moved.1, none)
  else if key.code = "backtab" then
    (form.moveFocusStrictly prevStrictly).map fun moved => (moved.1, none)
  else do
    match ← form.focus.focusedStrictly with
    | none => .ok (form, none)
    | some id =>
      match form.widget? id with
      | none => .ok (form, none)
      | some widget => do
        let (widget, action) ← widget.handleKeyStrictly key
        .ok (form.modify id fun _ => widget, action)

namespace IpForm

/-- What the choice of the mode or an input holds; it has to be there. -/
def fieldStrictly (form : IpForm) (id : String) : Except Missing String := do
  let widget ← require (.widget id) (form.form.widget? id)
  match widget.body with
  | .choice choice => choice.valueStrictly
  | .input input => .ok input.value
  | .button _ => .error (.widget id)

/-- What the choice of the mode and the inputs hold. -/
def fieldsStrictly (form : IpForm) : Except Missing (List String) :=
  ("mode" :: inputIds).mapM form.fieldStrictly

/-- Follows the mode, which has to be there with all inputs. -/
def syncModeStrictly (form : IpForm) : Except Missing IpForm :=
  form.fieldsStrictly.map fun _ => form.syncMode

/-- Takes a key. -/
def handleKeyStrictly (form : IpForm) (key : Key) : Except Missing (IpForm × Option Action) := do
  let (changed, action) ← form.form.handleKeyStrictly key
  let synced ← syncModeStrictly { form with form := changed }
  .ok (synced, action)

end IpForm

/-- Takes a key. -/
def Content.handleKeyStrictly (content : Content) (key : Key) :
    Except Missing (Content × Option Action) :=
  match content with
  | .plain form => (form.handleKeyStrictly key).map fun (form, action) => (.plain form, action)
  | .ipConfig form =>
    (form.handleKeyStrictly key).map fun (form, action) => (.ipConfig form, action)

/-- What the answer to a button reads of a form. -/
def Content.readStrictly : Content → Except Missing (List String)
  | .plain _ => .ok []
  | .ipConfig form => form.fieldsStrictly

namespace Dialog

/-- Takes a key. -/
def handleKeyStrictly (dialog : Dialog) (key : Key) : Except Missing (Dialog × Option Action) :=
  if key.code = "esc" then .ok (dialog, some (.dismissDialog dialog.title))
  else do
    let (content, action) ← dialog.content.handleKeyStrictly key
    match action with
    | some (.buttonClicked name) =>
      if name = cancelLabel then
        .ok ({ dialog with content := content }, some (.dismissDialog dialog.title))
      else do
        let _ ← content.readStrictly
        let (content, action) := dialog.onButton name content
        .ok ({ dialog with content := content }, action)
    | action => .ok ({ dialog with content := content }, action)

/-- The form for a port with a choice of the mode, before it follows the mode and has a focus. -/
def unfocusedForm (port : Port) (mode : Choice) : IpForm where
  form :=
    ((((⟨"ipconfig-" ++ port.name, [], {}⟩ : Form).addWidget "mode" ⟨.choice mode, false⟩).addWidget
      "address" (.input "Address" (addressPrefill port))).addWidget
      "gateway" (.input "Gateway" (gatewayPrefill port))).addWidget
      "dns" (.input "DNS" (dnsPrefill port))
  interface := port.name

/-- The dialog for a port; its choice has to have options, and every widget that is asked for has to
be there. -/
def ipConfigStrictly (port : Port) : Except Missing Dialog := do
  let selected := if port.dhcp = .known .static then 1 else 0
  let mode ← (Choice.of "Mode" IpForm.modes selected).mapError fun _ => .options
  let synced ← (unfocusedForm port mode).syncModeStrictly
  let (focused, _) ← synced.form.moveFocusStrictly fun tracker => .ok (stepTo "mode" tracker)
  .ok (.of ("Edit " ++ port.name) 64 13 [IpForm.okLabel, cancelLabel]
    (.ipConfig { synced with form := focused }) none submitConfig)

end Dialog

/-! ## Trackers -/

namespace FocusTracker

variable {tracker : FocusTracker}

/-- A focus that is placed is found. -/
theorem focusedStrictly_eq (placed : tracker.IsPlaced) :
    tracker.focusedStrictly = .ok tracker.focused? := by
  unfold focusedStrictly focused?
  cases here : tracker.index with
  | none => rfl
  | some index =>
    dsimp only
    rw [Option.bind_some, List.getElem?_eq_getElem (placed index here)]
    rfl

theorem moveToStrictly_eq {index : Nat} (inRange : index < tracker.ids.length) :
    tracker.moveToStrictly index = .ok (tracker.moveTo index) := by
  unfold moveToStrictly moveTo
  rw [List.getElem?_eq_getElem inRange]
  rfl

/-- Moving on always finds a view. -/
theorem nextStrictly_eq (tracker : FocusTracker) : tracker.nextStrictly = .ok tracker.next := by
  unfold nextStrictly next
  split
  · rfl
  · next some =>
    have positive : 0 < tracker.ids.length := List.length_pos_iff.mpr some
    refine moveToStrictly_eq ?_
    split
    · exact positive
    · exact Nat.mod_lt _ positive

/-- Moving back always finds a view. -/
theorem prevStrictly_eq (tracker : FocusTracker) : tracker.prevStrictly = .ok tracker.prev := by
  unfold prevStrictly prev
  split
  · rfl
  · next some =>
    have positive : 0 < tracker.ids.length := List.length_pos_iff.mpr some
    refine moveToStrictly_eq ?_
    split
    · omega
    · exact Nat.mod_lt _ positive

end FocusTracker

/-- A step to one view is a step. -/
theorem isStep_stepTo (id : String) : IsStep (stepTo id) where
  ids tracker := by
    unfold stepTo FocusTracker.setFocus
    cases tracker.ids.idxOf? id <;> rfl
  leads tracker told := by
    unfold stepTo
    by_cases member : id ∈ tracker.ids
    · obtain ⟨index, focused, found⟩ := setFocus_of_mem member
      rw [focused]
      rintro ⟨⟩
      exact moveTo_leads tracker index found
    · have absent : tracker.ids.idxOf? id = none := List.idxOf?_eq_none_iff.mpr member
      simp [FocusTracker.setFocus, absent]

/-! ## Choices -/

namespace Choice

variable {choice : Choice}

/-- The selected option is there. -/
def IsPlaced (choice : Choice) : Prop :=
  choice.selected < choice.options.length

theorem IsPlaced.valueStrictly_eq (placed : choice.IsPlaced) :
    choice.valueStrictly = .ok choice.value := by
  unfold valueStrictly value
  rw [List.getD_eq_getElem?_getD, List.getElem?_eq_getElem placed]
  rfl

/-- A choice with an option selected takes every key. -/
theorem IsPlaced.handleKeyStrictly_eq (placed : choice.IsPlaced) (key : Key) :
    choice.handleKeyStrictly key = .ok (choice.handleKey key) := by
  have some : choice.options ≠ [] := List.length_pos_iff.mp (Nat.zero_lt_of_lt placed)
  unfold handleKeyStrictly handleKey turnStrictly
  simp only [if_neg some]
  split
  · rfl
  · split <;> rfl

/-- A key leaves an option selected. -/
theorem IsPlaced.handleKey (placed : choice.IsPlaced) (key : Key) :
    (choice.handleKey key).IsPlaced := by
  have positive : 0 < choice.options.length := Nat.zero_lt_of_lt placed
  unfold Choice.handleKey
  dsimp only
  split
  · exact Nat.mod_lt _ positive
  · split
    · exact Nat.mod_lt _ positive
    · exact placed

end Choice

/-! ## Forms -/

/-- Every choice of a form has an option selected. -/
def HasOptions (form : Form) : Prop :=
  ∀ id choice, form.body? id = some (.choice choice) → choice.IsPlaced

variable {form : Form}

theorem HasOptions.of_bodies (options : form.HasOptions) {next : Form}
    (same : ∀ id, next.body? id = form.body? id) : next.HasOptions := by
  intro id choice found
  exact options id choice ((same id).symm.trans found)

/-- A widget whose choice has an option selected takes every key. -/
theorem HasOptions.handleKeyStrictly_widget (options : form.HasOptions) {id : String}
    {widget : Widget} (found : form.widget? id = some widget) (key : Key) :
    widget.handleKeyStrictly key = .ok (widget.handleKey key) := by
  have body : form.body? id = some widget.body := by
    rw [body?, found, Option.map_some]
  obtain ⟨label | input | choice, lit⟩ := widget
  · rfl
  · rfl
  · have placed : choice.IsPlaced := options id choice body
    unfold Widget.handleKeyStrictly
    simp only [placed.handleKeyStrictly_eq key]
    rfl

/-- A key leaves an option of each choice selected. -/
theorem HasOptions.handleKey (options : form.HasOptions) (key : Key) :
    (form.handleKey key).1.HasOptions := by
  obtain ⟨step, -, outcome⟩ | outcome | ⟨taker, widget, -, found, outcome⟩ :=
    form.handleKey_cases key
  · rw [outcome]
    exact options.of_bodies (body?_moveFocus form step)
  · rw [outcome]
    exact options
  · rw [outcome]
    intro id choice changed
    unfold body? at changed
    rw [widget?_modify] at changed
    split at changed
    · next here =>
      subst here
      have body : form.body? id = some widget.body := by
        rw [body?, found, Option.map_some]
      rw [found] at changed
      obtain ⟨label | input | before, lit⟩ := widget
      · cases changed
      · cases changed
      · cases changed
        exact (options id before body).handleKey key
    · exact options id choice changed

section Moving

variable {step : FocusTracker → FocusTracker × Option String}
  {strictly : FocusTracker → Except Missing (FocusTracker × Option String)}

/-- Seeking over views that are widgets finds each of them. -/
theorem seekStrictly_eq (isStep : IsStep step)
    (same : ∀ tracker, strictly tracker = .ok (step tracker)) (count : Nat) {tracker : FocusTracker}
    (widgets : ∀ id ∈ tracker.ids, ∃ widget, form.widget? id = some widget) :
    form.seekStrictly strictly count tracker = .ok (seek form.accepts step count tracker) := by
  induction count generalizing tracker with
  | zero => rfl
  | succ count inductionHypothesis =>
    have ids := isStep.ids tracker
    have leads := isStep.leads tracker
    unfold seekStrictly seek
    rw [same]
    split
    · next stepped =>
      rw [stepped]
      rfl
    · next next id stepped =>
      rw [stepped] at ids leads ⊢
      have member := mem_of_focused? (leads id rfl).2
      obtain ⟨widget, found⟩ := widgets id (ids ▸ member)
      have rest : form.seekStrictly strictly count next = .ok (seek form.accepts step count next) :=
        inductionHypothesis (ids ▸ widgets)
      have accepts : form.accepts id = widget.canFocus := by
        unfold accepts
        rw [found]
        rfl
      change (require _ (form.widget? id) >>= fun widget => _) = _
      rw [found, accepts]
      change (if widget.canFocus = true then _ else _) = _
      rw [rest]
      split <;> rfl

/-- Moving the focus of a consistent form finds all widgets. -/
theorem moveFocusStrictly_eq (consistent : form.IsConsistent) (isStep : IsStep step)
    (same : ∀ tracker, strictly tracker = .ok (step tracker)) :
    form.moveFocusStrictly strictly = .ok (form.moveFocus step) := by
  unfold moveFocusStrictly moveFocus
  rw [focusedStrictly_eq consistent.placed]
  change (form.seekStrictly strictly _ form.focus >>= _) = _
  rw [seekStrictly_eq isStep same _ fun _ => consistent.exists_widget]
  have ids := ids_seek isStep form.accepts (max 1 form.focus.ids.length) form.focus
  have finds (id : String)
      (found : (seek form.accepts step (max 1 form.focus.ids.length) form.focus).2 = some id) :=
    seek_finds isStep found
  generalize seek form.accepts step (max 1 form.focus.ids.length) form.focus = sought at ids finds ⊢
  obtain ⟨last, _ | target⟩ := sought
  · rfl
  · have member : target ∈ form.focus.ids := ids ▸ mem_of_focused? (finds target rfl).2.2
    obtain ⟨widget, found⟩ := consistent.exists_widget member
    cases focused : form.focus.focused? with
    | none =>
      change (require _ (form.widget? target) >>= _) = _
      rw [found, focused?, focused]
      rfl
    | some before =>
      -- The widget is looked up after the light of the one before has been put out.
      change (require _ ((form.modify before Widget.putOut).widget? target) >>= _) = _
      rw [widget?_modify, found, focused?, focused]
      split <;> rfl

/-- A consistent form whose choices have an option selected takes every key. -/
theorem handleKeyStrictly_eq (consistent : form.IsConsistent) (options : form.HasOptions)
    (key : Key) : form.handleKeyStrictly key = .ok (form.handleKey key) := by
  unfold handleKeyStrictly handleKey focusNext focusPrev
  split
  · rw [moveFocusStrictly_eq consistent isStep_next nextStrictly_eq]
    rfl
  · split
    · rw [moveFocusStrictly_eq consistent isStep_prev prevStrictly_eq]
      rfl
    · rw [focusedStrictly_eq consistent.placed]
      cases focused : form.focused? with
      | none =>
        have unfocused : form.focus.focused? = none := focused
        simp only [unfocused, bind, Except.bind]
      | some id =>
        have placed : form.focus.focused? = some id := focused
        cases found : form.widget? id with
        | none => simp only [placed, found, bind, Except.bind]
        | some widget =>
          simp only [placed, found, bind, Except.bind, options.handleKeyStrictly_widget found]

end Moving

/-! ## The form for a port -/

namespace IpForm

/-- The fields of a whole form are found. -/
theorem IsWhole.fieldsStrictly_eq {form : IpForm} (whole : form.IsWhole)
    (options : form.form.HasOptions) :
    form.fieldsStrictly = .ok (("mode" :: inputIds).map form.text) := by
  have field (id : String) (named : id ∈ "mode" :: inputIds) :
      form.fieldStrictly id = .ok (form.text id) := by
    obtain rfl | isInput := List.mem_cons.mp named
    · have kind := whole.kind "mode"
      unfold kind? body? at kind
      obtain ⟨body, bodyFound, isChoice⟩ := Option.map_eq_some_iff.mp kind
      obtain ⟨⟨body, lit⟩, found, rfl⟩ := Option.map_eq_some_iff.mp bodyFound
      cases body with
      | choice choice =>
        have placed : choice.IsPlaced := options "mode" choice bodyFound
        unfold fieldStrictly text
        rw [found]
        exact placed.valueStrictly_eq
      | button label => contradiction
      | input input => contradiction
    · obtain ⟨input, lit, found⟩ := whole.exists_input isInput
      unfold fieldStrictly text
      rw [found]
      rfl
  unfold fieldsStrictly
  simp only [inputIds, List.mapM_cons, List.mapM_nil, List.map_cons, List.map_nil]
  rw [field "mode" (by decide), field "address" (by decide), field "gateway" (by decide),
    field "dns" (by decide)]
  rfl

/-- Following the mode leaves an option of each choice selected. -/
theorem hasOptions_syncMode {form : IpForm} (options : form.form.HasOptions) :
    form.syncMode.form.HasOptions := by
  intro id choice changed
  unfold body? at changed
  rw [widget?_syncMode] at changed
  split at changed
  · obtain ⟨enabled, found, isChoice⟩ := Option.map_eq_some_iff.mp changed
    obtain ⟨⟨body, lit⟩, before, rfl⟩ := Option.map_eq_some_iff.mp found
    have same : form.form.body? id = some body := by
      rw [body?, before, Option.map_some]
    cases body with
    | choice before =>
      cases isChoice
      exact options id choice same
    | button label => cases isChoice
    | input input => cases isChoice
  · exact options id choice changed

/-- A ready form takes every key. -/
theorem IsReady.handleKeyStrictly_eq {form : IpForm} (ready : form.IsReady)
    (options : form.form.HasOptions) (key : Key) :
    form.handleKeyStrictly key = .ok (form.handleKey key) := by
  have fields := (ready.toIsWhole.handleKey key).fieldsStrictly_eq (options.handleKey key)
  have synced : syncModeStrictly { form with form := (form.form.handleKey key).1 } =
      .ok (syncMode { form with form := (form.form.handleKey key).1 }) := by
    unfold syncModeStrictly
    rw [fields]
    rfl
  unfold IpForm.handleKeyStrictly
  rw [Form.handleKeyStrictly_eq ready.consistent options key]
  exact congrArg (· >>= fun synced => .ok (synced, (form.form.handleKey key).2)) synced

end IpForm

/-! ## The dialog -/

theorem Content.hasOptions_handleKey {content : Content} (options : content.form.HasOptions)
    (key : Key) : (content.handleKey key).1.form.HasOptions := by
  cases content with
  | plain form => exact options.handleKey key
  | ipConfig form => exact IpForm.hasOptions_syncMode (options.handleKey key)

namespace Dialog

/-- The answer to a button of the dialog for a port leaves the widgets as they are. -/
theorem form_submitConfig (button : String) (content : Content) :
    (submitConfig button content).1.form = content.form := by
  cases content with
  | plain form => rfl
  | ipConfig form =>
    obtain ⟨error, same⟩ := form.submit_eq button
    change (form.submit button).1.form = form.form
    rw [same]

/-- A key leaves an option of each choice selected. -/
theorem hasOptions_handleKey {dialog : Dialog} (rule : dialog.onButton = submitConfig)
    (options : dialog.form.HasOptions) (key : Key) :
    (dialog.handleKey key).1.form.HasOptions := by
  have changed := Content.hasOptions_handleKey options key
  obtain ⟨title, width, height, buttons, content, _⟩ := dialog
  subst rule
  unfold Dialog.handleKey
  split
  · exact options
  · dsimp only
    split
    · split
      · exact changed
      · change (submitConfig _ _).1.form.HasOptions
        rw [form_submitConfig]
        exact changed
    · exact changed

variable {port : Port} {form : IpForm} {dialog : Dialog}

/-- The dialog for a port finds all that a key asks for. -/
theorem Asks.handleKeyStrictly_eq (asks : Asks port form dialog) (options : dialog.form.HasOptions)
    (key : Key) : dialog.handleKeyStrictly key = .ok (dialog.handleKey key) := by
  have formOptions : form.form.HasOptions := by
    have same : dialog.form = form.form := congrArg Content.form asks.content
    rwa [same] at options
  have taken : dialog.content.handleKeyStrictly key = .ok (dialog.content.handleKey key) := by
    rw [asks.content]
    unfold Content.handleKeyStrictly
    dsimp only
    rw [asks.ready.handleKeyStrictly_eq formOptions key]
    rfl
  have next : (dialog.content.handleKey key).1 = .ipConfig (form.handleKey key).1 := by
    rw [asks.content]
    rfl
  have read : (dialog.content.handleKey key).1.readStrictly =
      .ok (("mode" :: IpForm.inputIds).map (form.handleKey key).1.text) := by
    rw [next]
    exact (asks.ready.handleKey key).fieldsStrictly_eq
      (IpForm.hasOptions_syncMode (formOptions.handleKey key))
  unfold Dialog.handleKeyStrictly Dialog.handleKey
  split
  · rfl
  · rw [taken]
    generalize dialog.content.handleKey key = answer at read ⊢
    obtain ⟨content, _ | action⟩ := answer
    · rfl
    · cases action with
      | buttonClicked name =>
        dsimp only [bind, Except.bind] at read ⊢
        split
        · rfl
        · rw [read]
      | _ => rfl

/-- The dialog for a port starts with a mode selected. -/
theorem hasOptions_ipConfig (port : Port) : (ipConfig port).form.HasOptions := by
  have same : (ipConfig port).form = (startForm port).form :=
    congrArg Content.form (content_ipConfig port)
  rw [same]
  intro id choice found
  have kind : (startForm port).form.kind? id = some .choice := by
    rw [kind?, found]
    rfl
  obtain ⟨-, input⟩ | ⟨rfl, -⟩ | ⟨-, button⟩ :=
    IpForm.kind_cases (((startForm_isReady port).kind id).symm.trans kind)
  · cases input
  · cases found
    unfold Choice.IsPlaced
    dsimp only
    split <;> decide
  · cases button

/-- Whatever keys the dialog for a port has taken, it finds all that a key asks for. -/
theorem afterKeys_handleKeyStrictly (port : Port) (keys : List Key) (key : Key) :
    ((ipConfig port).afterKeys keys).handleKeyStrictly key =
      .ok (((ipConfig port).afterKeys keys).handleKey key) := by
  obtain ⟨form, asks⟩ := (ipConfig_asks port).afterKeys keys
  refine asks.handleKeyStrictly_eq ?_ key
  -- The rest is an induction on the keys, in which the form of the dialog is another one each time.
  clear asks
  induction keys using List.reverseRecOn with
  | nil => exact hasOptions_ipConfig port
  | append_singleton keys last inductionHypothesis =>
    obtain ⟨before, asks⟩ := (ipConfig_asks port).afterKeys keys
    rw [afterKeys_concat]
    exact hasOptions_handleKey asks.rule inductionHypothesis last

/-- The form for a port has its four widgets, and no focus. -/
theorem form_unfocusedForm (port : Port) (mode : Choice) :
    (unfocusedForm port mode).form =
      { name := "ipconfig-" ++ port.name
        widgets := [("mode", ⟨.choice mode, false⟩),
          ("address", .input "Address" (addressPrefill port)),
          ("gateway", .input "Gateway" (gatewayPrefill port)),
          ("dns", .input "DNS" (dnsPrefill port))]
        focus := ⟨["mode", "address", "gateway", "dns"], none⟩ } := by
  rfl

/-- The dialog for a port can be opened. -/
theorem ipConfigStrictly_eq (port : Port) : ipConfigStrictly port = .ok (ipConfig port) := by
  let mode : Choice := ⟨"Mode", IpForm.modes, if port.dhcp = .known .static then 1 else 0⟩
  have chosen : Choice.of "Mode" IpForm.modes (if port.dhcp = .known .static then 1 else 0) =
      .ok mode := by
    unfold mode
    split <;> rfl
  have placed : mode.IsPlaced := by
    unfold mode Choice.IsPlaced
    dsimp only
    split <;> decide
  have synced : (unfocusedForm port mode).syncModeStrictly =
      .ok (unfocusedForm port mode).syncMode := by
    have chosen : (unfocusedForm port mode).fieldStrictly "mode" = mode.valueStrictly := by rfl
    have fields : (unfocusedForm port mode).fieldsStrictly =
        .ok [mode.value, addressPrefill port, gatewayPrefill port, dnsPrefill port] := by
      unfold IpForm.fieldsStrictly
      rw [List.mapM_cons, chosen, placed.valueStrictly_eq]
      rfl
    unfold IpForm.syncModeStrictly
    rw [fields]
    rfl
  have consistent : (unfocusedForm port mode).form.IsConsistent := by
    rw [form_unfocusedForm]
    exact
      { tracked := rfl
        distinct := by
          change ["mode", "address", "gateway", "dns"].Nodup
          decide
        placed := nofun
        lit := by
          simp [focused?, FocusTracker.focused?, Widget.input] }
  have moved := moveFocusStrictly_eq (IpForm.syncMode_isConsistent consistent)
    (isStep_stepTo "mode") fun _ => rfl
  unfold ipConfigStrictly
  simp only [chosen, Except.mapError, bind, Except.bind, synced, moved]
  rfl

end Dialog

end NodeConsole.Form
