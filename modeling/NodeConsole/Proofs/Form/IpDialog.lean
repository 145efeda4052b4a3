import NodeConsole.Form.Dialog
import NodeConsole.Proofs.Form.Focus

/-!
# The focus of the IP dialog

Whatever keys the dialog for a port takes, its inputs are enabled exactly in static mode, and the
one widget that is lit takes the focus: `afterKeys_keepsFocus`. The mode changes only while it has
the focus itself, so that no change of the mode disables the widget that has the focus.
-/

namespace NodeConsole.Form

open NodeConsole.Device NodeConsole.Input NodeConsole.Screen
open FocusTracker

/-! ## Kinds of widgets -/

/-- What a widget stays, whatever keys it takes. -/
inductive Kind where
  | button (label : String)
  | input
  | choice
  deriving DecidableEq, Repr

/-- The kind of a widget. -/
def WidgetBody.kind : WidgetBody → Kind
  | button label => .button label
  | input _ => .input
  | choice _ => .choice

/-- The kind of the widget of a name. -/
def kind? (form : Form) (id : String) : Option Kind :=
  (form.body? id).map WidgetBody.kind

/-- The kinds of the widgets are looked up by their names. -/
theorem kind?_eq_lookup (form : Form) (id : String) :
    form.kind? id = (form.widgets.map fun entry => (entry.1, entry.2.body.kind)).lookup id := by
  unfold kind? body? widget?
  induction form.widgets with
  | nil => rfl
  | cons entry rest inductionHypothesis =>
    by_cases here : entry.1 = id
    · simp [here]
    · have differs : (id == entry.1) = false := by simpa using Ne.symm here
      rw [List.find?_cons_of_neg (by simpa using here), List.map_cons, List.lookup_cons, differs]
      exact inductionHypothesis

theorem Widget.kind_handleKey (widget : Widget) (key : Key) :
    (widget.handleKey key).1.body.kind = widget.body.kind := by
  unfold Widget.handleKey
  split <;> simp_all [WidgetBody.kind]

theorem Widget.kind_setEnabled (widget : Widget) (enabled : Bool) :
    (widget.setEnabled enabled).body.kind = widget.body.kind := by
  unfold Widget.setEnabled
  split <;> simp_all [WidgetBody.kind]

theorem Widget.lit_setEnabled (widget : Widget) (enabled : Bool) :
    (widget.setEnabled enabled).lit = widget.lit := by
  unfold Widget.setEnabled
  split <;> rfl

/-- What is no input takes the focus. -/
theorem Widget.canFocus_of_kind {widget : Widget} (noInput : widget.body.kind ≠ .input) :
    widget.canFocus = true := by
  unfold Widget.canFocus
  split
  · next body =>
    rw [body] at noInput
    exact absurd rfl noInput
  · rfl

/-- A key that presses a button. -/
def presses (key : Key) : Bool :=
  key.isPlain "enter" || key.isPlain " "

theorem stays_of_presses {key : Key} (pressed : presses key = true) : ¬ MovesFocus key := by
  unfold presses Key.isPlain at pressed
  rintro (⟨tab, -⟩ | backtab)
  · simp [tab] at pressed
  · simp [backtab] at pressed

/-- A button that is pressed answers with its label. -/
theorem Widget.answer_of_button {widget : Widget} {label : String} {key : Key}
    (isButton : widget.body.kind = .button label) (pressed : presses key = true) :
    (widget.handleKey key).2 = some (.buttonClicked label) := by
  obtain ⟨_ | _ | _, lit⟩ := widget
  · obtain rfl := Kind.button.inj isButton
    exact if_pos pressed
  · contradiction
  · contradiction

theorem Widget.answer_eq_none {widget : Widget} {key : Key}
    (silent : presses key = true → ∀ label, widget.body.kind ≠ .button label) :
    (widget.handleKey key).2 = none := by
  obtain ⟨label | _ | _, lit⟩ := widget
  · exact if_neg fun pressed => silent pressed label rfl
  · rfl
  · rfl

/-! ## The form -/

namespace IpForm

/-- The widgets of the form in a dialog, by name. -/
def kinds : List (String × Kind) :=
  [("mode", .choice), ("address", .input), ("gateway", .input), ("dns", .input),
    (okLabel, .button okLabel), (Dialog.cancelLabel, .button Dialog.cancelLabel)]

/-- The form has its widgets, and the tracker and the lights agree. -/
structure IsWhole (form : IpForm) : Prop where
  consistent : form.form.IsConsistent
  kind : ∀ id, form.form.kind? id = kinds.lookup id

/-- The form as it is between keys: the inputs are enabled in static mode alone, and a widget that
takes the focus has it. -/
structure IsReady (form : IpForm) : Prop extends form.IsWhole where
  enabled : ∀ id ∈ inputIds, form.form.accepts id = form.isStatic
  focused : ∃ id, form.form.focused? = some id ∧ form.form.accepts id = true

/-- The text of a widget depends on what the widget is alone. -/
theorem text_congr {left right : IpForm} {id : String}
    (same : left.form.body? id = right.form.body? id) : left.text id = right.text id := by
  have read (form : IpForm) : form.text id =
      ((form.form.body? id).bind fun body => Widget.value? ⟨body, false⟩).getD "" := by
    unfold text body?
    cases form.form.widget? id <;> rfl
  rw [read, read, same]

theorem isStatic_congr {left right : IpForm}
    (same : left.form.body? "mode" = right.form.body? "mode") : left.isStatic = right.isStatic := by
  unfold isStatic
  rw [text_congr same]

/-! ### Following the mode -/

/-- Following the mode changes the inputs alone. -/
theorem widget?_syncMode (form : IpForm) (id : String) :
    form.syncMode.form.widget? id =
      if id ∈ inputIds then (form.form.widget? id).map fun widget => widget.setEnabled form.isStatic
      else form.form.widget? id := by
  simp only [syncMode, inputIds, List.foldl_cons, List.foldl_nil, widget?_modify, List.mem_cons,
    List.not_mem_nil, or_false]
  by_cases address : id = "address"
  · simp [address]
  · by_cases gateway : id = "gateway"
    · simp [gateway]
    · simp [address, gateway]

theorem isStatic_syncMode (form : IpForm) : form.syncMode.isStatic = form.isStatic := by
  refine isStatic_congr ?_
  unfold body?
  rw [widget?_syncMode, if_neg (by decide)]

/-- Following the mode leaves the kinds of all widgets. -/
theorem kind?_syncMode (form : IpForm) (id : String) :
    form.syncMode.form.kind? id = form.form.kind? id := by
  unfold kind? body?
  rw [widget?_syncMode]
  split
  · cases form.form.widget? id <;> simp [Widget.kind_setEnabled]
  · rfl

theorem syncMode_isConsistent {form : IpForm} (consistent : form.form.IsConsistent) :
    form.syncMode.form.IsConsistent := by
  have keeps (widget : Widget) := widget.lit_setEnabled form.isStatic
  exact ((consistent.modify _ fun widget _ => keeps widget).modify _
    fun widget _ => keeps widget).modify _ fun widget _ => keeps widget

/-- A widget of the form is an input, the choice of the mode, or a button with its name on it. -/
theorem kind_cases {id : String} {kind : Kind} (listed : kinds.lookup id = some kind) :
    id ∈ inputIds ∧ kind = .input ∨ id = "mode" ∧ kind = .choice ∨
      (id = okLabel ∨ id = Dialog.cancelLabel) ∧ kind = .button id := by
  obtain ⟨before, after, split, -⟩ := List.lookup_eq_some_iff.mp listed
  have member : (id, kind) ∈ kinds := by
    rw [split]
    exact List.mem_append_right before List.mem_cons_self
  have all : ∀ entry ∈ kinds, entry.1 ∈ inputIds ∧ entry.2 = .input ∨
      entry.1 = "mode" ∧ entry.2 = .choice ∨
        (entry.1 = okLabel ∨ entry.1 = Dialog.cancelLabel) ∧ entry.2 = .button entry.1 := by
    decide
  exact all (id, kind) member

namespace IsWhole

variable {form : IpForm} {id : String}

/-- The inputs of a whole form are there. -/
theorem exists_input (whole : form.IsWhole) (named : id ∈ inputIds) :
    ∃ input lit, form.form.widget? id = some ⟨.input input, lit⟩ := by
  have listed : ∀ id ∈ inputIds, kinds.lookup id = some .input := by decide
  have kind := (whole.kind id).trans (listed id named)
  unfold kind? body? at kind
  obtain ⟨body, bodyFound, isInput⟩ := Option.map_eq_some_iff.mp kind
  obtain ⟨⟨body, lit⟩, found, rfl⟩ := Option.map_eq_some_iff.mp bodyFound
  cases body with
  | input input => exact ⟨input, lit, found⟩
  | button label => contradiction
  | choice choice => contradiction

/-- The widget that has the focus, with what it is. -/
theorem exists_focused (whole : form.IsWhole) (focused : form.form.focused? = some id) :
    ∃ widget, form.form.widget? id = some widget ∧
      (id ∈ inputIds ∧ widget.body.kind = .input ∨ id = "mode" ∧ widget.body.kind = .choice ∨
        (id = okLabel ∨ id = Dialog.cancelLabel) ∧ widget.body.kind = .button id) := by
  obtain ⟨widget, found⟩ := whole.consistent.exists_focused focused
  have kind := whole.kind id
  unfold kind? body? at kind
  rw [found] at kind
  exact ⟨widget, found, kind_cases kind.symm⟩

theorem syncMode (whole : form.IsWhole) : form.syncMode.IsWhole where
  consistent := syncMode_isConsistent whole.consistent
  kind id := (kind?_syncMode form id).trans (whole.kind id)

/-- Following the mode makes a whole form ready, unless an input has the focus that it disables. -/
theorem syncMode_isReady (whole : form.IsWhole) (focused : form.form.focused? = some id)
    (allowed : id ∈ inputIds → form.isStatic = true) : form.syncMode.IsReady := by
  have enabled (input : String) (named : input ∈ inputIds) :
      form.syncMode.form.accepts input = form.isStatic := by
    obtain ⟨field, lit, found⟩ := whole.exists_input named
    unfold Form.accepts
    rw [widget?_syncMode, if_pos named, found]
    rfl
  refine ⟨whole.syncMode, fun input named => ?_, id, focused, ?_⟩
  · rw [isStatic_syncMode]
    exact enabled input named
  · obtain ⟨widget, found, kind⟩ := whole.syncMode.exists_focused focused
    by_cases named : id ∈ inputIds
    · rw [enabled id named]
      exact allowed named
    · unfold Form.accepts
      rw [found]
      refine Widget.canFocus_of_kind ?_
      rcases kind with ⟨isInput, -⟩ | ⟨-, kind⟩ | ⟨-, kind⟩
      · exact absurd isInput named
      · rw [kind]
        nofun
      · rw [kind]
        nofun

end IsWhole

/-! ### Keys -/

/-- A key leaves a form whole. -/
theorem IsWhole.handleKey {form : IpForm} (whole : form.IsWhole) (key : Key) :
    IsWhole { form with form := (form.form.handleKey key).1 } where
  consistent := handleKey_isConsistent whole.consistent key
  kind id := by
    refine Eq.trans ?_ (whole.kind id)
    unfold kind?
    obtain ⟨step, -, outcome⟩ | outcome | ⟨taker, widget, -, found, outcome⟩ :=
      form.form.handleKey_cases key
    · rw [outcome, body?_moveFocus]
    · rw [outcome]
    · rw [outcome]
      unfold body?
      rw [widget?_modify]
      split
      · next here =>
        subst here
        simp [found, Widget.kind_handleKey]
      · rfl

theorem IsReady.isStatic_of_accepts {form : IpForm} (ready : form.IsReady) {id : String}
    (named : id ∈ inputIds) (accepted : form.form.accepts id = true) : form.isStatic = true := by
  rw [← ready.enabled id named]
  exact accepted

/-- A key leaves a form ready: if it changes the mode, the choice of the mode has the focus, which
keeps it; if it moves the focus, then to a widget that takes it. -/
theorem IsReady.handleKey {form : IpForm} (ready : form.IsReady) (key : Key) :
    (form.handleKey key).1.IsReady := by
  have whole := ready.toIsWhole.handleKey key
  obtain ⟨id, focused, accepted⟩ := ready.focused
  unfold IpForm.handleKey
  obtain ⟨step, isStep, outcome⟩ | outcome | ⟨taker, widget, focusedToo, found, outcome⟩ :=
    form.form.handleKey_cases key
  · rw [outcome] at whole ⊢
    have sameMode : isStatic { form with form := (form.form.moveFocus step).1 } = form.isStatic :=
      isStatic_congr (body?_moveFocus form.form step "mode")
    obtain ⟨target, -, targetAccepted, moved⟩ | ⟨-, stays⟩ := moveFocus_cases form.form isStep
    · exact whole.syncMode_isReady moved fun named =>
        sameMode.trans (ready.isStatic_of_accepts named targetAccepted)
    · exact whole.syncMode_isReady (stays.trans focused) fun named =>
        sameMode.trans (ready.isStatic_of_accepts named accepted)
  · rw [outcome] at whole ⊢
    exact whole.syncMode_isReady focused fun named => ready.isStatic_of_accepts named accepted
  · rw [outcome] at whole ⊢
    refine whole.syncMode_isReady focused fun named => ?_
    obtain rfl : taker = id := Option.some.inj (focusedToo.symm.trans focused)
    -- An input has taken the key, so the choice of the mode is as it was.
    have other : "mode" ≠ taker := by
      rintro rfl
      exact absurd named (by decide)
    have sameMode : isStatic { form with form := form.form.modify taker fun _ =>
        (widget.handleKey key).1 } = form.isStatic := by
      refine isStatic_congr ?_
      unfold body?
      rw [widget?_modify, if_neg other]
    exact sameMode.trans (ready.isStatic_of_accepts named accepted)

/-- The button that has the focus, if a key presses it. -/
def pressed? (form : IpForm) (key : Key) : Option String :=
  if presses key then
    form.form.focused?.filter fun id => id = okLabel ∨ id = Dialog.cancelLabel
  else none

theorem label_of_pressed? {form : IpForm} {key : Key} {label : String}
    (pressed : form.pressed? key = some label) : label = okLabel ∨ label = Dialog.cancelLabel := by
  unfold pressed? at pressed
  split at pressed
  · simpa using (Option.filter_eq_some_iff.mp pressed).2
  · contradiction

/-- A ready form answers a key with the button that it presses. -/
theorem IsReady.answer_handleKey {form : IpForm} (ready : form.IsReady) (key : Key) :
    (form.handleKey key).2 = (form.pressed? key).map .buttonClicked := by
  change (form.form.handleKey key).2 = _
  obtain ⟨id, focused, -⟩ := ready.focused
  obtain ⟨widget, found, kind⟩ := ready.toIsWhole.exists_focused focused
  by_cases pressed : presses key = true
  · rw [handleKey_of_focused (stays_of_presses pressed) focused found]
    unfold pressed?
    rw [if_pos pressed, focused, Option.filter_some]
    obtain ⟨named, isInput⟩ | ⟨rfl, isChoice⟩ | ⟨named, isButton⟩ := kind
    · have noButton : ∀ id ∈ inputIds, ¬(id = okLabel ∨ id = Dialog.cancelLabel) := by decide
      rw [Widget.answer_eq_none fun _ label => by simp [isInput],
        if_neg (by simpa using noButton id named)]
      rfl
    · rw [Widget.answer_eq_none fun _ label => by simp [isChoice]]
      rfl
    · rw [Widget.answer_of_button isButton pressed, if_pos (by simpa using named)]
      rfl
  · have silent (widget : Widget) : (widget.handleKey key).2 = none :=
      Widget.answer_eq_none fun pressedToo => absurd pressedToo pressed
    unfold pressed?
    rw [if_neg pressed]
    obtain ⟨step, -, outcome⟩ | outcome | ⟨taker, other, -, -, outcome⟩ :=
      form.form.handleKey_cases key
    · rw [outcome]
      rfl
    · rw [outcome]
      rfl
    · rw [outcome]
      exact silent other

/-- What holds of the focus between keys: the inputs are enabled in static mode alone; one widget
is lit, which has the focus, takes it, and takes every key that does not move it; and the focus can
be moved on and back, to widgets that take it. -/
structure KeepsFocus (form : IpForm) : Prop where
  inputs : ∀ id ∈ inputIds, ∃ input lit, form.form.widget? id = some ⟨.input input, lit⟩ ∧
    (input.enabled = true ↔ form.text "mode" = "Static")
  lit : ∃ id widget, form.form.litIds = [id] ∧ form.form.focused? = some id ∧
    form.form.widget? id = some widget ∧ widget.canFocus = true ∧
      ∀ key, ¬ MovesFocus key → form.form.handleKey key =
        (form.form.modify id fun _ => (widget.handleKey key).1, (widget.handleKey key).2)
  forward : ∃ target, form.form.focusNext.2 = some target ∧
    form.form.focusNext.1.focused? = some target ∧ form.form.accepts target = true
  backward : ∃ target, form.form.focusPrev.2 = some target ∧
    form.form.focusPrev.1.focused? = some target ∧ form.form.accepts target = true

/-- Submitting changes nothing but the message. -/
theorem submit_eq (form : IpForm) (button : String) :
    ∃ error, (form.submit button).1 = { form with error := error } := by
  unfold submit
  split
  · exact ⟨form.error, rfl⟩
  · split
    · exact ⟨_, rfl⟩
    · exact ⟨_, rfl⟩

theorem IsReady.withError {form : IpForm} (ready : form.IsReady) (error : String) :
    IsReady { form with error := error } where
  consistent := ready.consistent
  kind := ready.kind
  enabled := ready.enabled
  focused := ready.focused

/-- In a ready form, moving round leads to a widget that takes the focus. -/
theorem IsReady.exists_target {form : IpForm} (ready : form.IsReady)
    {step : FocusTracker → FocusTracker × Option String} {places : Nat → Nat}
    (isStep : IsStep step) (isStride : IsStride step places) :
    ∃ target, (form.form.moveFocus step).2 = some target ∧
      (form.form.moveFocus step).1.focused? = some target ∧ form.form.accepts target = true := by
  obtain ⟨id, focused, accepted⟩ := ready.focused
  have found := moveFocus_isSome isStride ready.consistent.placed focused accepted
  obtain ⟨target, moved, targetAccepted, targetFocused⟩ | ⟨stays, -⟩ :=
    moveFocus_cases form.form isStep
  · exact ⟨target, moved, targetFocused, targetAccepted⟩
  · simp [stays] at found

/-- A ready form keeps the focus. -/
theorem IsReady.keepsFocus {form : IpForm} (ready : form.IsReady) : form.KeepsFocus where
  inputs id named := by
    obtain ⟨input, lit, found⟩ := ready.toIsWhole.exists_input named
    refine ⟨input, lit, found, ?_⟩
    have enabled := ready.enabled id named
    unfold Form.accepts at enabled
    rw [found] at enabled
    change input.enabled = form.isStatic at enabled
    rw [enabled, isStatic, decide_eq_true_iff]
  lit := by
    obtain ⟨id, focused, accepted⟩ := ready.focused
    obtain ⟨widget, found⟩ := ready.consistent.exists_focused focused
    unfold Form.accepts at accepted
    rw [found] at accepted
    refine ⟨id, widget, ?_, focused, found, accepted, fun key stays =>
      handleKey_of_focused stays focused found⟩
    rw [ready.consistent.litIds_eq, focused]
    rfl
  forward := ready.exists_target isStep_next isStride_next
  backward := ready.exists_target isStep_prev isStride_prev

end IpForm

/-! ## The dialog -/

namespace Dialog

/-- A dialog after keys. -/
def afterKeys (dialog : Dialog) (keys : List Key) : Dialog :=
  keys.foldl (fun dialog key => (dialog.handleKey key).1) dialog

theorem afterKeys_concat (dialog : Dialog) (keys : List Key) (key : Key) :
    dialog.afterKeys (keys ++ [key]) = ((dialog.afterKeys keys).handleKey key).1 := by
  unfold afterKeys
  rw [List.foldl_append, List.foldl_cons, List.foldl_nil]

/-- The form that the dialog for a port starts with. -/
def startForm (port : Port) : IpForm :=
  let enabled : Bool := port.dhcp = .known .static
  let inputOf (label value : String) : Widget :=
    ⟨.input ⟨label, value, Widget.defaultMaxLength, enabled⟩, false⟩
  { form :=
      { name := "ipconfig-" ++ port.name
        widgets := [("mode", (IpForm.modeWidget port).light),
          ("address", inputOf "Address" (addressPrefill port)),
          ("gateway", inputOf "Gateway" (gatewayPrefill port)),
          ("dns", inputOf "DNS" (dnsPrefill port)),
          (IpForm.okLabel, .button IpForm.okLabel), (cancelLabel, .button cancelLabel)]
        focus := ⟨["mode", "address", "gateway", "dns", IpForm.okLabel, cancelLabel], some 0⟩ }
    interface := port.name }

/-- The dialog for a port starts with the choice of its mode lit. -/
theorem content_ipConfig (port : Port) : (ipConfig port).content = .ipConfig (startForm port) := by
  -- The texts of the inputs stay as they are; all that is looked up are the names.
  by_cases static : port.dhcp = .known .static <;>
    simp [ipConfig, of, startForm, static, IpForm.of, IpForm.modeWidget, IpForm.modes,
      IpForm.syncMode, IpForm.isStatic, IpForm.text, IpForm.inputIds, IpForm.okLabel, cancelLabel,
      Content.mapForm, addWidget, widget?, modify, setFocused, accepts, moveFocus, seek, stepTo,
      focused?, FocusTracker.add, FocusTracker.setFocus, FocusTracker.focused?, List.idxOf?_cons,
      Widget.button, Widget.input, Widget.setEnabled, Widget.canFocus, Widget.light, Widget.value?,
      Choice.value]

/-- The dialog for a port starts in the mode of the port. -/
theorem isStatic_startForm (port : Port) :
    (startForm port).isStatic = decide (port.dhcp = .known .static) := by
  have chosen : (startForm port).text "mode" =
      if port.dhcp = .known .static then "Static" else "DHCP" := by
    change IpForm.modes.getD (if port.dhcp = .known .static then 1 else 0) "" = _
    split <;> rfl
  unfold IpForm.isStatic
  rw [chosen]
  split <;> simp_all

/-- The dialog for a port starts ready. -/
theorem startForm_isReady (port : Port) : (startForm port).IsReady where
  consistent :=
    { tracked := rfl
      distinct := by
        change ["mode", "address", "gateway", "dns", "Ok", "Cancel"].Nodup
        decide
      placed := by
        rintro index ⟨⟩
        exact Nat.zero_lt_succ _
      lit := by
        intro entry member
        simp only [startForm, List.mem_cons, List.not_mem_nil, or_false] at member
        rcases member with rfl | rfl | rfl | rfl | rfl | rfl <;>
          simp [startForm, focused?, FocusTracker.focused?, IpForm.okLabel, cancelLabel,
            Widget.light, Widget.button] }
  kind id := by
    rw [kind?_eq_lookup]
    rfl
  enabled := by
    intro id named
    rw [isStatic_startForm]
    simp only [IpForm.inputIds, List.mem_cons, List.not_mem_nil, or_false] at named
    rcases named with rfl | rfl | rfl <;> rfl
  focused := ⟨"mode", rfl, rfl⟩

/-- The dialog asks for the configuration of a port by a form that is ready. -/
structure Asks (port : Port) (form : IpForm) (dialog : Dialog) : Prop where
  content : dialog.content = .ipConfig form
  rule : dialog.onButton = submitConfig
  interface : form.interface = port.name
  ready : form.IsReady

variable {port : Port} {form : IpForm} {dialog : Dialog}

theorem ipConfig_asks (port : Port) : Asks port (startForm port) (ipConfig port) where
  content := content_ipConfig port
  rule := rfl
  interface := rfl
  ready := startForm_isReady port

namespace Asks

theorem withForm (asks : Asks port form dialog) {next : IpForm}
    (interface : next.interface = port.name) (ready : next.IsReady) :
    Asks port next { dialog with content := .ipConfig next } where
  content := rfl
  rule := asks.rule
  interface := interface
  ready := ready

/-- A key that presses the button that submits has the form submitted as it is after the key. -/
theorem handleKey_of_submits (asks : Asks port form dialog) {key : Key}
    (pressed : form.pressed? key = some IpForm.okLabel) :
    dialog.handleKey key =
      ({ dialog with content := .ipConfig ((form.handleKey key).1.submit IpForm.okLabel).1 },
        ((form.handleKey key).1.submit IpForm.okLabel).2) := by
  have answer := asks.ready.answer_handleKey key
  -- The dialog is taken apart so that its rule for buttons can be run.
  obtain ⟨title, width, height, buttons, content, rule⟩ := dialog
  obtain rfl : content = .ipConfig form := asks.content
  obtain rfl : rule = submitConfig := asks.rule
  have noEscape : key.code ≠ "esc" := by
    intro escape
    simp [IpForm.pressed?, presses, Key.isPlain, escape] at pressed
  rw [pressed] at answer
  unfold Dialog.handleKey
  rw [if_neg noEscape]
  simp only [Content.handleKey, answer, Option.map_some]
  exact if_neg (by decide)

/-- What a key can do to the dialog: unless it presses the button that submits, the form is ready
after it, and the answer is none or that the dialog is dismissed. -/
theorem handleKey_cases (asks : Asks port form dialog) (key : Key) :
    form.pressed? key ≠ some IpForm.okLabel ∧ (∃ next, Asks port next (dialog.handleKey key).1) ∧
        ((dialog.handleKey key).2 = none ∨
          (dialog.handleKey key).2 = some (.dismissDialog dialog.title)) ∨
    form.pressed? key = some IpForm.okLabel ∧
      ∃ next : IpForm, next.interface = port.name ∧ next.IsReady ∧
        dialog.handleKey key =
          ({ dialog with content := .ipConfig (next.submit IpForm.okLabel).1 },
            (next.submit IpForm.okLabel).2) := by
  have ready := asks.ready.handleKey key
  by_cases submits : form.pressed? key = some IpForm.okLabel
  · exact .inr ⟨submits, (form.handleKey key).1, asks.interface, ready,
      asks.handleKey_of_submits submits⟩
  · have answer := asks.ready.answer_handleKey key
    have taken : Asks port (form.handleKey key).1 _ := asks.withForm asks.interface ready
    obtain ⟨title, width, height, buttons, content, rule⟩ := dialog
    obtain rfl : content = .ipConfig form := asks.content
    refine .inl ⟨submits, ?_⟩
    unfold Dialog.handleKey
    split
    · exact ⟨⟨form, asks⟩, .inr rfl⟩
    · cases pressed : form.pressed? key with
      | none =>
        rw [pressed] at answer
        simp only [Content.handleKey, answer]
        exact ⟨⟨_, taken⟩, .inl rfl⟩
      | some label =>
        obtain rfl | rfl := IpForm.label_of_pressed? pressed
        · exact absurd pressed submits
        · rw [pressed] at answer
          simp only [Content.handleKey, answer, Option.map_some, if_true]
          exact ⟨⟨_, taken⟩, .inr trivial⟩

/-- A key leaves a dialog asking for the configuration. -/
theorem handleKey (asks : Asks port form dialog) (key : Key) :
    ∃ next, Asks port next (dialog.handleKey key).1 := by
  obtain ⟨-, asking, -⟩ | ⟨-, next, interface, ready, submitted⟩ := asks.handleKey_cases key
  · exact asking
  · rw [submitted]
    obtain ⟨error, left⟩ := next.submit_eq IpForm.okLabel
    rw [left]
    exact ⟨_, asks.withForm interface (ready.withError error)⟩

/-- Any keys leave a dialog asking for the configuration. -/
theorem afterKeys (asks : Asks port form dialog) (keys : List Key) :
    ∃ next, Asks port next (dialog.afterKeys keys) := by
  induction keys generalizing form dialog with
  | nil => exact ⟨form, asks⟩
  | cons key rest inductionHypothesis =>
    obtain ⟨next, asking⟩ := asks.handleKey key
    exact inductionHypothesis asking

end Asks

/-- Whatever keys the dialog for a port takes, its form keeps the focus. -/
theorem afterKeys_keepsFocus (port : Port) (keys : List Key) :
    ∃ form, ((ipConfig port).afterKeys keys).content = .ipConfig form ∧ form.KeepsFocus := by
  obtain ⟨form, asks⟩ := (ipConfig_asks port).afterKeys keys
  exact ⟨form, asks.content, asks.ready.keepsFocus⟩

end Dialog

end NodeConsole.Form
