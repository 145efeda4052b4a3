import NodeConsole.Form.Focus
import NodeConsole.Form.Widget

/-!
# Forms

A form is a window of named widgets. Tab and backward Tab move the focus over the widgets that take
it; every other key goes to the widget that has it.
-/

namespace NodeConsole

open NodeConsole.Input NodeConsole.Screen

/-- A form. -/
structure Form where
  name : String
  widgets : List (String × Form.Widget) := []
  focus : Form.FocusTracker := {}
  deriving DecidableEq, Repr

namespace Form

/-- The widget of a name. -/
def widget? (form : Form) (id : String) : Option Widget :=
  (form.widgets.find? (·.1 = id)).map (·.2)

/-- Changes the widget of a name. -/
def modify (form : Form) (id : String) (change : Widget → Widget) : Form :=
  { form with
    widgets := form.widgets.map fun entry =>
      if entry.1 = id then (id, change entry.2) else entry }

/-- Adds a widget, in place of one of the same name if there is one. -/
def addWidget (form : Form) (id : String) (widget : Widget) : Form :=
  let widgets :=
    if form.widgets.any (·.1 = id) then
      form.widgets.map fun entry => if entry.1 = id then (id, widget) else entry
    else form.widgets ++ [(id, widget)]
  { form with widgets := widgets, focus := form.focus.add id }

/-- The name of the widget that has the focus. -/
def focused? (form : Form) : Option String :=
  form.focus.focused?

/-- The widget that has the focus. -/
def focusedWidget? (form : Form) : Option Widget :=
  form.focused?.bind form.widget?

/-- The widget of a name is there and takes the focus. -/
def accepts (form : Form) (id : String) : Bool :=
  ((form.widget? id).map Widget.canFocus).getD false

/-- Steps through the views until one is accepted, a number of times at most. -/
def seek (accepts : String → Bool) (step : FocusTracker → FocusTracker × Option String) :
    Nat → FocusTracker → FocusTracker × Option String
  | 0, tracker => (tracker, none)
  | count + 1, tracker =>
    match step tracker with
    | (tracker, none) => (tracker, none)
    | (tracker, some id) =>
      if accepts id then (tracker, some id) else seek accepts step count tracker

/-- Moves the focus by steps, at most once around. If no widget takes it, it stays where it was. -/
def moveFocus (form : Form) (step : FocusTracker → FocusTracker × Option String) :
    Form × Option String :=
  match seek form.accepts step (max 1 form.focus.ids.length) form.focus with
  | (tracker, none) =>
    let tracker := match form.focused? with
      | some before => (tracker.setFocus before).1
      | none => tracker.clear
    ({ form with focus := tracker }, none)
  | (tracker, some target) =>
    let unlit := match form.focused? with
      | some before => form.modify before Widget.putOut
      | none => form
    ({ unlit.modify target Widget.light with focus := tracker }, some target)

/-- Moves the focus to the next widget that takes it. -/
def focusNext (form : Form) : Form × Option String :=
  form.moveFocus FocusTracker.next

/-- Moves the focus to the widget before that takes it. -/
def focusPrev (form : Form) : Form × Option String :=
  form.moveFocus FocusTracker.prev

/-- A step that leads to one view. -/
def stepTo (id : String) (tracker : FocusTracker) : FocusTracker × Option String :=
  match tracker.setFocus id with
  | (tracker, true) => (tracker, some id)
  | (tracker, false) => (tracker, none)

/-- Gives the focus to a widget, if it takes it. -/
def setFocused (form : Form) (id : String) : Form × Bool :=
  if form.accepts id then ((form.moveFocus (stepTo id)).1, true) else (form, false)

/-- Some widget has the focus. -/
def hasFocus (form : Form) : Bool :=
  form.focusedWidget?.isSome

/-- Some widget takes the focus. -/
def canFocus (form : Form) : Bool :=
  form.widgets.any fun entry => entry.2.canFocus

/-- Makes sure that some widget has the focus, if one takes it. -/
def setFocus (form : Form) : Form :=
  if form.hasFocus then form else form.focusNext.1

/-- Takes the focus away. -/
def clearFocus (form : Form) : Form :=
  let unlit := match form.focused? with
    | some before => form.modify before Widget.putOut
    | none => form
  { unlit with focus := form.focus.clear }

/-- Takes a key. -/
def handleKey (form : Form) (key : Key) : Form × Option Action :=
  if key.code = "tab" ∧ key.modifiers = {} then (form.focusNext.1, none)
  else if key.code = "backtab" then (form.focusPrev.1, none)
  else
    match form.focused? with
    | none => (form, none)
    | some id =>
      match form.widget? id with
      | none => (form, none)
      | some widget =>
        let (widget, action) := widget.handleKey key
        (form.modify id fun _ => widget, action)

/-- The names of the lit widgets, in order. -/
def litIds (form : Form) : List String :=
  (form.widgets.filter fun entry => entry.2.lit).map (·.1)

/-- The values of the widgets that hold one, in order. -/
def values (form : Form) : List (String × String) :=
  form.widgets.filterMap fun entry => entry.2.value?.map fun value => (entry.1, value)

end Form

end NodeConsole
