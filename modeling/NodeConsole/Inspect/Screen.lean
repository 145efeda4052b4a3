import NodeConsole.App
import NodeConsole.Inspect.Message
import NodeConsole.Inspect.Paint

/-!
# The screen as data

Actions, and the states of what is on the screen: widgets, forms, dialogs, pages, the status bar,
the program as a whole.
-/

namespace NodeConsole.Inspect

open NodeConsole.Form NodeConsole.Input NodeConsole.Screen

instance : Inspect Action where
  data
    | .quit => typed "Quit" []
    | .redraw => typed "Redraw" []
    | .dismissDialog source => typed "DismissDialog" [field "source" source]
    | .buttonClicked name => typed "ButtonClicked" [field "name" name]
    | .editInterface name => typed "EditInterface" [field "name" name]
    | .configRequested interface config =>
      typed "InterfaceConfigRequested" [field "interface" interface, field "config" config]
    | .notify text => typed "Notify" [field "text" text]
    | .foreign value => value

instance : Inspect Source where
  data source := .object
    [field "held" (String.ofList source.held), field "queued" source.queue.length,
     field "timer" source.timerArmed]

instance : Inspect FocusTracker where
  data tracker := data (tracker.focused?, tracker.ids.length)

/-- What is particular to a kind of widget. -/
def widgetFields (widget : Widget) : Fields :=
  match widget.body with
  | .button _ => [field "paint" widget.renderable]
  | .input input => [field "value" input.value, field "text" widget.renderable]
  | .choice choice =>
    [field "value" choice.value, field "selected" choice.selected,
     field "text" widget.renderable]

instance : Inspect Widget where
  data widget := .object
    ([field "focus" widget.lit, field "can_focus" widget.canFocus] ++ widgetFields widget)

/-- The fields of a form. -/
def formFields (form : Form) : Fields :=
  [field "focused" form.focused?, field "has_focus" form.hasFocus,
   field "can_focus" form.canFocus, field "lit" form.litIds,
   field "values" (Value.object (form.values.map fun entry => field entry.1 entry.2))]

instance : Inspect Form where
  data form := .object (formFields form)

instance : Inspect Dialog where
  data dialog := .object
    (formFields dialog.form ++
      [field "dialog" [data dialog.form.focused?, data true, data true]])

/-- What is entered into a form, and the message on the last submission. -/
def entered (form : IpForm) : Fields :=
  (["mode", "address", "gateway", "dns"].map fun id => field id (form.text id)) ++
    [field "error" form.error, field "focused" form.form.focused?]

instance : Inspect IpForm where
  data form := .object
    (entered form ++
      [field "enabled" (((form.form.widget? "address").map Widget.canFocus).getD false)])

instance : Inspect StatusBar where
  data bar := .object
    [field "notice" bar.notice, field "now" (bar.now.map fun now => now.localText)]

instance : Inspect Page where
  data
    | .network page => .object [field "selected" page.selected]
    | .kernelLog page => .object [field "scroll" page.scroll]
    | _ => .object []

/-- The names of the windows of a stack, from the bottom up. -/
def layerNames {W : Type} [Window W] (stack : LayerStack W) : List String :=
  stack.fromBottom.map Window.name

/-- The fields of an interface with a number of actions that wait. -/
def uiFields {W : Type} [Window W] (ui : Ui W) (waiting : Nat) : Fields :=
  [field "tab" ui.tab.title, field "layers" (layerNames ui.active), field "bus" waiting,
   field "notice" ui.statusBar.notice]

instance {H : Type} [Host H] : Inspect (App H) where
  data app := .object
    (uiFields app.ui app.bus.length ++
      [field "running" app.running, field "generation" app.model.generation])

instance : Inspect Profile where
  data profile := .object
    [field "name" profile.name, field "tick_ms" profile.tickMs, field "debug" profile.debug,
     field "log_level" profile.logLevel.name, field "log_dir" profile.logDirectory,
     field "start_tab" profile.startTab,
     field "topics" (Value.object (profile.topics.map fun entry => field entry.1 entry.2))]

end NodeConsole.Inspect
