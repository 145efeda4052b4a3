import NodeConsole.Form.IpForm

/-!
# Dialogs

A dialog of a fixed size shows a form and a column of buttons, which belong to the form as widgets.
Escape and the button Cancel dismiss the dialog; every other button is answered by the dialog's own
rule.
-/

namespace NodeConsole.Form

open NodeConsole.Device NodeConsole.Input NodeConsole.Layout NodeConsole.Paint NodeConsole.Screen

/-- The form in a dialog: any form, or the one that asks for an IP configuration. -/
inductive Content where
  | plain (form : Form)
  | ipConfig (form : IpForm)
  deriving DecidableEq, Repr

namespace Content

/-- The form. -/
def form : Content → Form
  | plain form => form
  | ipConfig form => form.form

/-- Changes the form. -/
def mapForm (content : Content) (change : Form → Form) : Content :=
  match content with
  | plain form => plain (change form)
  | ipConfig form => ipConfig { form with form := change form.form }

/-- Takes a key. -/
def handleKey (content : Content) (key : Key) : Content × Option Action :=
  match content with
  | plain form =>
    let (form, action) := form.handleKey key
    (plain form, action)
  | ipConfig form =>
    let (form, action) := form.handleKey key
    (ipConfig form, action)

/-- Paints the form; a form of no special kind paints nothing itself. -/
def render (content : Content) (area : Rect) (model : Model) : List Stroke :=
  match content with
  | plain _ => []
  | ipConfig form => form.render area model

end Content

/-- How a dialog answers a button: what becomes of its form, and an action. -/
abbrev ButtonRule := String → Content → Content × Option Action

/-- A dialog. -/
structure Dialog where
  title : String
  width : Int
  height : Int
  buttons : List String
  content : Content
  onButton : ButtonRule

namespace Dialog

/-- The height of a button. -/
def buttonHeight : Int := 3

/-- The button that dismisses a dialog. -/
def cancelLabel : String := "Cancel"

/-- Buttons without any effect. -/
def ignoreButton : ButtonRule := fun _ content => (content, none)

/-- A dialog whose buttons are added to its form; one of them may be given the focus. -/
def of (title : String) (width height : Int) (buttons : List String) (content : Content)
    (focusedButton : Option String) (onButton : ButtonRule) : Dialog :=
  let content := content.mapForm fun form =>
    let form := buttons.foldl (fun form label => form.addWidget label (.button label)) form
    match focusedButton with
    | some label => (form.setFocused label).1
    | none => form
  ⟨title, width, height, buttons, content, onButton⟩

/-- The form of a dialog. -/
def form (dialog : Dialog) : Form :=
  dialog.content.form

/-- Changes the form of a dialog. -/
def mapForm (dialog : Dialog) (change : Form → Form) : Dialog :=
  { dialog with content := dialog.content.mapForm change }

/-- Rectangles by name. -/
abbrev Areas := List (String × Rect)

/-- Sets the rectangle of a name. -/
def Areas.set (areas : Areas) (name : String) (area : Rect) : Areas :=
  if areas.any (·.1 = name) then
    areas.map fun entry => if entry.1 = name then (name, area) else entry
  else areas ++ [(name, area)]

/-- The rectangle of a name. -/
def Areas.find? (areas : Areas) (name : String) : Option Rect :=
  (List.find? (·.1 = name) areas).map (·.2)

/-- The width of the button column: the longest label and a cell on each side. -/
def buttonWidth (buttons : List String) : Int :=
  buttons.foldl (fun width label => max width ((label.length : Int) + 2)) 0

/-- The rectangles of the frame, the form and the buttons in an area. None if the area cannot hold
the border and the button column. -/
def layout (dialog : Dialog) (area : Rect) : Option Areas :=
  let frame := centered dialog.width dialog.height area
  let inside := frame.inner 1
  let width := buttonWidth dialog.buttons
  if inside.isEmpty || inside.width ≤ width then none
  else
    let (content, column) := splitRight inside width
    let rows := stackRows column (dialog.buttons.map fun _ => buttonHeight)
    some ((dialog.buttons.zip rows).foldl (fun areas entry => Areas.set areas entry.1 entry.2)
      [("frame", frame), ("content", content)])

/-- The frame of a dialog. -/
def framePanel (dialog : Dialog) (focused : Bool) : Panel where
  body := .text (.of "" "")
  border := if focused then "white" else "dim"
  title := some (NodeConsole.Panel.titleMarkup dialog.title)
  box := .heavy
  style := "on black"

/-- Paints a button, unless its rectangle is empty. -/
def renderButton (dialog : Dialog) (areas : Areas) (label : String) : List Stroke :=
  match Areas.find? areas label, dialog.form.widget? label with
  | some area, some widget => if area.isEmpty then [] else widget.render area
  | _, _ => []

/-- Paints a dialog; nothing if the area cannot hold it. -/
def render (dialog : Dialog) (area : Rect) (model : Model) (focused : Bool) : List Stroke :=
  match dialog.layout area with
  | none => []
  | some areas =>
    let frame := (Areas.find? areas "frame").getD area
    let content := (Areas.find? areas "content").getD area
    .clear frame :: .paint frame (.panel (dialog.framePanel focused)) ::
      dialog.buttons.flatMap (dialog.renderButton areas) ++ dialog.content.render content model

/-- Takes a key. -/
def handleKey (dialog : Dialog) (key : Key) : Dialog × Option Action :=
  if key.code = "esc" then (dialog, some (.dismissDialog dialog.title))
  else
    let (content, action) := dialog.content.handleKey key
    match action with
    | some (.buttonClicked name) =>
      if name = cancelLabel then
        ({ dialog with content := content }, some (.dismissDialog dialog.title))
      else
        let (content, action) := dialog.onButton name content
        ({ dialog with content := content }, action)
    | action => ({ dialog with content := content }, action)

/-- The answer to a button of the dialog for an IP configuration. -/
def submitConfig : ButtonRule := fun button content =>
  match content with
  | .ipConfig form =>
    let (form, action) := form.submit button
    (.ipConfig form, action)
  | .plain _ => (content, none)

/-- The dialog that asks for the IP configuration of a port. -/
def ipConfig (port : Port) : Dialog :=
  .of ("Edit " ++ port.name) 64 13 [IpForm.okLabel, cancelLabel] (.ipConfig (.of port)) none
    submitConfig

end Dialog

end NodeConsole.Form
