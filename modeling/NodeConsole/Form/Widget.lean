import NodeConsole.Input.Key
import NodeConsole.Paint.Renderable
import NodeConsole.Screen.Action
import NodeConsole.Text.Parts
import NodeConsole.Text.Printable

/-!
# Widgets

The parts of a form: buttons, text inputs and choices. A widget that has the focus is lit.
-/

namespace NodeConsole.Form

open NodeConsole.Input NodeConsole.Layout NodeConsole.Paint NodeConsole.Screen NodeConsole.Text

/-- The style of what has the focus. -/
def focusedStyle : String := "bold black on yellow"

/-- A line of text that can be edited while it is enabled. -/
structure TextInput where
  label : String
  value : String
  maxLength : Int
  enabled : Bool := true
  deriving DecidableEq, Repr

/-- One of several options. -/
structure Choice where
  label : String
  options : List String
  selected : Nat
  deriving DecidableEq, Repr

/-- A choice without options. -/
structure NoOptions where
  deriving DecidableEq, Repr

/-- The text of the refusal. -/
def NoOptions.message (_ : NoOptions) : String :=
  "Choice needs at least one option"

/-- What a widget is. -/
inductive WidgetBody where
  | button (label : String)
  | input (input : TextInput)
  | choice (choice : Choice)
  deriving DecidableEq, Repr

/-- A widget, lit or not. -/
structure Widget where
  body : WidgetBody
  lit : Bool := false
  deriving DecidableEq, Repr

/-- The label of a field, right-aligned. -/
def fieldLabel (label : String) : String :=
  String.ofList (padLeft 10 label.toList) ++ ": "

namespace TextInput

/-- A single visible character, pressed without control or alt. -/
def isTyped (key : Key) : Bool :=
  match key.code.toList with
  | [c] => isPrintable c && key.isPlain key.code
  | _ => false

/-- Takes a key: the last character is taken away, or one is added while there is room. -/
def handleKey (input : TextInput) (key : Key) : TextInput :=
  if !input.enabled then input
  else if key.isPlain "backspace" then
    { input with value := String.ofList input.value.toList.dropLast }
  else if isTyped key && (input.value.length : Int) < input.maxLength then
    { input with value := input.value ++ key.code }
  else input

/-- The line of an input. -/
def line (input : TextInput) (lit : Bool) : StyledText :=
  let text := StyledText.of (fieldLabel input.label) (if input.enabled then "bold" else "dim")
  let style := if lit then "reverse" else if input.enabled then "default" else "dim"
  let text := text.append (if input.value = "" then " " else input.value) style
  if lit then text.append "_" "blink" else text

end TextInput

namespace Choice

/-- A choice with an option selected; a place outside the options means the nearest one. -/
def of (label : String) (options : List String) (selected : Int) : Except NoOptions Choice :=
  if options = [] then .error ⟨⟩
  else .ok ⟨label, options, (min (max 0 selected) ((options.length : Int) - 1)).toNat⟩

/-- The selected option. -/
def value (choice : Choice) : String :=
  choice.options.getD choice.selected ""

/-- Takes a key: the options are gone through in a circle. -/
def handleKey (choice : Choice) (key : Key) : Choice :=
  let count := choice.options.length
  if key.isPlain "left" then { choice with selected := (choice.selected + (count - 1)) % count }
  else if key.isPlain "right" || key.isPlain " " then
    { choice with selected := (choice.selected + 1) % count }
  else choice

/-- Adds the options to a text; `selected` counts from the first of them. -/
def appendOptions (lit : Bool) (text : StyledText) (selected : Int) : List String → StyledText
  | [] => text
  | option :: rest =>
    let marker := if selected = 0 then "(*) " else "( ) "
    let style := if lit && selected = 0 then focusedStyle else "default"
    appendOptions lit ((text.append (marker ++ option) style).append "  " "") (selected - 1) rest

/-- The line of a choice. -/
def line (choice : Choice) (lit : Bool) : StyledText :=
  appendOptions lit (.of (fieldLabel choice.label) "bold") choice.selected choice.options

end Choice

/-- The panel of a button. -/
def buttonPanel (label : String) (lit : Bool) : Panel where
  body := .text
    { StyledText.of label (if lit then focusedStyle else "bold") with
      justify := some "center"
      noWrap := true }
  border := if lit then "yellow" else "white"
  padded := false

namespace Widget

/-- A button. -/
def button (label : String) : Widget := ⟨.button label, false⟩

/-- How much text an input takes, unless it is said otherwise. -/
def defaultMaxLength : Int := 64

/-- A text input. -/
def input (label value : String) : Widget :=
  ⟨.input ⟨label, value, defaultMaxLength, true⟩, false⟩

/-- A widget takes the focus, unless it is an input that is not enabled. -/
def canFocus (widget : Widget) : Bool :=
  match widget.body with
  | .input input => input.enabled
  | _ => true

/-- Lights a widget. -/
def light (widget : Widget) : Widget :=
  { widget with lit := true }

/-- Puts a widget out. -/
def putOut (widget : Widget) : Widget :=
  { widget with lit := false }

/-- Enables or disables an input; other widgets are always enabled. -/
def setEnabled (widget : Widget) (enabled : Bool) : Widget :=
  match widget.body with
  | .input input => { widget with body := .input { input with enabled := enabled } }
  | _ => widget

/-- The value that a widget holds. -/
def value? (widget : Widget) : Option String :=
  match widget.body with
  | .button _ => none
  | .input input => some input.value
  | .choice choice => some choice.value

/-- Takes a key. -/
def handleKey (widget : Widget) (key : Key) : Widget × Option Action :=
  match widget.body with
  | .button label =>
    (widget, if key.isPlain "enter" || key.isPlain " " then some (.buttonClicked label) else none)
  | .input input => ({ widget with body := .input (input.handleKey key) }, none)
  | .choice choice => ({ widget with body := .choice (choice.handleKey key) }, none)

/-- What a widget paints. -/
def renderable (widget : Widget) : Renderable :=
  match widget.body with
  | .button label => .panel (buttonPanel label widget.lit)
  | .input input => .text (input.line widget.lit)
  | .choice choice => .text (choice.line widget.lit)

/-- Paints a widget. -/
def render (widget : Widget) (area : Rect) : List Stroke :=
  [.paint area widget.renderable]

end Widget

end NodeConsole.Form
