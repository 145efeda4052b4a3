import NodeConsole.Form.Dialog
import NodeConsole.Screen.Page
import NodeConsole.Screen.StatusBar
import NodeConsole.Unrecognised

/-!
# The user interface

One stack of windows for each tab, and the status bar. A key goes to the top window of the selected
tab, and what the window asks for is done here or handed on; a tick reaches every window of that tab
and the status bar. The page at the bottom of a stack stays.
-/

namespace NodeConsole.Screen

open NodeConsole.Device NodeConsole.Form NodeConsole.Input NodeConsole.Layout NodeConsole.Paint
  NodeConsole.Panel NodeConsole.Time

/-- Windows among which there are pages and dialogs. -/
class Host (W : Type) extends Window W where
  /-- A page as a window. -/
  ofPage : Page → W
  /-- A dialog as a window. -/
  ofDialog : Dialog → W

/-- Why an event cannot be handled. -/
inductive Failure where
  | crashRequested
  | unrecognised (unrecognised : Unrecognised)
  | sizeOutOfRange
  deriving Repr

/-- The text of a failure that has one. -/
def Failure.message? : Failure → Option String
  | crashRequested => some "crash requested from the keyboard"
  | unrecognised found => some found.message
  | sizeOutOfRange => none

/-- The user interface. -/
structure Ui (W : Type) where
  debug : Bool
  tab : Tab
  layers : PerTab (LayerStack W)
  statusBar : StatusBar

/-- What handling an event gives: the interface after it, the action handed on, the actions sent,
and the window taken away. -/
structure Handled (W : Type) where
  ui : Ui W
  action : Option Action := none
  sent : List Action := []
  removed : Option W := none

namespace Ui

variable {W : Type}

/-- An interface without windows. -/
def bare (debug : Bool) (tab : Tab) : Ui W where
  debug := debug
  tab := tab
  layers := ⟨{}, {}, {}, {}, {}⟩
  statusBar := { debug := debug }

/-- The stack of the selected tab. -/
def active (ui : Ui W) : LayerStack W :=
  ui.layers.get ui.tab

/-- Replaces the stack of the selected tab. -/
def setActive (ui : Ui W) (stack : LayerStack W) : Ui W :=
  { ui with layers := ui.layers.set ui.tab stack }

/-- Puts a window on top of the selected tab. -/
def pushLayer (ui : Ui W) (window : W) : Ui W :=
  ui.setActive (ui.active.push window)

/-- Takes the top window of the selected tab away, unless it is the last one. -/
def popLayer (ui : Ui W) : Ui W × Option W :=
  if ui.active.size ≤ 1 then (ui, none)
  else
    let (stack, window) := ui.active.pop
    (ui.setActive stack, window)

/-- Shows a notice. -/
def notify (ui : Ui W) (text : String) : Ui W :=
  { ui with statusBar := ui.statusBar.notify text StatusBar.noticeTicks }

/-- The buttons that close the window they belong to. -/
def poppingButtons : List String := ["Ok", "Cancel"]

/-- Closes the top window and asks to draw again. -/
def closeTop (ui : Ui W) : Handled W :=
  let (ui, removed) := ui.popLayer
  { ui := ui, sent := [.redraw], removed := removed }

/-- Does what a window asks for, or hands it on. -/
def interpret (ui : Ui W) : Option Action → Handled W
  | none => { ui := ui }
  | some (.dismissDialog _) => ui.closeTop
  | some (.buttonClicked name) =>
    if poppingButtons.contains name then ui.closeTop else { ui := ui }
  | some action => { ui := ui, action := some action }

/-- Selects a tab; a change asks to draw again. -/
def selectTab (ui : Ui W) (tab : Tab) : Ui W × List Action :=
  if tab = ui.tab then (ui, []) else ({ ui with tab := tab }, [.redraw])

/-- The tab that a key leads to. -/
def tabAfter (tab : Tab) (key : Key) : Tab :=
  if key.isCtrl "left" then tab.previous else if key.isCtrl "right" then tab.next else tab

/-- The keys for debugging: none if the key is not one of them. -/
def debugKey? (ui : Ui W) (key : Key) : Option (Except Failure (Handled W)) :=
  if key.isCtrl "e" then some (.ok { ui := ui, sent := [.quit] })
  else if key.isCtrl "r" then some (.ok { ui := ui, sent := [.redraw] })
  else if key.isCtrl "p" then some (.ok ui.closeTop)
  else if key.isCtrl "a" then some (.error .crashRequested)
  else none

variable [Window W]

/-- Gives a key to the top window, does what it asks for, and then changes the tab. -/
def routeKey (ui : Ui W) (key : Key) : Handled W :=
  let (stack, action) := ui.active.handleKey key
  let handled := (ui.setActive stack).interpret action
  let (ui, sent) := handled.ui.selectTab (tabAfter handled.ui.tab key)
  { handled with ui := ui, sent := handled.sent ++ sent }

/-- Handles a key. -/
def handleKey (ui : Ui W) (key : Key) : Except Failure (Handled W) :=
  if ui.debug then (ui.debugKey? key).getD (.ok (ui.routeKey key)) else .ok (ui.routeKey key)

/-- Takes note of the time: the windows of the selected tab from the bottom up, then the status
bar. -/
def tick (ui : Ui W) (clock : Instant) : Handled W :=
  let (stack, actions) := ui.active.tick
  let (bar, action) := ui.statusBar.tick clock
  { ui := { ui.setActive stack with statusBar := bar }, sent := actions ++ action.toList }

/-- Handles an event; `clock` is the time it happens at. -/
def handleEvent (ui : Ui W) (clock : Instant) : Event → Except Failure (Handled W)
  | .key key => ui.handleKey key
  | .tick => .ok (ui.tick clock)
  | .foreign value => .error (.unrecognised (.event value))

/-- Paints the tab bar, the windows of the selected tab, and the status bar. -/
def render (ui : Ui W) (area : Rect) (model : Model) :
    Except SizeOutOfRange (Ui W × List Stroke) := do
  let screen := Layout.Screen.of area
  let bar := Stroke.paint screen.tabs (.panel (tabs (Tab.all.map Tab.title) ui.tab.index))
  let (stack, strokes) ← ui.active.render screen.body model
  pure (ui.setActive stack,
    bar :: strokes ++ [.paint screen.status (.panel ui.statusBar.panel)])

variable {H : Type} [Host H]

/-- An interface with a page at the bottom of each tab. -/
def withPages (debug : Bool) (tab : Tab) : Ui H :=
  let stack (page : Tab) : LayerStack H := ⟨[Host.ofPage (.of page)]⟩
  let layers := ⟨stack .summary, stack .home, stack .network, stack .applications, stack .kernelLog⟩
  { (bare debug tab : Ui H) with layers := layers }

/-- Opens the dialog that asks for the IP configuration of a port. -/
def showIpDialog (ui : Ui H) (port : Port) : Ui H :=
  ui.pushLayer (Host.ofDialog (.ipConfig port))

end Ui

/-- The windows of the program: pages and dialogs. -/
inductive Layer where
  | page (page : Page)
  | dialog (dialog : Dialog)

namespace Layer

/-- The name of a window. -/
def name : Layer → String
  | page found => found.name
  | dialog found => found.title

/-- Takes a key. -/
def handleKey (layer : Layer) (key : Key) : Layer × Option Action :=
  match layer with
  | page found =>
    let (found, action) := found.handleKey key
    (page found, action)
  | dialog found =>
    let (found, action) := found.handleKey key
    (dialog found, action)

/-- Paints a window. -/
def render (layer : Layer) (area : Rect) (model : Model) (focused : Bool) :
    Except SizeOutOfRange (Layer × List Stroke) :=
  match layer with
  | page found =>
    (found.render area model focused).map fun (found, strokes) => (page found, strokes)
  | dialog found => .ok (layer, found.render area model focused)

instance : Host Layer where
  name := name
  isVisible _ := true
  handleKey := handleKey
  tick layer := (layer, none)
  render := render
  ofPage := page
  ofDialog := dialog

end Layer

end NodeConsole.Screen
