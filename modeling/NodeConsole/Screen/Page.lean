import NodeConsole.Layout.Splits
import NodeConsole.Panel.Apps
import NodeConsole.Panel.Downloader
import NodeConsole.Panel.KernelLog
import NodeConsole.Panel.Network
import NodeConsole.Panel.Node
import NodeConsole.Screen.Tab
import NodeConsole.Screen.Window

/-!
# Pages

The window at the bottom of each tab. A page remembers of the model only what its keys need: the
names of the ports it showed, or the number of kernel records.
-/

namespace NodeConsole.Screen

open NodeConsole.Device NodeConsole.Input NodeConsole.Layout NodeConsole.Paint NodeConsole.Panel

/-- Strokes that paint panels into rectangles. -/
def paintPanels (panels : List Panel) (areas : List Rect) : List Stroke :=
  (panels.zip areas).map fun (panel, area) => .paint area (.panel panel)

/-- The list of the ports: the selected row, and the names last painted. -/
structure NetworkPage where
  selected : Nat := 0
  names : List String := []
  deriving DecidableEq, Repr

namespace NetworkPage

/-- The name of the selected port. -/
def selectedName? (page : NetworkPage) : Option String :=
  page.names[min page.selected (page.names.length - 1)]?

/-- The page after the ports of a model have been painted. -/
def seeing (page : NetworkPage) (model : Model) : NetworkPage :=
  let names := model.network.map (·.name)
  ⟨if names = [] then page.selected else min page.selected (names.length - 1), names⟩

/-- The port in detail: the first one of the selected name, if the name is not empty. -/
def detailed? (page : NetworkPage) (model : Model) : Option Port :=
  match page.selectedName? with
  | some name => if name = "" then none else model.port? name
  | none => none

/-- Paints the page. -/
def render (page : NetworkPage) (area : Rect) (model : Model) (focused : Bool) :
    NetworkPage × List Stroke :=
  let page := page.seeing model
  let listHeight := min area.height ((page.names.length : Int) + 4)
  let rows := stackRows area [listHeight, max 0 (area.height - listHeight)]
  let selected := if focused then some (page.selected : Int) else none
  (page, paintPanels
    [interfaces model.network selected, interfaceDetail (page.detailed? model)] rows)

/-- Takes a key: the arrows move the selection, Enter asks to edit the selected port. -/
def handleKey (page : NetworkPage) (key : Key) : NetworkPage × Option Action :=
  if key.isPlain "up" then ({ page with selected := page.selected - 1 }, none)
  else if key.isPlain "down" then
    ({ page with selected := min (page.names.length - 1) (page.selected + 1) }, none)
  else if key.isPlain "enter" then (page, page.selectedName?.map .editInterface)
  else (page, none)

end NetworkPage

/-- The kernel log: how far it is scrolled back, and how many records there were. -/
structure KernelLogPage where
  scroll : Nat := 0
  available : Nat := 0
  deriving DecidableEq, Repr

namespace KernelLogPage

/-- How far the keys for a page scroll. -/
def pageLength : Nat := 10

/-- The page after the records of a model have been painted. -/
def seeing (page : KernelLogPage) (model : Model) : KernelLogPage :=
  let available := model.kernelLog.length
  ⟨min page.scroll (available - 1), available⟩

/-- Paints the page. -/
def render (page : KernelLogPage) (area : Rect) (model : Model) : KernelLogPage × List Stroke :=
  let page := page.seeing model
  (page, [.paint area (.panel (kernelLog model.kernelLog area.height page.scroll))])

/-- Takes a key: arrows and page keys scroll, Home goes to the oldest record, End to the newest. -/
def handleKey (page : KernelLogPage) (key : Key) : KernelLogPage :=
  if key.isPlain "up" then { page with scroll := page.scroll + 1 }
  else if key.isPlain "down" then { page with scroll := page.scroll - 1 }
  else if key.isPlain "pageup" then { page with scroll := page.scroll + pageLength }
  else if key.isPlain "pagedown" then { page with scroll := page.scroll - pageLength }
  else if key.isPlain "end" then { page with scroll := 0 }
  else if key.isPlain "home" then { page with scroll := page.available - 1 }
  else page

end KernelLogPage

/-- A page. -/
inductive Page where
  | summary
  | home
  | network (page : NetworkPage)
  | applications
  | kernelLog (page : KernelLogPage)
  deriving DecidableEq, Repr

namespace Page

/-- The page of a tab, as it is at the start. -/
def of : Tab → Page
  | .summary => .summary
  | .home => .home
  | .network => .network {}
  | .applications => .applications
  | .kernelLog => .kernelLog {}

/-- The tab of a page. -/
def tab : Page → Tab
  | summary => .summary
  | home => .home
  | network _ => .network
  | applications => .applications
  | kernelLog _ => .kernelLog

/-- The name of a page is that of its tab. -/
def name (page : Page) : String :=
  page.tab.name

/-- The panels of the summary, in one column if there is little room, in two otherwise. -/
def renderSummary (area : Rect) (model : Model) : Except SizeOutOfRange (List Stroke) := do
  let downloads ← downloader model.downloader
  let panels := [node model.node, vault model.vault, appSummary model.node.summary, downloads]
  if Mode.of area.width = .narrow then pure [.paint area (.group panels)]
  else
    let rows := stackRows area [area.height / 2, area.height - area.height / 2]
    pure (paintPanels panels (rows.flatMap fun row => splitColumns row 2))

/-- The banner, the ports for management, and the applications. -/
def renderHome (area : Rect) (model : Model) : List Stroke :=
  match stackRows area [1, max 0 (area.height - 1)] with
  | [banner, body] =>
    match splitColumns body 2 with
    | [left, right] =>
      [.paint banner (.text (onboardingBanner model.node)),
       .paint left (.panel (management model.network)),
       .paint right (.panel (apps model.apps (some (max 0 (right.height - 3)))))]
    | _ => []
  | _ => []

/-- Paints a page. -/
def render (page : Page) (area : Rect) (model : Model) (focused : Bool) :
    Except SizeOutOfRange (Page × List Stroke) :=
  match page with
  | summary => (renderSummary area model).map fun strokes => (summary, strokes)
  | home => .ok (home, renderHome area model)
  | network page =>
    let (page, strokes) := page.render area model focused
    .ok (network page, strokes)
  | applications => .ok (applications, [.paint area (.panel (apps model.apps none))])
  | kernelLog page =>
    let (page, strokes) := page.render area model
    .ok (kernelLog page, strokes)

/-- Takes a key. -/
def handleKey (page : Page) (key : Key) : Page × Option Action :=
  match page with
  | network page =>
    let (page, action) := page.handleKey key
    (network page, action)
  | kernelLog page => (kernelLog (page.handleKey key), none)
  | page => (page, none)

instance : Window Page where
  name := name
  isVisible _ := true
  handleKey := handleKey
  tick page := (page, none)
  render := render

end Page

end NodeConsole.Screen
