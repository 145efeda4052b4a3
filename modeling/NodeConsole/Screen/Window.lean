import NodeConsole.Device.Model
import NodeConsole.Input.Key
import NodeConsole.Paint.Renderable
import NodeConsole.Panel.Labels
import NodeConsole.Screen.Action

/-!
# Windows and layers

What the screen asks of a window, and stacks of windows. Keys go to the top window, ticks to all of
them; they are painted from the bottom up.
-/

namespace NodeConsole.Screen

open NodeConsole.Device NodeConsole.Input NodeConsole.Layout NodeConsole.Paint NodeConsole.Panel

/-- What a window does. Painting may change what it remembers of the model. -/
class Window (W : Type) where
  /-- The name of the window. -/
  name : W → String
  /-- The window is painted. -/
  isVisible : W → Bool
  /-- Takes a key. -/
  handleKey : W → Key → W × Option Action
  /-- Takes note of the time that passes. -/
  tick : W → W × Option Action
  /-- Paints the window into an area; `true` if it is the top one. -/
  render : W → Rect → Model → Bool → Except SizeOutOfRange (W × List Stroke)

/-- Windows on top of each other, the top one first. -/
structure LayerStack (W : Type) where
  layers : List W := []

namespace LayerStack

variable {W : Type}

/-- How many windows there are. -/
def size (stack : LayerStack W) : Nat :=
  stack.layers.length

/-- Puts a window on top. -/
def push (stack : LayerStack W) (window : W) : LayerStack W :=
  ⟨window :: stack.layers⟩

/-- Takes the top window away. -/
def pop (stack : LayerStack W) : LayerStack W × Option W :=
  (⟨stack.layers.tail⟩, stack.layers.head?)

/-- The top window. -/
def top? (stack : LayerStack W) : Option W :=
  stack.layers.head?

/-- The windows from the bottom up. -/
def fromBottom (stack : LayerStack W) : List W :=
  stack.layers.reverse

variable [Window W]

/-- Gives a key to the top window. -/
def handleKey (stack : LayerStack W) (key : Key) : LayerStack W × Option Action :=
  match stack.layers with
  | [] => (stack, none)
  | top :: below =>
    let (top, action) := Window.handleKey top key
    (⟨top :: below⟩, action)

/-- Ticks windows from the bottom up. -/
def tickLayers : List W → List W × List Action
  | [] => ([], [])
  | layer :: below =>
    let (below, actions) := tickLayers below
    let (layer, action) := Window.tick layer
    (layer :: below, actions ++ action.toList)

/-- Ticks all windows. -/
def tick (stack : LayerStack W) : LayerStack W × List Action :=
  let (layers, actions) := tickLayers stack.layers
  (⟨layers⟩, actions)

/-- Paints windows from the bottom up. -/
def renderLayers (area : Rect) (model : Model) (onTop : Bool) :
    List W → Except SizeOutOfRange (List W × List Stroke)
  | [] => .ok ([], [])
  | layer :: below => do
    let (below, strokes) ← renderLayers area model false below
    if Window.isVisible layer then
      let (layer, more) ← Window.render layer area model onTop
      pure (layer :: below, strokes ++ more)
    else pure (layer :: below, strokes)

/-- Paints all windows that are visible. -/
def render (stack : LayerStack W) (area : Rect) (model : Model) :
    Except SizeOutOfRange (LayerStack W × List Stroke) :=
  (renderLayers area model true stack.layers).map fun (layers, strokes) => (⟨layers⟩, strokes)

end LayerStack

end NodeConsole.Screen
