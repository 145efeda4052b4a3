import NodeConsole.Net.Network
import NodeConsole.Value

/-!
# Actions

What windows ask the program to do. Actions wait in a queue until the next event has been routed;
any number of requests to draw again count as one.
-/

namespace NodeConsole.Screen

open NodeConsole.Net

/-- An action. A value that is no action can be sent, and is refused when it is handled. -/
inductive Action where
  | quit
  | redraw
  | dismissDialog (source : String)
  | buttonClicked (name : String)
  | editInterface (name : String)
  | configRequested (interface : String) (config : PortConfig)
  | notify (text : String)
  | foreign (value : Value)
  deriving Repr

namespace Action

/-- A request to draw again. -/
def isRedraw : Action → Bool
  | redraw => true
  | _ => false

/-- Whether there is a request to draw again, and all other actions in order. -/
def coalesce (actions : List Action) : Bool × List Action :=
  (actions.any isRedraw, actions.filter fun action => !action.isRedraw)

end Action

end NodeConsole.Screen
