/-!
# Focus

Which of a number of named views has the focus. The views keep the order in which they were added;
moving on from the last one leads to the first.
-/

namespace NodeConsole.Form

/-- The views, and the place of the one that has the focus. -/
structure FocusTracker where
  ids : List String := []
  index : Option Nat := none
  deriving DecidableEq, Repr

namespace FocusTracker

/-- The view that has the focus. -/
def focused? (tracker : FocusTracker) : Option String :=
  tracker.index.bind fun index => tracker.ids[index]?

/-- Adds a view at the end, unless it is there already. -/
def add (tracker : FocusTracker) (id : String) : FocusTracker :=
  if tracker.ids.contains id then tracker else { tracker with ids := tracker.ids ++ [id] }

/-- Views added one after another. -/
def ofIds (ids : List String) : FocusTracker :=
  ids.foldl add {}

/-- Removes a view. If it had the focus, no view has it. -/
def remove (tracker : FocusTracker) (id : String) : FocusTracker :=
  if tracker.ids.contains id then
    let left := tracker.ids.erase id
    let index := match tracker.focused? with
      | some focused => if focused = id then none else left.idxOf? focused
      | none => none
    ⟨left, index⟩
  else tracker

/-- Gives the focus to a view, if it is there. -/
def setFocus (tracker : FocusTracker) (id : String) : FocusTracker × Bool :=
  match tracker.ids.idxOf? id with
  | some index => ({ tracker with index := some index }, true)
  | none => (tracker, false)

/-- Takes the focus away. -/
def clear (tracker : FocusTracker) : FocusTracker :=
  { tracker with index := none }

/-- Moves the focus to a place. -/
def moveTo (tracker : FocusTracker) (index : Nat) : FocusTracker × Option String :=
  ({ tracker with index := some index }, tracker.ids[index]?)

/-- Moves the focus to the next view; without focus, to the first. -/
def next (tracker : FocusTracker) : FocusTracker × Option String :=
  if tracker.ids = [] then (tracker, none)
  else
    tracker.moveTo <| match tracker.index with
      | none => 0
      | some index => (index + 1) % tracker.ids.length

/-- Moves the focus to the view before; without focus, to the last. -/
def prev (tracker : FocusTracker) : FocusTracker × Option String :=
  if tracker.ids = [] then (tracker, none)
  else
    tracker.moveTo <| match tracker.index with
      | none => tracker.ids.length - 1
      | some index => (index + (tracker.ids.length - 1)) % tracker.ids.length

end FocusTracker

end NodeConsole.Form
