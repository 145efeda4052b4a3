import NodeConsole.Panel.Header
import NodeConsole.Screen.Action

/-!
# Status bar

The clock and a notice at the bottom of the screen. A notice is shown for a number of ticks.
-/

namespace NodeConsole.Screen

open NodeConsole.Paint NodeConsole.Time

/-- The status bar. -/
structure StatusBar where
  debug : Bool
  now : Option Instant := none
  notice : String := ""
  ticksLeft : Int := 0
  deriving DecidableEq, Repr

namespace StatusBar

/-- How many ticks a notice is shown, unless it is said otherwise. -/
def noticeTicks : Int := 20

/-- Shows a notice for a number of ticks, in place of the one before. -/
def notify (bar : StatusBar) (text : String) (ticks : Int) : StatusBar :=
  { bar with notice := text, ticksLeft := ticks }

/-- The bar after its notice has lost one tick, and whether the notice ended. -/
def countDown (bar : StatusBar) : StatusBar × Bool :=
  if 0 < bar.ticksLeft then
    if bar.ticksLeft = 1 then ({ bar with ticksLeft := 0, notice := "" }, true)
    else ({ bar with ticksLeft := bar.ticksLeft - 1 }, false)
  else (bar, false)

/-- Takes note of the time, in whole seconds. If the bar changes it asks to be drawn again. -/
def tick (bar : StatusBar) (clock : Instant) : StatusBar × Option Action :=
  let (bar, ended) := bar.countDown
  let now := clock.wholeSecond
  if bar.now = some now then (bar, if ended then some .redraw else none)
  else ({ bar with now := some now }, some .redraw)

/-- The panel of the bar. -/
def panel (bar : StatusBar) : Panel :=
  NodeConsole.Panel.statusBar bar.now bar.notice bar.debug

end StatusBar

end NodeConsole.Screen
