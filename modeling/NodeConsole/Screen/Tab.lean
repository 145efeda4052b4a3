import NodeConsole.Text.LetterCase
import NodeConsole.Text.Parts
import NodeConsole.Text.Quoted

/-!
# Tabs

The tabs of the screen, in a row with two ends.
-/

namespace NodeConsole.Screen

open NodeConsole.Text

/-- A tab. -/
inductive Tab where
  | summary | home | network | applications | kernelLog
  deriving DecidableEq, Repr

namespace Tab

/-- All tabs from left to right. -/
def all : List Tab := [.summary, .home, .network, .applications, .kernelLog]

/-- The name of a tab. -/
def name : Tab → String
  | summary => "summary"
  | home => "home"
  | network => "network"
  | applications => "applications"
  | kernelLog => "dmesg"

/-- The title of a tab. -/
def title : Tab → String
  | summary => "Summary"
  | home => "Home"
  | network => "Network"
  | applications => "Applications"
  | kernelLog => "Dmesg"

/-- The place of a tab. -/
def index : Tab → Nat
  | summary => 0
  | home => 1
  | network => 2
  | applications => 3
  | kernelLog => 4

/-- The tab to the left; the first one has none and stays. -/
def previous : Tab → Tab
  | summary => summary
  | home => summary
  | network => home
  | applications => network
  | kernelLog => applications

/-- The tab to the right; the last one has none and stays. -/
def next : Tab → Tab
  | summary => home
  | home => network
  | network => applications
  | applications => kernelLog
  | kernelLog => kernelLog

/-- The tab of a name, in small or capital letters. -/
def ofName? (name : String) : Option Tab :=
  all.find? fun tab => asciiCapitals tab.name = asciiCapitals name

end Tab

/-- A name that is no tab. -/
structure UnknownTab where
  name : String
  deriving DecidableEq, Repr

/-- The text of the refusal. -/
def UnknownTab.message (unknown : UnknownTab) : String :=
  "unknown tab " ++ String.ofList (quoted unknown.name.toList) ++ "; expected one of: " ++
    joinWith ", " (Tab.all.map Tab.name)

/-- One thing for each tab. -/
structure PerTab (α : Type) where
  summary : α
  home : α
  network : α
  applications : α
  kernelLog : α

namespace PerTab

variable {α : Type}

/-- The thing of a tab. -/
def get (things : PerTab α) : Tab → α
  | .summary => things.summary
  | .home => things.home
  | .network => things.network
  | .applications => things.applications
  | .kernelLog => things.kernelLog

/-- Replaces the thing of a tab. -/
def set (things : PerTab α) (tab : Tab) (thing : α) : PerTab α :=
  match tab with
  | .summary => { things with summary := thing }
  | .home => { things with home := thing }
  | .network => { things with network := thing }
  | .applications => { things with applications := thing }
  | .kernelLog => { things with kernelLog := thing }

/-- The thing of a tab after a replacement. -/
theorem get_set (things : PerTab α) (changed asked : Tab) (thing : α) :
    (things.set changed thing).get asked = if asked = changed then thing else things.get asked := by
  cases changed <;> cases asked <;> rfl

end PerTab

end NodeConsole.Screen
