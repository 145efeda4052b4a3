import NodeConsole.Collector.Load
import NodeConsole.KernelLog.Record

/-!
# The log

What the program reports about its own work. Entries below the chosen level are not written.
-/

namespace NodeConsole.Log

open NodeConsole.Text NodeConsole.Files NodeConsole.Collector

/-- How important an entry is. -/
inductive Level where
  | debug | info | warning | error
  deriving DecidableEq, Repr

/-- The levels by rising importance. -/
def Level.rank : Level → Nat
  | debug => 0
  | info => 1
  | warning => 2
  | error => 3

/-- The name of a level. -/
def Level.name : Level → String
  | debug => "DEBUG"
  | info => "INFO"
  | warning => "WARNING"
  | error => "ERROR"

/-- All levels. -/
def Level.all : List Level := [.debug, .info, .warning, .error]

/-- An entry. -/
inductive Entry where
  | started (version profile runDirectory : String)
  | applied (update : String) (generation : Nat)
  | remarked (remark : Wire.Remark)
  | dropped (topic : String) (path : Path) (fault : LoadFault)
  | filesRemoved (topic : String) (count : Nat)
  | recordRefused (fault : KernelLog.RecordFault)
  | kernelLogUnavailable (path : Path) (fault : Files.Fault)
  deriving Repr

namespace Entry

/-- The level of an entry. -/
def level : Entry → Level
  | started .. => .info
  | applied .. => .debug
  | remarked _ => .warning
  | dropped .. => .warning
  | filesRemoved .. => .debug
  | recordRefused _ => .debug
  | kernelLogUnavailable .. => .warning

/-- The part of the program that reports an entry. -/
def source : Entry → String
  | started .. => "eve_tui.app"
  | applied .. => "eve_tui.state"
  | remarked _ => "eve_tui.messages"
  | dropped .. => "eve_tui.collectors.topics"
  | filesRemoved .. => "eve_tui.collectors.topics"
  | recordRefused _ => "eve_tui.collectors.dmesg"
  | kernelLogUnavailable .. => "eve_tui.collectors.dmesg"

/-- The text of an entry. -/
def message : Entry → String
  | started version profile runDirectory =>
    "starting eve-tui " ++ version ++ ", profile " ++ profile ++ ", run dir " ++ runDirectory
  | applied update generation =>
    "applied " ++ update ++ " (generation " ++ decimalNat generation ++ ")"
  | remarked remark => remark.message
  | dropped topic path fault => topic ++ ": dropping " ++ path.text ++ ": " ++ fault.text
  | filesRemoved topic count => topic ++ ": " ++ decimalNat count ++ " file(s) removed"
  | recordRefused fault => "dmesg: " ++ fault.message
  | kernelLogUnavailable path fault =>
    "dmesg: cannot open " ++ path.text ++ ": " ++ fault.message path

/-- The line of an entry, without its time. -/
def line (entry : Entry) : String :=
  joinWith " | " [entry.level.name, entry.source, entry.message]

end Entry

/-- The entries that a log of a level shows. -/
def shown (level : Level) (entries : List Entry) : List Entry :=
  entries.filter fun entry => level.rank ≤ entry.level.rank

end NodeConsole.Log
