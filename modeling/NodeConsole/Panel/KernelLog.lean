import NodeConsole.Device.State
import NodeConsole.Panel.Basic
import NodeConsole.Panel.Labels

/-!
# Kernel log

The panel of the kernel log: as many records as fit, ending some records above the newest.
-/

namespace NodeConsole.Panel

open NodeConsole.Paint NodeConsole.Device NodeConsole.Text

/-- The `height` records that end `scroll` records above the newest. -/
def visibleRecords (records : List KernelRecord) (height scroll : Int) : List KernelRecord :=
  if height ≤ 0 then []
  else
    let stop := records.length - scroll.toNat
    let start := stop - height.toNat
    (records.take stop).drop start

/-- Adds a record to a text. -/
def appendRecord (text : StyledText) (record : KernelRecord) : StyledText :=
  ((text.append (recordTime record.micros) "cyan").append " " "").append record.message
    (levelStyle record.level)

/-- Adds records to a text, each on a line of its own. -/
def appendRecords (text : StyledText) : List KernelRecord → StyledText
  | [] => text
  | record :: rest => appendRecords (appendRecord (text.append "\n" "") record) rest

/-- The lines of records. -/
def recordLines : List KernelRecord → StyledText
  | [] => blank.append "No kernel messages" "dim"
  | record :: rest => appendRecords (appendRecord blank record) rest
where
  /-- A text whose lines are cut off, not wrapped. -/
  blank : StyledText := { text := "", overflow := some "ellipsis", noWrap := true }

/-- The panel of the kernel log; its border takes two rows. -/
def kernelLog (records : List KernelRecord) (height scroll : Int) : Panel :=
  let shown := visibleRecords records (max 0 (height - 2)) scroll
  titled (if scroll = 0 then "Kernel log" else "Kernel log (-" ++ decimal scroll ++ ")") .ok
    (.text (recordLines shown))

end NodeConsole.Panel
