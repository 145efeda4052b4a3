import NodeConsole.Device.State
import NodeConsole.Panel.Basic
import NodeConsole.Panel.Labels
import NodeConsole.Text.LetterCase

/-!
# Applications

Panels for the applications, in order of their names.
-/

namespace NodeConsole.Panel

open NodeConsole.Paint NodeConsole.Device NodeConsole.Text

/-- The state of an application. -/
def stateText : AppState → StyledText
  | .normal code => .of code.label "green"
  | .error code reason => .of (code.label ++ ": " ++ reason) "red"

/-- Applications in order of their names in small letters; of one name, in order of identifiers. -/
def appLe (left right : App) : Bool :=
  let leftName := lower left.name
  let rightName := lower right.name
  leftName < rightName || (leftName = rightName && !decide (right.uuid.text < left.uuid.text))

/-- All applications in order. -/
def sortedApps (apps : AppMap) : List App :=
  apps.values.mergeSort appLe

/-- The start of a list up to a limit; a negative limit leaves out that many at the end. -/
def upTo {α : Type} (limit : Option Int) (items : List α) : List α :=
  match limit with
  | none => items
  | some (.ofNat count) => items.take count
  | some (.negSucc count) => items.take (items.length - (count + 1))

/-- The row of an application. -/
def appRow (app : App) : Row where
  cells := [.plain (orDash app.name), .plain (orDash app.version), .plain app.uuid.text,
    .styled (stateText app.state)]

/-- The row that stands for no applications. -/
def noAppsRow : Row where
  cells := [.plain "-", .plain "-", .plain "-", .styled (.of "No applications" "dim")]

/-- The panel of the applications. Count and tone are those of all, whatever the limit. -/
def apps (found : AppMap) (limit : Option Int) : Panel :=
  let ordered := sortedApps found
  let rows := if ordered.isEmpty then [noAppsRow] else (upTo limit ordered).map appRow
  let tone := if ordered.any fun app => app.state.isError then .error else .ok
  titled ("Applications (" ++ decimalNat ordered.length ++ ")") tone <| .table
    { columns := [{ header := "Name", style := "bold", noWrap := true },
        { header := "Version", noWrap := true },
        { header := "UUID", style := "dim", noWrap := true },
        { header := "State", overflow := "fold" }]
      rows := rows }

/-- The panel of the summary. -/
def appSummary (summary : AppSummary) : Panel :=
  keyValues "App summary" (if summary.error ≠ 0 then .error else .ok)
    [("Running", decimal summary.running), ("Starting", decimal summary.starting),
     ("Stopping", decimal summary.stopping), ("Error", decimal summary.error)]

end NodeConsole.Panel
