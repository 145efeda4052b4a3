import NodeConsole.Paint.Renderable

/-!
# Panels

The common shape of all panels: a title, a border that tells how things are, and a text or a table.
-/

namespace NodeConsole.Panel

open NodeConsole.Paint

/-- How things are. -/
inductive Tone where
  | ok | warn | error
  deriving DecidableEq, Repr

namespace Tone

/-- The color of a border. -/
def border : Tone → String
  | ok => "cyan"
  | warn => "yellow"
  | error => "red"

/-- The tone of a name; anything unknown is taken as good. -/
def ofName (name : String) : Tone :=
  if name = "warn" then warn else if name = "error" then error else ok

end Tone

/-- A title as it is marked up. -/
def titleMarkup (title : String) : String :=
  "[bold]" ++ title ++ "[/bold]"

/-- A panel with a title. -/
def titled (title : String) (tone : Tone) (body : Body) : Panel where
  body := body
  border := tone.border
  title := some (titleMarkup title)

/-- A panel that has nothing to show. -/
def empty (title message : String) : Panel :=
  titled title .ok (.text (.of message "dim"))

/-- Rows of names and values. -/
def keyValueTable (rows : List (String × String)) : Table where
  columns := [{ header := "key", style := "bold", noWrap := true },
    { header := "value", style := "default" }]
  rows := rows.map fun row => { cells := [.plain row.1, .plain row.2] }
  showHeader := false
  padEdge := false

/-- A panel of names and values. -/
def keyValues (title : String) (tone : Tone) (rows : List (String × String)) : Panel :=
  titled title tone (.table (keyValueTable rows))

end NodeConsole.Panel
