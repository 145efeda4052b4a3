import NodeConsole.Inspect.Basic
import NodeConsole.Paint.Frame
import NodeConsole.Paint.Renderable

/-!
# Painting as data

What is painted where, in full or in short. Settings that have their usual value are left out.
-/

namespace NodeConsole.Inspect

open NodeConsole.Paint

instance : Inspect Span where
  data span := .list [data span.start, data span.stop, data span.style]

instance : Inspect StyledText where
  data found := .object
    ([field "text" found.text, field "style" found.style, field "spans" found.spans] ++
      field? "justify" found.justify ++ field? "overflow" found.overflow ++
      field? "no_wrap" (if found.noWrap then some true else none))

instance : Inspect Cell where
  data
    | .plain text => data text
    | .styled text => data text

instance : Inspect Column where
  data column :=
    .list [data column.header, data column.style, data column.noWrap, data column.overflow]

instance : Inspect Row where
  data row := .object [field "cells" row.cells, field "style" row.style]

instance : Inspect Table where
  data table := .object
    [field "columns" table.columns, field "rows" table.rows, field "header" table.showHeader,
     field "expand" table.expand, field "pad_edge" table.padEdge]

instance : Inspect Body where
  data
    | .text text => data text
    | .table table => data table

instance : Inspect BoxStyle where
  data
    | .rounded => data "ROUNDED"
    | .heavy => data "HEAVY"

instance : Inspect Panel where
  data panel := .object
    ([field "panel" panel.title, field "border" panel.border, field "box" panel.box,
      field "body" panel.body] ++
      field? "subtitle" panel.subtitle ++
      field? "style" (if panel.style = "none" then none else some panel.style) ++
      field? "padding" (if panel.padded then none else some (0 : Int)))

instance : Inspect Renderable where
  data
    | .text text => data text
    | .panel panel => data panel
    | .group panels => .object [field "group" panels]

instance : Inspect Stroke where
  data
    | .paint area what => .object [field "at" area, field "paint" what]
    | .clear area => .object [field "clear" area]

/-- A stroke by its rectangle, and the title or the text of what is painted. -/
def inShort : Stroke → Value
  | .paint area (.text text) => data (area, text.text)
  | .paint area (.panel panel) => data (area, panel.title)
  | .paint area (.group _) => data (area, "group")
  | .clear area =>
    .list [data [data "clear", data area.x, data area.y, data area.width, data area.height], .null]

instance : Inspect Segment where
  data segment := data (segment.text, segment.style)

end NodeConsole.Inspect
