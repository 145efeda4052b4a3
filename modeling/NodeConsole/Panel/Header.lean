import NodeConsole.Panel.Basic
import NodeConsole.Time.Calendar

/-!
# Tab bar and status bar

The panels above and below every page.
-/

namespace NodeConsole.Panel

open NodeConsole.Paint NodeConsole.Time

/-- Adds the titles of tabs to a text; `selected` counts from the first of them. -/
def appendTitles (text : StyledText) (selected : Int) : List String → StyledText
  | [] => text
  | title :: rest =>
    let style := if selected = 0 then "reverse bold" else "default"
    appendTitles ((text.append (" " ++ title ++ " ") style).append " " "") (selected - 1) rest

/-- The panel of the tab bar. -/
def tabs (titles : List String) (selected : Int) : Panel where
  body := .text (appendTitles { text := "" } selected titles)
  border := Tone.ok.border
  title := some (titleMarkup "EVE Monitor")
  subtitle := some ("Use ctrl + ◄ ► to change tab", "right")

/-- The panel of the status bar: the time, a notice or a hint, and the keys for debugging. -/
def statusBar (now : Option Instant) (notice : String) (debug : Bool) : Panel :=
  let clock := (now.map Instant.clockText).getD "--:--:--"
  let text := StyledText.of (clock ++ "   ") "bold"
  let text := if notice ≠ "" then text.append notice "yellow"
    else text.append "Tab: next field   Enter: select   Esc: close dialog" "dim"
  let text := if debug then text.append "   [debug: ^E quit ^R redraw ^P pop ^A crash]" "magenta"
    else text
  { body := .text text, border := Tone.ok.border }

end NodeConsole.Panel
