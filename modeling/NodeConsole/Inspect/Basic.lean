import NodeConsole.Files.Path
import NodeConsole.Input.Key
import NodeConsole.Layout.Rect
import NodeConsole.Net.Network
import NodeConsole.Time.Calendar
import NodeConsole.Uuid

/-!
# Inspection

What the program holds, as data for tools that look into it. Lists and pairs become lists, what is
absent becomes null, and everything that has a text of its own becomes that text.
-/

namespace NodeConsole

/-- Things that can be looked at as data. -/
class Inspect (α : Type) where
  /-- A thing as data. -/
  data : α → Value

export Inspect (data)

namespace Inspect

open NodeConsole.Files NodeConsole.Input NodeConsole.Layout NodeConsole.Net NodeConsole.Time

/-- A field of a record. -/
def field {α : Type} [Inspect α] (name : String) (found : α) : String × Value :=
  (name, data found)

/-- A field that is left out if there is nothing to show. -/
def field? {α : Type} [Inspect α] (name : String) (found : Option α) : Fields :=
  (found.map (field name)).toList

/-- A record that names its type in the field `type`. -/
def typed (name : String) (fields : Fields) : Value :=
  .object (("type", .text name) :: fields)

instance : Inspect Value := ⟨id⟩

instance : Inspect String := ⟨.text⟩

instance : Inspect Int := ⟨.integer⟩

instance : Inspect Nat := ⟨.ofNat⟩

instance : Inspect Bool := ⟨.bool⟩

instance {α : Type} [Inspect α] : Inspect (Option α) where
  data found := (found.map data).getD .null

instance {α : Type} [Inspect α] : Inspect (List α) where
  data found := .list (found.map data)

instance {α β : Type} [Inspect α] [Inspect β] : Inspect (α × β) where
  data pair := .list [data pair.1, data pair.2]

instance : Inspect Instant where
  data instant := data instant.text

instance : Inspect Address where
  data address := data address.text

instance : Inspect Network where
  data network := data network.text

instance : Inspect Interface where
  data interface := data interface.text

instance : Inspect Uuid where
  data uuid := data uuid.text

instance : Inspect Path where
  data path := data path.text

instance : Inspect Rect where
  data area := data [area.x, area.y, area.width, area.height]

instance : Inspect Key where
  data key := data (key.code, key.modifiers.toBits)

instance : Inspect Event where
  data
    | .key found => data found
    | .tick => data "tick"
    | .foreign value => value

end Inspect

end NodeConsole
