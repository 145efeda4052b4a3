import NodeConsole.Value

/-!
# Keys and events

A key press has a code, which is the character itself or the name of a special key, and modifiers.
-/

namespace NodeConsole.Input

/-- The modifiers held down with a key. -/
structure Modifiers where
  shift : Bool := false
  alt : Bool := false
  control : Bool := false
  deriving DecidableEq, Repr

namespace Modifiers

/-- No modifier. -/
def none : Modifiers := {}

/-- Modifiers by their bits: 1 for shift, 2 for alt, 4 for control. -/
def ofBits (bits : Nat) : Modifiers :=
  ⟨bits.testBit 0, bits.testBit 1, bits.testBit 2⟩

/-- The bits of modifiers. -/
def toBits (modifiers : Modifiers) : Nat :=
  (if modifiers.shift then 1 else 0) + (if modifiers.alt then 2 else 0) +
    (if modifiers.control then 4 else 0)

end Modifiers

/-- A key press. -/
structure Key where
  code : String
  modifiers : Modifiers := {}
  deriving DecidableEq, Repr

namespace Key

/-- The key with control and nothing else. -/
def isCtrl (key : Key) (code : String) : Bool :=
  key.code = code && key.modifiers = { control := true }

/-- The key without control and alt. -/
def isPlain (key : Key) (code : String) : Bool :=
  key.code = code && !key.modifiers.control && !key.modifiers.alt

/-- A key without modifiers. -/
def plain (code : String) : Key := ⟨code, {}⟩

end Key

/-- What can happen: a key, the passing of time, or something that is no event. -/
inductive Event where
  | key (key : Key)
  | tick
  | foreign (value : Value)
  deriving Repr

/-- An event is a key. -/
def Event.isKey : Event → Bool
  | key _ => true
  | _ => false

/-- An event is a tick. -/
def Event.isTick : Event → Bool
  | tick => true
  | _ => false

end NodeConsole.Input
