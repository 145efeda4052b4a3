import NodeConsole.Value

/-!
# Outside the vocabulary

A dispatcher knows every form of what it dispatches on. Anything else is refused by name, so that a
form cannot be ignored by oversight.
-/

namespace NodeConsole

/-- What a dispatcher expected, and what it was given. -/
structure Unrecognised where
  what : String
  value : Value
  deriving Repr

namespace Unrecognised

/-- The text of the refusal. -/
def message (unrecognised : Unrecognised) : String :=
  "unknown " ++ unrecognised.what ++ ": " ++ unrecognised.value.quoted

/-- A value that is no event. -/
def event (value : Value) : Unrecognised := ⟨"event", value⟩

/-- A value that is no action. -/
def action (value : Value) : Unrecognised := ⟨"action", value⟩

/-- A value that is no state of the vault. -/
def vault (value : Value) : Unrecognised := ⟨"vault status", value⟩

/-- A value that is no state of onboarding. -/
def onboarding (value : Value) : Unrecognised := ⟨"onboarding status", value⟩

/-- A value that is no state of an application. -/
def appState (value : Value) : Unrecognised := ⟨"app state", value⟩

end Unrecognised

end NodeConsole
