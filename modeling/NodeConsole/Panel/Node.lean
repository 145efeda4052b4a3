import NodeConsole.Device.State
import NodeConsole.Panel.Basic
import NodeConsole.Panel.Labels

/-!
# Node and vault

Panels for the node itself: its controller, its onboarding, its vault.
-/

namespace NodeConsole.Panel

open NodeConsole.Paint NodeConsole.Device NodeConsole.Time

/-- A time, or that there was none. -/
def timeOrNever : Option Instant → String
  | some instant => instant.shortText
  | none => "never"

/-- The label and the tone of a state of onboarding. -/
def onboardingLabel : Onboarding → String × Tone
  | .unknown => ("unknown", .warn)
  | .ongoing => ("onboarding...", .warn)
  | .done device => ("onboarded (" ++ device.text ++ ")", .ok)
  | .failed reason => ("error: " ++ reason, .error)

/-- Whether the platform module is used. -/
def tpmLabel (used : Bool) : String :=
  if used then "used" else "not used"

/-- A register that did not match. -/
def registerLabel (register : Wire.Register) : String :=
  register.toValue.display

/-- The rows and the tone of a state of the vault. -/
def vaultRows : Vault → List (String × String) × Tone
  | .unknown => ([("Vault", "unknown")], .warn)
  | .encryptionDisabled reason tpmUsed =>
    ([("Vault", "encryption disabled"), ("TPM", tpmLabel tpmUsed),
      ("Reason", orDash reason.error), ("Since", timeOrNever reason.time)], .warn)
  | .unlocked tpmUsed => ([("Vault", "unlocked"), ("TPM", tpmLabel tpmUsed)], .ok)
  | .locked reason mismatches =>
    ([("Vault", "LOCKED"), ("Reason", orDash reason.error), ("Since", timeOrNever reason.time)] ++
      (match mismatches with
        | some registers => [("Mismatching PCRs", joinOrDash (registers.map registerLabel))]
        | none => []), .error)

/-- The panel of the node. -/
def node (found : Node) : Panel :=
  let (label, tone) := onboardingLabel found.onboarding
  keyValues "Node" tone [("Controller", orDash (found.server.getD "")), ("Onboarding", label)]

/-- The panel of the vault. -/
def vault (found : Vault) : Panel :=
  let (rows, tone) := vaultRows found
  keyValues "Vault" tone rows

/-- The line that tells how far onboarding has come. -/
def onboardingBanner (found : Node) : StyledText :=
  let (label, tone) := onboardingLabel found.onboarding
  let style := match tone with
    | .ok => "green"
    | .warn => "yellow"
    | .error => "bold red"
  .of ("Onboarding: " ++ label) style

end NodeConsole.Panel
