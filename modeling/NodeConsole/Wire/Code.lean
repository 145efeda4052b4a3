import NodeConsole.Text.Integer

/-!
# Coded states

Status messages give a state by its number. A number without a name is kept as it is, so that a
newer sender does not make a message unreadable.
-/

namespace NodeConsole.Wire

open NodeConsole.Text

/-- A set of states that travel as numbers. -/
class Codes (State : Type) where
  /-- The name of the set. -/
  setName : String
  /-- All states. -/
  members : List State
  /-- The number of a state. -/
  code : State → Nat
  /-- The name of a state. -/
  name : State → String

/-- A state of a set, or the number of a state that has no name. -/
inductive Coded (State : Type) where
  | known (state : State)
  | other (code : Int)
  deriving DecidableEq, Repr

namespace Coded

variable {State : Type} [Codes State]

/-- The state with a number, if it has a name. -/
def member? (code : Int) : Option State :=
  (@Codes.members State _).find? fun state => (Codes.code state : Int) = code

/-- The number of a state. -/
def number : Coded State → Int
  | known state => Codes.code state
  | other code => code

/-- The name of a state, or its number as an unknown one. -/
def label : Coded State → String
  | known state => Codes.name state
  | other code => "?(" ++ decimal code ++ ")"

end Coded

/-- The life cycle of an application or a download. -/
inductive SoftwareState where
  | initial | resolvingTag | resolvedTag | downloading | downloaded | verifying | verified | loading
  | loaded | creatingVolume | createdVolume | installed | awaitNetworkInstance | startDelayed
  | booting | running | pausing | paused | halting | halted | broken | unknown | pending
  | scheduling | failed | maxState
  deriving DecidableEq, Repr

instance : Codes SoftwareState where
  setName := "SwState"
  members :=
    [.initial, .resolvingTag, .resolvedTag, .downloading, .downloaded, .verifying, .verified,
     .loading, .loaded, .creatingVolume, .createdVolume, .installed, .awaitNetworkInstance,
     .startDelayed, .booting, .running, .pausing, .paused, .halting, .halted, .broken, .unknown,
     .pending, .scheduling, .failed, .maxState]
  code
    | .initial => 100 | .resolvingTag => 101 | .resolvedTag => 102 | .downloading => 103
    | .downloaded => 104 | .verifying => 105 | .verified => 106 | .loading => 107 | .loaded => 108
    | .creatingVolume => 109 | .createdVolume => 110 | .installed => 111
    | .awaitNetworkInstance => 112 | .startDelayed => 113 | .booting => 114 | .running => 115
    | .pausing => 116 | .paused => 117 | .halting => 118 | .halted => 119 | .broken => 120
    | .unknown => 121 | .pending => 122 | .scheduling => 123 | .failed => 124 | .maxState => 125
  name
    | .initial => "INITIAL" | .resolvingTag => "RESOLVING_TAG" | .resolvedTag => "RESOLVED_TAG"
    | .downloading => "DOWNLOADING" | .downloaded => "DOWNLOADED" | .verifying => "VERIFYING"
    | .verified => "VERIFIED" | .loading => "LOADING" | .loaded => "LOADED"
    | .creatingVolume => "CREATING_VOLUME" | .createdVolume => "CREATED_VOLUME"
    | .installed => "INSTALLED" | .awaitNetworkInstance => "AWAIT_NETWORK_INSTANCE"
    | .startDelayed => "START_DELAYED" | .booting => "BOOTING" | .running => "RUNNING"
    | .pausing => "PAUSING" | .paused => "PAUSED" | .halting => "HALTING" | .halted => "HALTED"
    | .broken => "BROKEN" | .unknown => "UNKNOWN" | .pending => "PENDING"
    | .scheduling => "SCHEDULING" | .failed => "FAILED" | .maxState => "MAX_STATE"

/-- The protection of stored data. -/
inductive DataProtection where
  | unknown | disabled | enabled | error
  deriving DecidableEq, Repr

instance : Codes DataProtection where
  setName := "DataSecAtRestStatus"
  members := [.unknown, .disabled, .enabled, .error]
  code | .unknown => 0 | .disabled => 1 | .enabled => 2 | .error => 4
  name | .unknown => "UNKNOWN" | .disabled => "DISABLED" | .enabled => "ENABLED" | .error => "ERROR"

/-- The use of the platform's measurement registers. -/
inductive RegisterUse where
  | unknown | enabled | disabled
  deriving DecidableEq, Repr

instance : Codes RegisterUse where
  setName := "PCRStatus"
  members := [.unknown, .enabled, .disabled]
  code | .unknown => 0 | .enabled => 1 | .disabled => 2
  name | .unknown => "UNKNOWN" | .enabled => "ENABLED" | .disabled => "DISABLED"

/-- How a port gets its address. -/
inductive DhcpMode where
  | noop | static | none | deprecated | client
  deriving DecidableEq, Repr

instance : Codes DhcpMode where
  setName := "DhcpType"
  members := [.noop, .static, .none, .deprecated, .client]
  code | .noop => 0 | .static => 1 | .none => 2 | .deprecated => 3 | .client => 4
  name
    | .noop => "NOOP" | .static => "STATIC" | .none => "NONE" | .deprecated => "DEPRECATED"
    | .client => "CLIENT"

/-- How serious an error is. -/
inductive Severity where
  | unspecified | notice | warning | error
  deriving DecidableEq, Repr

instance : Codes Severity where
  setName := "ErrorSeverity"
  members := [.unspecified, .notice, .warning, .error]
  code | .unspecified => 0 | .notice => 1 | .warning => 2 | .error => 3
  name
    | .unspecified => "UNSPECIFIED" | .notice => "NOTICE" | .warning => "WARNING"
    | .error => "ERROR"

end NodeConsole.Wire
