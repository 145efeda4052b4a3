import NodeConsole.Collector.Pass
import NodeConsole.Files.Document
import NodeConsole.Log
import NodeConsole.Numeral
import NodeConsole.Screen.Tab

/-!
# Profiles

A profile holds all settings. There are two built-in ones; a configuration file may choose between
them and replace some of their settings, each of which is checked on its own.
-/

namespace NodeConsole

open NodeConsole.Collector NodeConsole.Files NodeConsole.Screen NodeConsole.Text

/-- The settings of the program. -/
structure Profile where
  name : String
  tickMs : Int
  debug : Bool
  logLevel : Log.Level
  logDirectory : String
  startTab : String
  topics : Patterns
  deriving DecidableEq, Repr

namespace Profile

/-- The settings for use. -/
def release : Profile where
  name := "release"
  tickMs := 250
  debug := false
  logLevel := .info
  logDirectory := "/persist/log/eve-tui"
  startTab := "summary"
  topics := []

/-- The settings for debugging. -/
def debugging : Profile where
  name := "debug"
  tickMs := 250
  debug := true
  logLevel := .debug
  logDirectory := "/tmp/eve-tui"
  startTab := "summary"
  topics := []

/-- The built-in profiles. -/
def builtin : List Profile := [release, debugging]

/-- The built-in profile of a name. -/
def builtin? (name : String) : Option Profile :=
  builtin.find? fun profile => profile.name = name

/-- The shortest tick. -/
def minTickMs : Int := 50

end Profile

/-- Why a configuration is not accepted. The first group is told to the user; the others are
failures of another kind. -/
inductive ConfigFailure where
  | unknownProfile (name : String)
  | fileMissing (path : Path)
  | document (fault : DocumentFault)
  | notObject
  | unknownConfigProfile (value : Value)
  | tickNotInteger (value : Value)
  | unknownLogLevel (value : Value)
  | unknownStartTab (value : Value)
  | topicsNotMap
  | unknownTopics (names : List String)
  | profileNotName (value : Value)
  | tickOutOfRange
  | fileUnreadable (path : Path) (fault : Files.Fault)
  deriving Repr

namespace ConfigFailure

/-- The text of a refusal. -/
def message? : ConfigFailure → Option String
  | unknownProfile name => some ("unknown profile: " ++ name)
  | fileMissing path => some ("config path not found: " ++ path.text)
  | document (.notUtf8 _) => none
  | document (.notJson .malformed) => some "invalid JSON config"
  | document (.notJson _) => none
  | notObject => some "config must be a JSON object"
  | unknownConfigProfile value => some ("unknown profile in config: " ++ value.display)
  | tickNotInteger value => some ("tick_ms must be an integer: " ++ value.quoted)
  | unknownLogLevel value => some ("unknown log_level: " ++ value.display)
  | unknownStartTab value => some ("unknown start_tab: " ++ value.display)
  | topicsNotMap => some "topics must map topic names to path patterns"
  | unknownTopics names => some ("unknown topics in config: " ++ joinWith ", " names)
  | profileNotName _ => none
  | tickOutOfRange => none
  | fileUnreadable .. => none

/-- What the user is told, if a failure is one for the user. -/
def usage? : ConfigFailure → Option String
  | document (.notUtf8 fault) => some (encodingMessage fault)
  | document (.notJson (.tooManyDigits count)) =>
    some ("Exceeds the limit (" ++ decimalNat decimalDigitLimit ++
      " digits) for integer string conversion: value has " ++ decimalNat count ++
      " digits; use sys.set_int_max_str_digits() to increase the limit")
  | failure => failure.message?

end ConfigFailure

namespace Profile

/-- The settings of a configuration file; none without a path. -/
def configFields (tree : Tree) (path? : Option String) : Except ConfigFailure Fields :=
  match path? with
  | none => .ok []
  | some "" => .ok []
  | some text =>
    let path := Path.ofText text
    match tree.locate path with
    | .error .nameTooLong => .error (.fileUnreadable path .nameTooLong)
    | .error _ => .error (.fileMissing path)
    | .ok _ =>
      match tree.file? path with
      | none => .error (.fileUnreadable path .isDirectory)
      | some (_, _, bytes) => do
        let value ← (document bytes).mapError .document
        match value with
        | .object fields => pure fields
        | _ => throw .notObject

/-- The built-in profile that the settings choose. -/
def chosen (fields : Fields) (profile : Profile) : Except ConfigFailure Profile :=
  match fields.get? "profile" with
  | none => .ok profile
  | some value =>
    if !value.isTruthy then .ok profile
    else
      match value with
      | .text name =>
        match builtin? name with
        | some profile => .ok profile
        | none => .error (.unknownConfigProfile value)
      | .list _ => .error (.profileNotName value)
      | .object _ => .error (.profileNotName value)
      | _ => .error (.unknownConfigProfile value)

/-- Replaces a setting if it is given. -/
def withField (fields : Fields) (name : String) (profile : Profile)
    (replace : Profile → Value → Except ConfigFailure Profile) : Except ConfigFailure Profile :=
  match fields.get? name with
  | some value => replace profile value
  | none => .ok profile

/-- Sets the length of a tick, or the shortest one if it is shorter. -/
def withTick (profile : Profile) (value : Value) : Except ConfigFailure Profile :=
  match value.toInteger with
  | .ok tick => .ok { profile with tickMs := max minTickMs tick }
  | .error .outOfRange => .error .tickOutOfRange
  | .error _ => .error (.tickNotInteger value)

/-- Sets the level of the log, in small or capital letters. -/
def withLogLevel (profile : Profile) (value : Value) : Except ConfigFailure Profile :=
  match Log.Level.all.find? fun level => level.name = asciiCapitals value.display with
  | some level => .ok { profile with logLevel := level }
  | none => .error (.unknownLogLevel value)

/-- Sets the tab that is shown first, in small or capital letters. -/
def withStartTab (profile : Profile) (value : Value) : Except ConfigFailure Profile :=
  let name := lower value.display
  if (Tab.all.map Tab.name).contains name then .ok { profile with startTab := name }
  else .error (.unknownStartTab value)

/-- Sets where the files of topics are found. Null counts as absent. -/
def withTopics (profile : Profile) (value : Value) : Except ConfigFailure Profile :=
  match value with
  | .null => .ok profile
  | .object fields =>
    let unknown := (fields.map (·.1)).filter fun name => (Topic.ofName? name).isNone
    if unknown.isEmpty then
      .ok { profile with topics := fields.map fun field => (field.1, field.2.display) }
    else .error (.unknownTopics (unknown.mergeSort fun left right => !decide (right < left)))
  | _ => .error .topicsNotMap

/-- A profile with the settings of a configuration. -/
def configured (fields : Fields) (profile : Profile) : Except ConfigFailure Profile := do
  let profile ← chosen fields profile
  let profile ← withField fields "tick_ms" profile withTick
  let profile ← withField fields "log_level" profile withLogLevel
  let profile ← withField fields "log_dir" profile fun profile value =>
    .ok { profile with logDirectory := value.display }
  let profile ← withField fields "start_tab" profile withStartTab
  withField fields "topics" profile withTopics

/-- The profile of a name, with the settings of a configuration file if there is one. -/
def resolve (tree : Tree) (name : String) (configPath? : Option String) :
    Except ConfigFailure Profile :=
  match builtin? name with
  | none => .error (.unknownProfile name)
  | some profile => do
    let fields ← configFields tree configPath?
    configured fields profile

end Profile

end NodeConsole
