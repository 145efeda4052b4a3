import NodeConsole.Command.Options
import NodeConsole.Command.Terminal
import NodeConsole.Device.Dump

/-!
# The command

What a call of the program does: it reads its options and settings, opens its log, and then writes
the model, takes a snapshot of the screen, or runs on the terminal.
-/

namespace NodeConsole.Command

open NodeConsole.Collector NodeConsole.Files NodeConsole.Screen NodeConsole.Time

/-- The version of the program. -/
def version : String := "0.1.0"

/-- The name of the program. -/
def programName : String := "eve-tui"

/-- The settings from the environment. -/
structure Environment where
  profile : Option String := none
  runDirectory : Option String := none
  deriving DecidableEq, Repr

/-- A failure that is not told to the user. -/
inductive Failure where
  | config (failure : ConfigFailure)
  | log (refusal : Refusal)
  | start (failure : StartFailure)
  | collect (failure : Collector.Failure)
  | screen (failure : Screen.Failure)
  deriving Repr

/-- What a call writes: nothing, a text, or a value. -/
inductive Output where
  | none
  | text (text : String)
  | value (value : Value)
  deriving Repr

/-- How a call ends, and what it leaves: what it wrote, the attributes of its terminal, its log. -/
structure Outcome where
  ending : Except Failure Nat
  output : Output := .none
  error : String := ""
  terminal : Option Attributes := none
  logPath : Option Path := none
  log : List Log.Entry := []

/-- A call that ends with a message for the user. -/
def told (code : Nat) (message : String) : Outcome :=
  { ending := .ok code, error := programName ++ ": " ++ message }

/-- A call that is refused for its options or settings. -/
def refused (message : String) : Outcome :=
  told 2 ("error: " ++ message)

/-- The profile with the options of the command line. -/
def Options.applied (options : Options) (profile : Profile) : Profile :=
  let profile :=
    if options.debug then { profile with debug := true, logLevel := .debug } else profile
  let profile := match options.logDirectory with
    | some directory =>
      if directory = "" then profile else { profile with logDirectory := directory }
    | none => profile
  match options.tickMs with
  | some tick =>
    if tick = 0 then profile else { profile with tickMs := max Profile.minTickMs tick }
  | none => profile

/-- Where the status files are. -/
def Options.base (options : Options) (environment : Environment) : Path :=
  match options.runDirectory with
  | some directory =>
    if directory = "" then .ofText (environment.runDirectory.getD "/run") else .ofText directory
  | none => .ofText (environment.runDirectory.getD "/run")

/-- The log file in a directory. -/
def logPath (directory : Path) : Path :=
  (directory.child "eve-tui.log").straightened

/-- Opens the log in a directory, which is made if it is missing. -/
def openLog (tree : Tree) (directory : Path) : Attempt :=
  (tree.makeDirectory directory).andThen fun tree => tree.append (logPath directory) 0 []

/-- The size of a screen that is not shown. -/
def snapshotWidth : Int := 80

/-- The height of a screen that is not shown. -/
def snapshotHeight : Int := 25

/-- The work of a call once the program has been set up. -/
def work (tree : Tree) (options : Options) (input : Input) (clock : Instant) (app : App Layer) :
    Outcome :=
  if options.json ∨ options.snapshot then
    let collected := app.collectOnce tree
    match collected.outcome with
    | .error failure => { ending := .error (.collect failure), log := collected.log }
    | .ok _ =>
      if options.json then
        { ending := .ok 0, output := .value collected.app.model.dump, log := collected.log }
      else
        match collected.app.redraw snapshotWidth snapshotHeight with
        | .error failure => { ending := .error (.screen failure), log := collected.log }
        | .ok _ => { ending := .ok 0, log := collected.log }
  else
    match input with
    | .none => told 1 "stdin is not a terminal; use --snapshot or --json"
    | .pretended => told 1 notConfigurable
    | .terminal attributes bytes =>
      let session := withSession attributes fun _ =>
        (app.run snapshotWidth snapshotHeight clock bytes).2
      match session.result with
      | .error failure => { ending := .error (.screen failure), terminal := some session.after }
      | .ok _ => { ending := .ok 0, terminal := some session.after }

/-- A call with a profile. -/
def runProfile (tree : Tree) (environment : Environment) (input : Input) (clock : Instant)
    (options : Options) (profile : Profile) : Outcome :=
  let base := options.base environment
  let directory := Path.ofText profile.logDirectory
  let opened := openLog tree directory
  match opened.refusal? with
  | some refusal =>
    if refusal.fault = .nulInPath then { ending := .error (.log refusal) }
    else
      told 1 ("cannot open log directory " ++ profile.logDirectory ++ ": " ++ refusal.message)
  | none =>
    let started := Log.Entry.started version profile.name base.text
    let outcome := match (App.start profile base : Except StartFailure (App Layer)) with
      | .ok app => work opened.tree options input clock app
      | .error failure =>
        match failure.message? with
        | some message => refused message
        | none => { ending := .error (.start failure) }
    { outcome with
      logPath := some (logPath directory)
      log := Log.shown profile.logLevel (started :: outcome.log) }

/-- A call with options. Without a profile, not even a name is left to look up. -/
def runOptions (tree : Tree) (environment : Environment) (input : Input) (clock : Instant)
    (options : Options) : Outcome :=
  match options.profile with
  | none => { ending := .error (.config (.profileNotName (.list []))) }
  | some name =>
    match Profile.resolve tree name options.config with
    | .error failure =>
      match failure.usage? with
      | some message => refused message
      | none => { ending := .error (.config failure) }
    | .ok profile => runProfile tree environment input clock options (options.applied profile)

/-- A call with the words of its command line. -/
def call (tree : Tree) (environment : Environment) (input : Input) (clock : Instant)
    (words : List String) : Outcome :=
  match read (environment.profile.getD Profile.release.name) words with
  | .fault fault => refused fault.message
  | .help => { ending := .ok 0 }
  | .version => { ending := .ok 0, output := .text (programName ++ " " ++ version ++ "\n") }
  | .run options => runOptions tree environment input clock options

end NodeConsole.Command
