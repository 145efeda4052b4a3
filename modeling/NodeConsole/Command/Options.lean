import NodeConsole.Text.Integer
import NodeConsole.Text.Quoted

/-!
# Options

The options on the command line. A long option may be shortened as long as it stays unambiguous, and
may carry its argument after an equals sign; two hyphens there take back what the option has set.
Behind a one-letter option stand further such options. What is neither an option nor the argument of
one is refused at the end.
-/

namespace NodeConsole.Command

open NodeConsole.Text

/-- An option. -/
inductive Flag where
  | help | version | profile | config | debug | runDirectory | logDirectory | tickMs | snapshot
  | json
  deriving DecidableEq, Repr

namespace Flag

/-- The spellings of all options, in order. -/
def spellings : List (String × Flag) :=
  [("-h", .help), ("--help", .help), ("--version", .version), ("--profile", .profile),
   ("--config", .config), ("--debug", .debug), ("--run-dir", .runDirectory),
   ("--log-dir", .logDirectory), ("--tick-ms", .tickMs), ("--snapshot", .snapshot),
   ("--json", .json)]

/-- The option of a spelling. -/
def ofSpelling? (spelling : String) : Option Flag :=
  (spellings.find? (·.1 = spelling)).map (·.2)

/-- An option that is followed by an argument. -/
def takesArgument : Flag → Bool
  | profile => true
  | config => true
  | runDirectory => true
  | logDirectory => true
  | tickMs => true
  | _ => false

/-- The option of one letter. -/
def ofLetter? (letter : Char) : Option Flag :=
  ofSpelling? (String.ofList ['-', letter])

/-- An option as messages name it. -/
def shown (flag : Flag) : String :=
  joinWith "/" ((spellings.filter fun entry => entry.2 = flag).map (·.1))

end Flag

/-- Why a command line is refused. -/
inductive UsageFault where
  | ambiguous (word : String) (spellings : List String)
  | missingArgument (flag : Flag)
  | ignoredArgument (flag : Flag) (argument : String)
  | notInteger (flag : Flag) (argument : String)
  | unrecognized (words : List String)
  deriving DecidableEq, Repr

/-- The text of a fault. -/
def UsageFault.message : UsageFault → String
  | ambiguous word spellings =>
    "ambiguous option: " ++ word ++ " could match " ++ joinWith ", " spellings
  | missingArgument flag => "argument " ++ flag.shown ++ ": expected one argument"
  | ignoredArgument flag argument =>
    "argument " ++ flag.shown ++ ": ignored explicit argument " ++
      String.ofList (quoted argument.toList)
  | notInteger flag argument =>
    "argument " ++ flag.shown ++ ": invalid int value: " ++ String.ofList (quoted argument.toList)
  | unrecognized words => "unrecognized arguments: " ++ joinWith " " words

/-- What a word of the command line is. A one-letter option may have letters behind it. -/
inductive Word where
  | plain (text : String)
  | option (flag : Flag) (argument : Option String)
  | letters (flag : Flag) (behind : List Char)
  | unknownOption (text : String)
  deriving DecidableEq, Repr

/-- A text before and after its first equals sign. -/
def splitAtEquals (text : List Char) : String × Option String :=
  let (before, rest) := leading (· ≠ '=') text
  (String.ofList before, if rest = [] then none else some (String.ofList (rest.drop 1)))

/-- A minus sign and a number. -/
def looksNegative (text : List Char) : Bool :=
  match text with
  | '-' :: rest =>
    let (whole, rest) := leading isDecimalDigit rest
    match rest with
    | [] => whole ≠ []
    | ['\n'] => whole ≠ []
    | '.' :: part =>
      let (digits, rest) := leading isDecimalDigit part
      digits ≠ [] && (rest = [] || rest = ['\n'])
    | _ => false
  | _ => false

/-- The options that a word may stand for when it is no spelling itself, with their spellings. -/
def candidates (text : List Char) : List (String × Word) :=
  match text with
  | '-' :: '-' :: _ =>
    let (start, argument) := splitAtEquals text
    Flag.spellings.filterMap fun (spelling, flag) =>
      if start.toList.isPrefixOf spelling.toList then some (spelling, .option flag argument)
      else none
  | '-' :: letter :: rest =>
    Flag.spellings.filterMap fun (spelling, flag) =>
      if spelling.toList = ['-', letter] then some (spelling, .letters flag rest)
      else if text.isPrefixOf spelling.toList then some (spelling, .option flag none)
      else none
  | _ => []

/-- An option with the text after its equals sign. -/
def withArgument (flag : Flag) (start argument : String) : Word :=
  if start.length = 2 then .letters flag argument.toList else .option flag (some argument)

/-- Tells what a word is. -/
def classify (text : String) : Except UsageFault Word :=
  let letters := text.toList
  match letters with
  | '-' :: _ :: _ =>
    match Flag.ofSpelling? text with
    | some flag => .ok (.option flag none)
    | none =>
      let (start, argument?) := splitAtEquals letters
      match argument?, Flag.ofSpelling? start with
      | some argument, some flag => .ok (withArgument flag start argument)
      | _, _ =>
        match candidates letters with
        | [(_, word)] => .ok word
        | [] =>
          if looksNegative letters || letters.contains ' ' then .ok (.plain text)
          else .ok (.unknownOption text)
        | several => .error (.ambiguous text (several.map (·.1)))
  | _ => .ok (.plain text)

/-- Tells what all words are; after two hyphens there are no more options. -/
def classifyAll : List String → Except UsageFault (List Word)
  | [] => .ok []
  | text :: rest =>
    if text = "--" then .ok ((text :: rest).map .plain)
    else do
      let word ← classify text
      let words ← classifyAll rest
      pure (word :: words)

/-- What the command line asks for. -/
structure Options where
  profile : Option String
  config : Option String := none
  debug : Bool := false
  runDirectory : Option String := none
  logDirectory : Option String := none
  tickMs : Option Int := none
  snapshot : Bool := false
  json : Bool := false
  deriving DecidableEq, Repr

/-- How reading the command line ends: with options, with a request for help or for the version, or
with a fault. -/
inductive Request where
  | run (options : Options)
  | help
  | version
  | fault (fault : UsageFault)
  deriving DecidableEq, Repr

/-- Takes back what an option has set. -/
def Options.unset (options : Options) : Flag → Options
  | .profile => { options with profile := none }
  | .config => { options with config := none }
  | .runDirectory => { options with runDirectory := none }
  | .logDirectory => { options with logDirectory := none }
  | .tickMs => { options with tickMs := none }
  | _ => options

/-- Sets an option that takes an argument. -/
def Options.setArgument (options : Options) (flag : Flag) (argument : String) :
    Except UsageFault Options :=
  match flag with
  | .profile => .ok { options with profile := some argument }
  | .config => .ok { options with config := some argument }
  | .runDirectory => .ok { options with runDirectory := some argument }
  | .logDirectory => .ok { options with logDirectory := some argument }
  | .tickMs =>
    match integer? argument.toList with
    | some tick => .ok { options with tickMs := some tick }
    | none => .error (.notInteger flag argument)
  | _ => .ok options

/-- Sets an option that takes none. -/
def Options.setFlag (options : Options) : Flag → Options
  | .debug => { options with debug := true }
  | .snapshot => { options with snapshot := true }
  | .json => { options with json := true }
  | _ => options

/-- What is wrong with the letters behind a one-letter option: there have to be some, and each has
to be such an option too. No such option takes an argument. -/
def lettersFault? (flag : Flag) : List Char → Option UsageFault
  | [] => some (.ignoredArgument flag "")
  | letter :: rest =>
    match Flag.ofLetter? letter with
    | none => some (.ignoredArgument flag (String.ofList (letter :: rest)))
    | some next => if rest = [] then none else lettersFault? next rest

/-- Reads words from the left to the right. `unrecognized` are the words without a meaning. The only
one-letter option is the one for help. -/
def readWords (options : Options) (unrecognized : List String) : List Word → Request
  | [] => if unrecognized.isEmpty then .run options else .fault (.unrecognized unrecognized)
  | .plain text :: rest => readWords options (unrecognized ++ [text]) rest
  | .unknownOption text :: rest => readWords options (unrecognized ++ [text]) rest
  | .letters flag behind :: _ =>
    match lettersFault? flag behind with
    | some fault => .fault fault
    | none => .help
  | .option flag argument :: rest =>
    if flag.takesArgument then
      match argument with
      | some "--" => readWords (options.unset flag) unrecognized rest
      | some argument =>
        match options.setArgument flag argument with
        | .ok options => readWords options unrecognized rest
        | .error fault => .fault fault
      | none =>
        match rest with
        | .plain argument :: rest =>
          if argument = "--" then .fault (.missingArgument flag)
          else
            match options.setArgument flag argument with
            | .ok options => readWords options unrecognized rest
            | .error fault => .fault fault
        | _ => .fault (.missingArgument flag)
    else
      match argument with
      | some argument => .fault (.ignoredArgument flag argument)
      | none =>
        match flag with
        | .help => .help
        | .version => .version
        | flag => readWords (options.setFlag flag) unrecognized rest

/-- Reads a command line; `profile` is the name of the profile unless it is given. -/
def read (profile : String) (words : List String) : Request :=
  match classifyAll words with
  | .error fault => .fault fault
  | .ok words => readWords { profile := some profile } [] words

end NodeConsole.Command
