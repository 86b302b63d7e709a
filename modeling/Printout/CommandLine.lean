import Printout.Text.Terminal

/-!
# The command line

Arguments are read from left to right. Until the second argument that is no option has been seen, an
argument may be an option: the settings file, the help text or the version. The first argument that
is no option is the path of the source; from the second one on nothing counts any more.

A value that was read is checked late. It stays pending until the next option or plain argument
comes, or the arguments end, so a fault of a later argument that is recognised at once wins over it.
-/

set_option autoImplicit false

namespace Printout.CommandLine

/-- An option without a value, which ends the reading. -/
inductive Flag where
  | help
  | version
deriving Repr, DecidableEq

/-- What the arguments ask for. -/
inductive Request where
  /-- Print `Flag.text`, a text about the program. -/
  | show (flag : Flag)
  /-- Compile the source at `path` under the settings of the file `config`. -/
  | compile (path config : Option String)
deriving Repr, DecidableEq

/-! ## Faults -/

/-- What is wrong with the arguments. -/
inductive ArgumentError where
  /-- The settings file is not named. -/
  | missingConfig
  /-- The path of the source is empty. -/
  | missingPath
  /-- The settings file is named twice. -/
  | repeatedConfig
  /-- A flag is given a value; `accepted` tells whether a path or a settings file was accepted
  before. -/
  | unexpectedValue (flag : Flag) (value : String) (accepted : Bool)
deriving Repr, DecidableEq

/-- The name that the program goes by. -/
def programName : String := "go2sponge"

/-- The long spelling of a flag, as `Kind.ofLong` reads it. -/
def Flag.long : Flag → String
  | .help => "--help"
  | .version => "--version"

/-- What may stand beside a flag. Once anything was `accepted`, it is shown as one group. -/
def besideFlag (accepted : Bool) : String :=
  if accepted then "<GO_FILE|REST|--config <CONFIG>>" else "[GO_FILE]"

/-- What is wrong, without the hint that `ArgumentError.message` adds. A value of the user's own is
shown without what a terminal would obey. -/
def ArgumentError.detail : ArgumentError → String
  | .missingConfig => "a value is required for '--config <CONFIG>' but none was supplied"
  | .missingPath => "a value is required for '[GO_FILE]' but none was supplied"
  | .repeatedConfig =>
    "the argument '--config <CONFIG>' cannot be used multiple times\n\nUsage: " ++ programName ++
      " [OPTIONS] [GO_FILE]"
  | .unexpectedValue flag value accepted =>
    "unexpected value '" ++ Text.Terminal.plain value ++ "' for '" ++ flag.long ++
      "' found; no more were expected\n\nUsage: " ++ programName ++ " " ++ flag.long ++ " " ++
      besideFlag accepted

/-- The whole text on the error stream: `detail` and a hint at the help text. -/
def ArgumentError.message (e : ArgumentError) : String :=
  "error: " ++ e.detail ++ "\n\nFor more information, try '--help'.\n"

/-! ## Kinds of arguments -/

/-- What an argument is as long as it may be an option, by `Kind.of`. -/
inductive Kind where
  /-- The mark after which no argument is an option. -/
  | mark
  | flag (flag : Flag)
  /-- A flag with a value attached. -/
  | flagValue (flag : Flag) (value : String)
  /-- The option whose value is the next argument. -/
  | config
  /-- The option with its value attached. -/
  | configValue (value : String)
  /-- Anything else, unknown options included. -/
  | plain
deriving Repr, DecidableEq

/-- The flag of the letter `c` behind a single dash. -/
def Flag.ofLetter? (c : Char) : Option Flag :=
  if c = 'h' then some .help else if c = 'V' then some .version else none

/-- The kind of an argument with the long `name` and the `value` attached to it. -/
def Kind.ofLong (name : List Char) (value : Option (List Char)) : Kind :=
  if name = "config".toList then
    match value with
    | none => .config
    | some value => .configValue (String.ofList value)
  else if name = "help".toList then ofFlag .help
  else if name = "version".toList then ofFlag .version
  else .plain
where
  ofFlag (flag : Flag) : Kind :=
    match value with
    | none => .flag flag
    | some value => .flagValue flag (String.ofList value)

/-- The kind of an argument of `letters` behind a single dash. It is plain unless each of them is
the letter of a flag, and the first flag counts. -/
def Kind.ofLetters (letters : List Char) : Kind :=
  match letters.mapM Flag.ofLetter? with
  | some (first :: _) => .flag first
  | _ => .plain

/-- Takes `text` apart at its first equals sign, into a long name and a value. -/
def splitValue (text : List Char) : List Char × Option (List Char) :=
  match text.dropWhile (· != '=') with
  | _ :: value => (text.takeWhile (· != '='), some value)
  | [] => (text, none)

/-- The kind of an argument. -/
def Kind.of (argument : String) : Kind :=
  match argument.toList with
  | ['-', '-'] => .mark
  | '-' :: '-' :: long => let (name, value) := splitValue long; .ofLong name value
  | '-' :: letters => .ofLetters letters
  | _ => .plain

/-! ## Reading -/

/-- A value that was read and not checked yet; `State.settle` checks it. -/
inductive Pending where
  | nothing
  | path (value : String)
  /-- The option was read, and its value is the next argument. -/
  | configDue
  | config (value : String)
deriving Repr, DecidableEq

/-- What the arguments so far come to. The values in `path` and `config` have been accepted, the one
in `pending` is still to be checked. -/
structure State where
  path : Option String
  config : Option String
  pending : Pending
deriving Repr, DecidableEq

/-- The state before the first argument. -/
def State.start : State := ⟨none, none, .nothing⟩

/-- Whether a path or a settings file was accepted, which is what `besideFlag` goes by. A value that
is `pending` does not count. -/
def State.accepted (s : State) : Bool := s.path.isSome || s.config.isSome

/-- Accepts `value` as the settings file. It may be named once only, and not by an empty `value`. -/
def State.setConfig (s : State) (value : String) : Except ArgumentError State :=
  if s.config.isSome then .error .repeatedConfig
  else if value = "" then .error .missingConfig
  else .ok { s with config := some value, pending := .nothing }

/-- Accepts the value in `pending`, or fails where it is missing, empty or a second settings
file. -/
def State.settle (s : State) : Except ArgumentError State :=
  match s.pending with
  | .nothing => .ok s
  | .path value =>
    if value = "" then .error .missingPath
    else .ok { s with path := some value, pending := .nothing }
  | .configDue => .error .missingConfig
  | .config value => s.setConfig value

/-- The request of `s` when the arguments have ended, with its last value settled. -/
def State.finish (s : State) : Except ArgumentError Request :=
  s.settle.map fun s => .compile s.path s.config

/-- Takes the plain `argument`: the first one is a path and stays `pending`. At the second one no
more arguments count, which the truth value tells. -/
def State.take (s : State) (argument : String) : Except ArgumentError (State × Bool) :=
  s.settle.map fun s =>
    if s.path.isSome then (s, false) else ({ s with pending := .path argument }, true)

/-- Reads the arguments behind the mark, all of them by `State.take`. -/
def readPlain (s : State) : List String → Except ArgumentError Request
  | [] => s.finish
  | argument :: rest =>
    match s.take argument with
    | .error e => .error e
    | .ok (s, true) => readPlain s rest
    | .ok (s, false) => s.finish

/-- Reads the arguments as long as they may be options, each by its `Kind`. -/
def readFrom (s : State) : List String → Except ArgumentError Request
  | [] => s.finish
  | argument :: rest =>
    match Kind.of argument with
    | .mark => if s.pending = .configDue then .error .missingConfig else readPlain s rest
    | .flag flag => s.settle.map fun _ => .show flag
    -- The value that is pending is not even looked at.
    | .flagValue flag value => .error (.unexpectedValue flag value s.accepted)
    | .config =>
      match s.settle with
      | .error e => .error e
      | .ok s => readFrom { s with pending := .configDue } rest
    | .configValue value =>
      match s.settle.bind fun s => s.setConfig value with
      | .error e => .error e
      | .ok s => readFrom s rest
    | .plain =>
      -- What looks like an option but is none may name the settings file.
      if s.pending = .configDue then readFrom { s with pending := .config argument } rest
      else
        match s.take argument with
        | .error e => .error e
        | .ok (s, true) => readFrom s rest
        | .ok (s, false) => s.finish

/-- What `arguments` ask for, or the fault of the command line. -/
def parse (arguments : List String) : Except ArgumentError Request := readFrom .start arguments

/-! ## Texts about the program -/

/-- The text that a flag asks for on standard output. -/
def Flag.text : Flag → String
  | .version => programName ++ " 0.1.0\n"
  | .help =>
    "Extract Go Println string literals into SpongeLang meaning IR\n\nUsage: " ++ programName ++
      " [OPTIONS] [GO_FILE]\n\nArguments:\n  [GO_FILE]  Go source file\n\nOptions:\n" ++
      "      --config <CONFIG>  Config file path (JSON)\n" ++
      "  -h, --help             Print help\n" ++
      "  -V, --version          Print version\n"

end Printout.CommandLine
