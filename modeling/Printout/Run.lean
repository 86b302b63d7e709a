import Printout.CommandLine
import Printout.Directive
import Printout.Effect
import Printout.Files
import Printout.Settings.Reader

/-!
# Runs

A run takes its arguments, reads the settings file and the source they name, and writes the program.
`Run.main` is its course from the first effect to the last: each event is recorded where the run
comes to it, and the user is told of a failure where the run ends with it. `run` plays it from empty
streams and keeps what can be seen from outside.
-/

set_option autoImplicit false

namespace Printout

open CommandLine

/-! ## Settings and sources -/

/-- Why `loadSettings` gives no settings. -/
inductive SettingsError where
  | unreadable (reason : ReadError)
  | invalid (report : Json.Report)
deriving Repr, DecidableEq

/-- What `Run.settings` tells the user where the settings are not to be had. -/
def SettingsError.message : SettingsError → String
  | .unreadable reason => "error: cannot read config: " ++ reason.message ++ "\n"
  | .invalid report => "error: invalid config JSON: " ++ report.message ++ "\n"

/-- The settings of a file, by `Settings.parse`, or the defaults if no file is named. -/
def loadSettings (s : Surroundings) : Option String → Except SettingsError Settings
  | none => .ok {}
  | some path =>
    match s.read path with
    | .error reason => .error (.unreadable reason)
    | .ok text => (Settings.parse text).mapError .invalid

/-- The text of the source at `path`. Each reason why there is none becomes the same `Failure`. -/
def readSource (s : Surroundings) (path : String) : Except Failure String :=
  (s.read path).mapError Failure.unreadable

namespace Run

open Act

/-! ## The parts of a run -/

/-- Warns of what is wrong with `Surroundings.traceSpec`, before anything else is done. -/
def warn : Act Unit := do
  let s ← read
  (Trace.Filter.read s.traceSpec).2.forM fun fault => tell fault.warning

/-- The path and the settings file of a request to compile, if that is what `arguments` ask for. A
fault of the command line ends the run with 2. A text about the program ends it with 0, also where
the text cannot be written. -/
def request (arguments : List String) : Act (Option String × Option String) := do
  match CommandLine.parse arguments with
  | .error e =>
    tell e.message
    exit 2
  | .ok (.show flag) =>
    let _ ← write flag.text
    exit 0
  | .ok (.compile path config) => return (path, config)

/-- The settings of the file `config`, by `loadSettings`. The run ends without them. -/
def settings (config : Option String) : Act Settings := do
  match loadSettings (← read) config with
  | .ok settings => return settings
  | .error e =>
    tell e.message
    exit 1

/-- The text of the source at `path`, by `readSource`. -/
def source (path : String) : Act (Except Failure String) := do
  record (.reading path)
  let result := readSource (← read) path
  if let .error (.unreadable reason) := result then
    record (.cannotRead path reason)
  return result

/-- The insides of those `arguments` that are literals. Each of the others is recorded as it is
dropped. -/
def literals : List String → Act (List String)
  | [] => return []
  | argument :: arguments => do
    match literal? argument with
    | some inside => return inside :: (← literals arguments)
    | none =>
      record (.dropping argument)
      literals arguments

/-- The written program of `text`, which is the one of `compile`. -/
def program (settings : Settings) (text : String) : Act String := do
  let found ← literals (arguments settings.call (normalize text))
  record (.kept found.length settings.call)
  return (Program.ofDirectives found settings.waitInput).render

/-- Compiles the source at `path`, if one is named, and writes the program. The program is made
before it turns out that it cannot be written. -/
def compileFile (settings : Settings) (path : Option String) : Act (Except Failure Unit) := do
  match path with
  | none => return .error (.usage programName)
  | some path =>
    match ← source path with
    | .error failure => return .error failure
    | .ok text =>
      match ← write (← program settings text) with
      | none => return .ok ()
      | some e =>
        record (.cannotWrite e)
        exit 1

/-! ## The whole run -/

/-- Carries out a request to compile. The `settings` are read before a missing `path` is noticed. -/
def carryOut (path config : Option String) : Act Unit := do
  match ← compileFile (← settings config) path with
  | .ok () => return ()
  | .error failure =>
    tell (failure.message ++ "\n")
    exit failure.exitCode

/-- A run with the given `arguments`, from its first effect to its last. -/
def main (arguments : List String) : Act Unit := do
  warn
  let (path, config) ← request arguments
  carryOut path config

/-- The exit code of a run by its result. One that comes to its end without `Act.exit` exits with
0. -/
def exitCode : Except Nat Unit → Nat
  | .ok () => 0
  | .error code => code

end Run

/-- What can be seen of a run from outside, once it has ended. -/
structure Outcome where
  exitCode : Nat
  output : String
  /-- What is written to the error stream. -/
  messages : String
deriving Repr, DecidableEq

/-- The outcome of a run with the given `arguments`: `Run.main`, played from empty streams. -/
def run (s : Surroundings) (arguments : List String) : Outcome :=
  let (result, streams) := (Run.main arguments).play s ⟨"", ""⟩
  ⟨Run.exitCode result, streams.output, streams.messages⟩

end Printout
