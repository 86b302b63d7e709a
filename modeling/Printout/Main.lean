import Printout.Run

/-!
# The program

The outer layer: it gathers what a run depends on, asks for the report, and writes it. All files are
read before the report is made, so the report itself is a plain value.
-/

set_option autoImplicit false

namespace Printout.Program

/-- The number that the system gave a failed operation, if it gave one. -/
def systemNumber? : IO.Error → Option UInt32
  | .alreadyExists _ n _ | .otherError n _ | .resourceBusy n _ | .resourceVanished n _
  | .unsupportedOperation n _ | .hardwareFault n _ | .unsatisfiedConstraints n _
  | .illegalOperation n _ | .protocolError n _ | .timeExpired n _ | .interrupted _ n _
  | .noFileOrDirectory _ n _ | .invalidArgument _ n _ | .permissionDenied _ n _
  | .resourceExhausted _ n _ | .inappropriateType _ n _ | .noSuchThing _ n _ => some n
  | .unexpectedEof | .userError _ => none

/-- The refusal behind the failed operation `e`. Some operations give its number with a minus
sign. -/
def refusal? (e : IO.Error) : Option SystemError :=
  (systemNumber? e).bind fun n => SystemError.ofNumber? n.toInt32.toInt.natAbs

/-- The reason behind the failed reading `e`. -/
def readError (e : IO.Error) : ReadError :=
  match refusal? e with
  | some refusal => .system refusal
  | none => .other (toString e)

/-- The text of the file on disk at `path`, by `Files.textOf`. -/
def readDisk (path : String) : IO (Except ReadError String) := do
  try
    return Files.textOf (← IO.FS.readBinFile path)
  catch e =>
    return .error (readError e)

/-- The files that `run` may ask for under a request. -/
def neededFiles : CommandLine.Request → List String
  | .show _ => []
  | .compile path config => config.toList ++ path.toList

/-- Writes `text` to standard output, and gives the refusal if there is one. -/
def write (text : String) : IO (Option SystemError) := do
  let stdout ← IO.getStdout
  try
    stdout.putStr text
    stdout.flush
    return none
  catch e =>
    return some ((refusal? e).getD .inputOutput)

end Printout.Program

open Printout in
/-- Runs the program on the `arguments` of the process: `run` says what is to be written. -/
def main (arguments : List String) : IO UInt32 := do
  let spec ← IO.getEnv "RUST_LOG"
  let paths := match CommandLine.parse arguments with
    | .ok request => Program.neededFiles request
    | .error _ => []
  let texts ← paths.mapM fun path => do return (path, ← Program.readDisk path)
  let read (path : String) : Except ReadError String :=
    match texts.find? fun (known, _) => known = path with
    | some (_, text) => text
    | none => .error (.system .noEntry)
  let first := run ⟨read, none, spec⟩ arguments
  let refusal ← if first.output.isEmpty then pure none else Program.write first.output
  let outcome := if refusal.isSome then run ⟨read, refusal, spec⟩ arguments else first
  (← IO.getStderr).putStr outcome.messages
  return outcome.exitCode.toUInt32
