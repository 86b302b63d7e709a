/-!
# Failures

Why a file cannot be read, and the two failures a run reports in its own words. A user sees one
fixed text whatever the reason was; the reason itself is kept beside it.
-/

set_option autoImplicit false

namespace Printout

/-! ## Refusals of the system -/

/-- The ways in which the system refuses an operation on a file. -/
inductive SystemError where
  | notPermitted
  | noEntry
  | inputOutput
  | accessDenied
  | notDirectory
  | isDirectory
  | noSpace
  | nameTooLong
  | tooManyLinks
deriving Repr, DecidableEq

namespace SystemError

/-- All refusals, in the order of their numbers. -/
def all : List SystemError :=
  [notPermitted, noEntry, inputOutput, accessDenied, notDirectory, isDirectory, noSpace,
    nameTooLong, tooManyLinks]

/-- The number by which the system knows a refusal. -/
def number : SystemError → Nat
  | notPermitted => 1
  | noEntry => 2
  | inputOutput => 5
  | accessDenied => 13
  | notDirectory => 20
  | isDirectory => 21
  | noSpace => 28
  | nameTooLong => 36
  | tooManyLinks => 40

/-- The refusal with the number `n`, if `all` has it. -/
def ofNumber? (n : Nat) : Option SystemError := all.find? fun e => e.number = n

/-- What the system calls a refusal. -/
def name : SystemError → String
  | notPermitted => "Operation not permitted"
  | noEntry => "No such file or directory"
  | inputOutput => "Input/output error"
  | accessDenied => "Permission denied"
  | notDirectory => "Not a directory"
  | isDirectory => "Is a directory"
  | noSpace => "No space left on device"
  | nameTooLong => "File name too long"
  | tooManyLinks => "Too many levels of symbolic links"

/-- The wording of the refusal `e`: its `name`, then its `number`. -/
def message (e : SystemError) : String :=
  e.name ++ " (os error " ++ Nat.repr e.number ++ ")"

end SystemError

/-! ## Unreadable files -/

/-- Why the text of a file cannot be had. -/
inductive ReadError where
  /-- The system refuses to open or read it, for the reason `e`. -/
  | system (e : SystemError)
  /-- No file can have this name. -/
  | nulInPath
  /-- Its bytes are no text. -/
  | notUtf8
  /-- Any other reason, in words of its own. -/
  | other (reason : String)
deriving Repr, DecidableEq

/-- The wording of a reason, which `Failure.message` leaves out. -/
def ReadError.message : ReadError → String
  | .system e => e.message
  | .nulInPath => "file name contained an unexpected NUL byte"
  | .notUtf8 => "stream did not contain valid UTF-8"
  | .other reason => reason

/-! ## Failures of a run -/

/-- A failure that a run reports in its own words, by `Failure.message`. -/
inductive Failure where
  /-- No path was given to `program`. -/
  | usage (program : String)
  /-- The source cannot be read, for this `reason`. -/
  | unreadable (reason : ReadError)
deriving Repr, DecidableEq

namespace Failure

/-- What the user is told. It is the same for every reason of `unreadable`. -/
def message : Failure → String
  | usage program => "Usage: " ++ program ++ " <go_file>"
  | unreadable _ => "Error: cannot read Go file"

/-- The exit code that a run ends with. -/
def exitCode : Failure → Nat
  | usage _ => 1
  | unreadable _ => 1

/-- The wording of the reason behind `unreadable`. -/
def reason? : Failure → Option String
  | usage _ => none
  | unreadable reason => some reason.message

end Failure

end Printout
