import Printout.Failure
import Printout.Text.Quoted
import Printout.Text.Terminal

/-!
# The trace of a run

A run leaves a record of what it does. Each event has a level and a target, by which a reader can
choose, and a message.
-/

set_option autoImplicit false

namespace Printout

/-! ## Levels -/

/-- How much an event matters, from what has gone wrong to single steps. -/
inductive Level where
  | error
  | warning
  | info
  | debug
  | trace
deriving Repr, DecidableEq

namespace Level

/-- The rank of a level; a lower one matters more, and `Trace.Rule.shows` goes by it. -/
def rank : Level → Nat
  | error => 1
  | warning => 2
  | info => 3
  | debug => 4
  | trace => 5

/-- The name of a level in capitals, five characters wide. -/
def label : Level → String
  | error => "ERROR"
  | warning => "WARN "
  | info => "INFO "
  | debug => "DEBUG"
  | trace => "TRACE"

/-- The level of a name in small letters, if it is one. The name `off` stands for no level. -/
def threshold? (name : String) : Option (Option Level) :=
  if name = "off" then some none
  else if name = "error" then some (some error)
  else if name = "warn" then some (some warning)
  else if name = "info" then some (some info)
  else if name = "debug" then some (some debug)
  else if name = "trace" then some (some trace)
  else none

end Level

/-! ## Events -/

/-- What a run records by `Act.record`. -/
inductive Event where
  /-- The source at `path` is about to be read. -/
  | reading (path : String)
  /-- The source at `path` cannot be read, for this `reason`. -/
  | cannotRead (path : String) (reason : ReadError)
  /-- The `argument` of a call is no literal. -/
  | dropping (argument : String)
  /-- So many arguments of `call` are literals. -/
  | kept (count : Nat) (call : String)
  /-- The program cannot be written, for this `reason`. -/
  | cannotWrite (reason : SystemError)
deriving Repr, DecidableEq

namespace Event

/-- The level of an event: `dropping` is a single step, all else is for debugging. -/
def level : Event → Level
  | dropping _ => .trace
  | _ => .debug

/-- The part of the program that an event belongs to. -/
def target : Event → String
  | dropping _ => "go2sponge::extract"
  | _ => "go2sponge"

/-- The message of an event. -/
def message : Event → String
  | reading path => "reading " ++ path
  | cannotRead path reason => "cannot read " ++ path ++ ": " ++ reason.message
  | dropping argument => "dropping non-literal argument " ++ Text.quote argument
  | kept count call => "kept " ++ Nat.repr count ++ " " ++ call ++ "(...) literal(s)"
  | cannotWrite reason => "cannot write output: " ++ reason.message

/-- The line that records `event`. What a terminal would obey is left out of it, the line end
included where a sequence is still open. -/
def line (event : Event) : String :=
  Text.Terminal.plain ("[" ++ event.level.label ++ "] " ++ event.message ++ "\n")

end Event

end Printout
