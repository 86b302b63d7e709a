import Printout.Failure
import Printout.Trace.Filter

/-!
# Effects

What a run does to the outside: it writes to standard output, records events, and tells the user
something on the error stream. An `Act` is a part of a run. It has its effects one after the other,
each on what the `Streams` hold by then, and comes to a result or ends the run with an exit code.

An event is recorded where the run comes to it. Whether a line is written for it is decided there
and then, by the specification in the surroundings (`Act.perform`). The act goes on alike in both
cases.
-/

set_option autoImplicit false

namespace Printout

/-! ## Surroundings -/

/-- What a run depends on besides its arguments. -/
structure Surroundings where
  /-- The text of the file at a path, which `Files.read` gives where all files are known. -/
  read : String → Except ReadError String
  /-- The refusal that every write to standard output meets, if it meets one. It meets the write as
  a whole: an output that takes a part of the text before it refuses is left out. -/
  refusal : Option SystemError
  /-- The specification of the events to show, if there is one. `Trace.Filter.read` reads it. -/
  traceSpec : Option String

/-! ## Streams -/

/-- What standard output and the error stream have taken so far. -/
structure Streams where
  output : String
  messages : String
deriving Repr, DecidableEq

/-- One thing that a run does to its `Streams`. -/
inductive Effect where
  /-- Write `text` to standard output. -/
  | output (text : String)
  /-- Record `event` on the error stream, if it is one to show. -/
  | record (event : Event)
  /-- Tell the user `text` on the error stream. -/
  | tell (text : String)
deriving Repr, DecidableEq

/-- The streams after one more effect, where `shows` says which events are shown. -/
def Streams.after (shows : Event → Bool) (streams : Streams) : Effect → Streams
  | .output text => { streams with output := streams.output ++ text }
  | .record event =>
    if shows event then { streams with messages := streams.messages ++ event.line } else streams
  | .tell text => { streams with messages := streams.messages ++ text }

/-! ## Acts -/

/-- A part of a run, whose exception is the exit code that `Act.exit` ends the run with. -/
abbrev Act (α : Type) := ReaderT Surroundings (ExceptT Nat (StateM Streams)) α

namespace Act

/-- What an act comes to in the surroundings `s` and what the streams hold after it, if they hold
`streams` before it. -/
def play {α : Type} (act : Act α) (s : Surroundings) (streams : Streams) :
    Except Nat α × Streams :=
  ((act.run s).run.run streams).run

/-- Has one `effect`, on what the streams hold by now. -/
def perform (effect : Effect) : Act Unit := do
  let s ← read
  modify fun streams => streams.after (Trace.Filter.read s.traceSpec).1.shows effect

/-- Records `event`, to be shown or not as the specification says. -/
def record (event : Event) : Act Unit := perform (.record event)

/-- Tells the user `text`. -/
def tell (text : String) : Act Unit := perform (.tell text)

/-- Writes `text` to standard output, or gives the refusal that it meets. -/
def write (text : String) : Act (Option SystemError) := do
  let s ← read
  match s.refusal with
  | some e => return some e
  | none =>
    perform (.output text)
    return none

/-- Ends the run with the exit code `code`. -/
def exit {α : Type} (code : Nat) : Act α := throw code

end Act

end Printout
