import Printout.Call
import Printout.Literal
import Printout.Program
import Printout.Settings
import Printout.Text.Newline

/-!
# From a text to its program

The arguments of the chosen call are taken from the text in order. Those that are string literals
become directives, the others are dropped. `compile` does this on the text with its line endings
made equal and writes the program that prints the directives.
-/

set_option autoImplicit false

namespace Printout

/-- The arguments of `call` in `text`, in order. -/
def arguments (call text : String) : List String :=
  (Call.arguments call.toList text.toList).map String.ofList

/-- The inside of `argument`, if it is a string literal. -/
def literal? (argument : String) : Option String :=
  (unquote? argument.toList).map String.ofList

/-- The directives of `text`: the insides of those `arguments` of `call` that are literals. -/
def directives (call text : String) : List String := (arguments call text).filterMap literal?

/-- The `text` with each of its lines ended by a line feed. -/
def normalize (text : String) : String := String.ofList (Text.normalize text.toList)

/-- The program that prints the directives of `text` after `normalize`, under the choices of
`settings`. -/
def Program.ofText (settings : Settings) (text : String) : Program :=
  .ofDirectives (directives settings.call (normalize text)) settings.waitInput

/-- The written program of `text`, line by line: what `Program.ofText` comes to. -/
def compile (settings : Settings) (text : String) : String :=
  (Program.ofText settings text).render

end Printout
