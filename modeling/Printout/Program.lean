/-!
# Programs

A program of the meaning language is a list of nodes: texts to print, and the wait for input that
may close it. `Program.lines` writes it one node a line under a header. The text of a node goes out
as it stands, without escapes.
-/

set_option autoImplicit false

namespace Printout

/-- One step of a program, which `Node.line` writes as one line. -/
inductive Node where
  /-- Print `text`. -/
  | print (text : String)
  /-- Wait until the reader enters something. -/
  | waitInput
deriving Repr, DecidableEq

/-- The line that `Program.render` writes for a node. -/
def Node.line : Node → String
  | .print text => "  print \"" ++ text ++ "\""
  | .waitInput => "  wait-input"

/-- A program is the list of its nodes, in the order of `Program.lines`. -/
abbrev Program := List Node

namespace Program

/-- The program that prints each of the `directives` in turn and then waits for input, if it is to
`wait`. -/
def ofDirectives (directives : List String) (wait : Bool) : Program :=
  directives.map Node.print ++ if wait then [Node.waitInput] else []

/-- The lines of `program`, header first. -/
def lines (program : Program) : List String := "program:" :: program.map Node.line

/-- The written `program`: its `lines`, each with its line feed. -/
def render (program : Program) : String := "\n".intercalate program.lines ++ "\n"

end Program

end Printout
