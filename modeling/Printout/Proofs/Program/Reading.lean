import Printout.Call
import Printout.Program

/-!
# Reading a written program

`Program.read` takes a written text apart at its line feeds and keeps the nodes that its lines stand
for. Texts go out as they are, so two programs may be written alike if a text holds a line feed.
Where none does, the lines of the text are those of the program (`lines_render`) and reading gives
the program back (`read_render`).
-/

set_option autoImplicit false

namespace Printout

/-- The lines of a text: the pieces between its line feeds. -/
def Text.lines (text : String) : List String := (text.split '\n').toList.map String.Slice.copy

namespace Node

/-- The node that a line stands for, if it stands for one. -/
def ofLine? (line : String) : Option Node :=
  if line = "  wait-input" then some .waitInput
  else
    match "  print \"".toList.isPrefixOf? line.toList with
    | some rest =>
      if rest.getLast? = some '"' then some (.print (String.ofList rest.dropLast)) else none
    | none => none

/-- The text that a node prints, if it prints one. -/
def text? : Node → Option String
  | .print text => some text
  | .waitInput => none

/-- The line of a node stands for that node and for no other. -/
theorem ofLine?_line (node : Node) : ofLine? node.line = some node := by
  cases node with
  | waitInput => rfl
  | print text =>
    have hline : (Node.print text).line.toList = "  print \"".toList ++ (text.toList ++ ['"']) := by
      simp [line]
    have hwait : (Node.print text).line ≠ "  wait-input" := by
      intro h
      have hchars := congrArg String.toList h
      rw [hline] at hchars
      simp at hchars
    have hprefix : "  print \"".toList.isPrefixOf? (Node.print text).line.toList =
        some (text.toList ++ ['"']) := Call.isPrefixOf?_eq_some.2 hline
    rw [ofLine?, if_neg hwait, hprefix]
    simp

end Node

namespace Program

/-- The nodes that the lines of a text stand for. -/
def read (text : String) : Program := (Text.lines text).filterMap Node.ofLine?

/-- The texts that a program prints, in order. -/
def texts (program : Program) : List String := program.filterMap Node.text?

/-- Whether a program waits for input. -/
def waits (program : Program) : Bool := decide (Node.waitInput ∈ program)

/-- The line of every node stays one line when it is written. -/
def OneLiners (program : Program) : Prop :=
  ∀ text, Node.print text ∈ program → '\n' ∉ text.toList

/-! ## Programs of directives -/

theorem print_mem_ofDirectives {directives : List String} {wait : Bool} {text : String} :
    Node.print text ∈ ofDirectives directives wait ↔ text ∈ directives := by
  cases wait <;> simp [ofDirectives]

@[simp] theorem texts_ofDirectives (directives : List String) (wait : Bool) :
    (ofDirectives directives wait).texts = directives := by
  have hprint : Node.text? ∘ Node.print = some := rfl
  cases wait <;> simp [ofDirectives, texts, List.filterMap_map, Node.text?, hprint]

@[simp] theorem waits_ofDirectives (directives : List String) (wait : Bool) :
    (ofDirectives directives wait).waits = wait := by
  cases wait <;> simp [ofDirectives, waits]

/-! ## The written text -/

/-- Every line goes out with its line feed. -/
theorem render_eq_join (program : Program) :
    program.render = String.join (program.lines.map (· ++ "\n")) := by
  have hlines (line : String) (lines : List String) :
      "\n".intercalate (line :: lines) ++ "\n" = String.join ((line :: lines).map (· ++ "\n")) := by
    induction lines generalizing line with
    | nil => simp
    | cons next lines ih =>
      rw [String.intercalate_cons_cons, String.append_assoc, ih]
      simp [String.append_assoc]
  exact hlines "program:" (program.map Node.line)

/-- What is added to a program is written behind it. -/
theorem render_append (program more : Program) :
    render (program ++ more) =
      program.render ++ String.join (more.map fun node => node.line ++ "\n") := by
  rw [render_eq_join, render_eq_join, lines, lines, List.map_append, ← List.cons_append,
    List.map_append, String.join_append, List.map_map]
  rfl

/-! ## Reading it back -/

variable {program : Program}

theorem newline_notMem_of_mem_lines (h : program.OneLiners) :
    ∀ line ∈ program.lines, '\n' ∉ line.toList := by
  intro line hline
  rw [lines, List.mem_cons, List.mem_map] at hline
  rcases hline with rfl | ⟨node, hnode, rfl⟩
  · decide
  · cases node with
    | waitInput => decide
    | print text => simpa [Node.line] using h text hnode

/-- The written text has the lines of the program, and nothing behind the last line feed. -/
theorem lines_render (h : program.OneLiners) :
    Text.lines program.render = program.lines ++ [""] := by
  -- The last line feed counts as one that joins the lines to an empty one.
  have hjoin : program.render = (String.singleton '\n').intercalate (program.lines ++ [""]) := by
    have hne : program.lines ≠ [] := List.cons_ne_nil _ _
    rw [String.intercalate_append_of_ne_nil hne (List.cons_ne_nil _ _),
      String.intercalate_singleton, String.append_empty]
    rfl
  have hnewline : ∀ line ∈ program.lines ++ [""], '\n' ∉ line.toList := by
    intro line hline
    rw [List.mem_append, List.mem_singleton] at hline
    rcases hline with hline | rfl
    · exact newline_notMem_of_mem_lines h line hline
    · simp
  rw [Text.lines, hjoin]
  exact (String.toList_split_intercalate hnewline).trans (if_neg (by simp))

/-- A written program is read back. -/
theorem read_render (h : program.OneLiners) : read program.render = program := by
  have hlines : (program.map Node.line).filterMap Node.ofLine? = program := by
    rw [List.filterMap_map, Function.comp_def]
    simp [Node.ofLine?_line]
  rw [read, lines_render h, List.filterMap_append, lines, List.filterMap_cons]
  have hheader : Node.ofLine? "program:" = none := by decide
  have hrest : [""].filterMap Node.ofLine? = [] := by decide
  rw [hheader, hrest, hlines, List.append_nil]

end Program

end Printout
