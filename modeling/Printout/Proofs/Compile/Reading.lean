import Printout.Proofs.Compile.Content

/-!
# The written program tells its directives

Directives go out without escapes, yet one reading recovers them and the wait from every written
program (`compile_unambiguous`). What makes this work is that no directive holds a line feed, for
any call and any text, so that the lines of the output are the header, the directives in order, the
wait if there is one, and nothing more.
-/

set_option autoImplicit false

namespace Printout

/-- What a written program prints, in order, and whether it waits for input: no more than `output`
is looked at. -/
def Program.decode (output : String) : List String × Bool :=
  ((Program.read output).texts, (Program.read output).waits)

variable {settings settings' : Settings} {text text' : String}

/-- From the output of `compile` the reader `Program.read` gives back the program that was
written. -/
theorem read_compile (settings : Settings) (text : String) :
    Program.read (compile settings text) = Program.ofText settings text :=
  Program.read_render (oneLiners_ofText settings text)

theorem decode_compile (settings : Settings) (text : String) :
    Program.decode (compile settings text) =
      (directives settings.call (normalize text), settings.waitInput) := by
  rw [Program.decode, read_compile, Program.ofText]
  rw [Program.texts_ofDirectives, Program.waits_ofDirectives]

/-- The output of `compile` is the header, a line for each directive, and a line for the wait if
there is one. -/
theorem lines_compile (settings : Settings) (text : String) :
    Text.lines (compile settings text) =
      "program:" ::
        (directives settings.call (normalize text)).map (fun d => "  print \"" ++ d ++ "\"") ++
          (if settings.waitInput then ["  wait-input"] else []) ++ [""] := by
  have hprint : Node.line ∘ Node.print = fun d => "  print \"" ++ d ++ "\"" := rfl
  rw [compile, Program.lines_render (oneLiners_ofText settings text), Program.lines,
    Program.ofText, Program.ofDirectives, List.map_append, List.map_map, hprint]
  cases settings.waitInput <;> rfl

/-- For equal output it is enough that the `directives` and the `waitInput` are equal. -/
theorem compile_congr (hdirectives : directives settings.call (normalize text) =
      directives settings'.call (normalize text'))
    (hwait : settings.waitInput = settings'.waitInput) :
    compile settings text = compile settings' text' := by
  rw [compile, compile, Program.ofText, Program.ofText, hdirectives, hwait]

/-- One reading, `Program.decode`, recovers the directives and the wait from every output, the lines
of an output are laid down by them, and two outputs are equal exactly if both are. -/
theorem compile_unambiguous :
    (∀ settings text, Program.decode (compile settings text) =
      (directives settings.call (normalize text), settings.waitInput)) ∧
    (∀ settings text, Text.lines (compile settings text) =
      "program:" ::
        (directives settings.call (normalize text)).map (fun d => "  print \"" ++ d ++ "\"") ++
          (if settings.waitInput then ["  wait-input"] else []) ++ [""]) ∧
    ∀ settings text settings' text', compile settings text = compile settings' text' ↔
      directives settings.call (normalize text) = directives settings'.call (normalize text') ∧
        settings.waitInput = settings'.waitInput := by
  refine ⟨decode_compile, lines_compile, ?_⟩
  intro settings text settings' text'
  constructor
  · intro h
    have hdecode := congrArg Program.decode h
    rw [decode_compile, decode_compile] at hdecode
    exact Prod.mk.inj hdecode
  · rintro ⟨hdirectives, hwait⟩
    exact compile_congr hdirectives hwait

end Printout
