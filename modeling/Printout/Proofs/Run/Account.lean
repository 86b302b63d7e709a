import Printout.Proofs.Compile.Count
import Printout.Proofs.Run.Outcome
import Printout.Proofs.Text.Quoted

/-!
# The record accounts for every argument

A run goes through the arguments of a text one after the other (`Run.plays_literals`). An argument
that is a literal becomes a directive, and every other is recorded as dropped. So the arguments are
those of both sides, in order, and none is there twice or missing (`exists_kept`).

Where all events are asked for, the user can check this (`messages_account_for_arguments`): the run
shows the path, each argument that was dropped, and the number of directives, which is the number
of lines that the program prints. Together with the arguments shown, it is the number of arguments
found in the text.
-/

set_option autoImplicit false

namespace Printout

open CommandLine

/-! ## Interleavings -/

/-- A row is put together from two others, each of which stays in order. -/
inductive Interleaves {α : Type} : List α → List α → List α → Prop
  | nil : Interleaves [] [] []
  | left {a : α} {kept lost row : List α} :
      Interleaves kept lost row → Interleaves (a :: kept) lost (a :: row)
  | right {a : α} {kept lost row : List α} :
      Interleaves kept lost row → Interleaves kept (a :: lost) (a :: row)

namespace Interleaves

variable {α : Type} {kept lost row : List α}

theorem length_eq (h : Interleaves kept lost row) : kept.length + lost.length = row.length := by
  induction h with
  | nil => rfl
  | left _ ih => rw [List.length_cons, List.length_cons, ← ih]; omega
  | right _ ih => rw [List.length_cons, List.length_cons, ← ih]; omega

end Interleaves

/-! ## Arguments -/

/-- Arguments are put together, in order, from those that are literals and those that are none. -/
theorem exists_kept (arguments : List String) :
    ∃ kept : List String,
      Interleaves kept (arguments.filter fun argument => (literal? argument).isNone) arguments ∧
        kept.map literal? = (arguments.filterMap literal?).map some := by
  induction arguments with
  | nil => exact ⟨[], Interleaves.nil, rfl⟩
  | cons argument arguments ih =>
    obtain ⟨kept, hinterleaves, hmap⟩ := ih
    cases hliteral : literal? argument with
    | some inside =>
      rw [List.filter_cons_of_neg (by simp [hliteral]), List.filterMap_cons_some hliteral]
      refine ⟨argument :: kept, Interleaves.left hinterleaves, ?_⟩
      rw [List.map_cons, List.map_cons, hliteral, hmap]
    | none =>
      rw [List.filter_cons_of_pos (by simp [hliteral]), List.filterMap_cons_none hliteral]
      exact ⟨kept, Interleaves.right hinterleaves, hmap⟩

/-! ## Records -/

/-- A text that is shown from end to end has nothing that a terminal would obey. -/
theorem plain_of_shown {text : String} (h : ∀ c ∈ text.toList, Text.Terminal.isShown c = true) :
    Text.Terminal.plain text = text := by
  rw [Text.Terminal.plain, Text.Terminal.strip_text_of_shown h, String.ofList_toList]

theorem line_reading (source : String) :
    (Event.reading source).line =
      Text.Terminal.plain ("[DEBUG] reading " ++ source ++ "\n") := by
  have hfront : "[" ++ "DEBUG" ++ "] " ++ "reading " = "[DEBUG] reading " := by decide
  change Text.Terminal.plain ("[" ++ "DEBUG" ++ "] " ++ ("reading " ++ source) ++ "\n") = _
  rw [← String.append_assoc, hfront]

theorem line_kept (count : Nat) (call : String) :
    (Event.kept count call).line =
      Text.Terminal.plain
        ("[DEBUG] kept " ++ Nat.repr count ++ " " ++ call ++ "(...) literal(s)\n") := by
  have hfront : "[" ++ "DEBUG" ++ "] " ++ "kept " = "[DEBUG] kept " := by decide
  have hback : "(...) literal(s)" ++ "\n" = "(...) literal(s)\n" := by decide
  change Text.Terminal.plain ("[" ++ "DEBUG" ++ "] " ++
    ("kept " ++ Nat.repr count ++ " " ++ call ++ "(...) literal(s)") ++ "\n") = _
  rw [← hfront, ← hback]
  simp only [String.append_assoc]

/-- The record of an argument that is dropped shows all of it. -/
theorem line_dropping (argument : String) :
    (Event.dropping argument).line =
      "[TRACE] dropping non-literal argument " ++ Text.quote argument ++ "\n" := by
  have hwords :
      "[TRACE] dropping non-literal argument ".toList.all Text.Terminal.isShown = true := by
    decide
  have hend : "\n".toList.all Text.Terminal.isShown = true := by decide
  have hfront : "[" ++ "TRACE" ++ "] " ++ "dropping non-literal argument " =
      "[TRACE] dropping non-literal argument " := by decide
  change Text.Terminal.plain ("[" ++ "TRACE" ++ "] " ++
    ("dropping non-literal argument " ++ Text.quote argument) ++ "\n") = _
  rw [← String.append_assoc, hfront, plain_of_shown]
  intro c hc
  rw [String.toList_append, String.toList_append, List.mem_append, List.mem_append] at hc
  rcases hc with (hc | hc) | hc
  · exact List.all_eq_true.1 hwords c hc
  · exact Text.isShown_of_mem_quote hc
  · exact List.all_eq_true.1 hend c hc

/-! ## The account -/

/-- Where single steps are asked for, all events are shown, and there is no warning. -/
theorem messages_of_trace {s : Surroundings} {words : List String} {result : Except Nat Unit}
    {effects : List Effect} (h : Course s words result effects)
    (htrace : s.traceSpec = some "trace") :
    (run s words).messages = shownBy (fun _ => true) effects := by
  have hread : Trace.Filter.read (some "trace") = (⟨[⟨none, some .trace⟩], []⟩, []) := by
    decide +kernel
  have hshows : (⟨[⟨none, some .trace⟩], []⟩ : Trace.Filter).shows = fun _ => true := by
    funext event
    have hword : Trace.occurs [] event.message.toList = true := by
      cases event.message.toList <;> rfl
    cases event <;> simp [Trace.Filter.shows, Trace.Rule.applies, Trace.Rule.shows, Event.level,
      Level.rank, hword]
  rw [h.run_eq, htrace, hread, hshows]
  simp

/-- A run that ends well and shows all events comes to the program of its source, and what is shown
are the events of reading and compiling the source, and no fault. -/
theorem output_and_messages_of_trace {s : Surroundings} {words : List String}
    {config : Option String} {settings : Settings} {source text : String}
    (hparse : CommandLine.parse words = .ok (.compile (some source) config))
    (hconfigured : Configured s config settings) (hread : s.read source = .ok text)
    (htrace : s.traceSpec = some "trace") (hexit : (run s words).exitCode = 0) :
    (run s words).output = compile settings text ∧
      (run s words).messages =
        String.join ((.reading source :: compileEvents settings text).map Event.line) := by
  -- A run whose output is refused does not end well.
  have hrefusal : s.refusal = none := by
    obtain ⟨result, effects, hends⟩ := exists_ends s (some source) config
    rw [(hends.seen hparse).1] at hexit
    obtain ⟨-, -, -, hrefusal⟩ := hends.of_exitCode_eq_zero hexit
    exact hrefusal
  have hends := Ends.written hconfigured hread hrefusal
  refine ⟨by simpa using (hends.seen hparse).2.1, ?_⟩
  rw [messages_of_trace (Course.compiled hparse hends) htrace, shownBy_append, shownBy_records]
  simp

/-- A run that ends well and shows all events shows that the source is read, then each argument of
its normal form that is no literal, then how many lines the program prints. Their number and that of
the arguments shown make up all arguments. These are put together, in order, from the ones shown and
from ones whose literals are what the program prints. The path and the name of the call are shown
without what a terminal obeys, so a line stands as it is if it has no control in it. No two
arguments are shown alike. -/
theorem messages_account_for_arguments {s : Surroundings} {words : List String}
    {config : Option String} {settings : Settings} {source text : String}
    (hparse : CommandLine.parse words = .ok (.compile (some source) config))
    (hconfigured : Configured s config settings) (hread : s.read source = .ok text)
    (htrace : s.traceSpec = some "trace") (hexit : (run s words).exitCode = 0) :
    (∃ kept lost : List String,
      (run s words).messages =
        Text.Terminal.plain ("[DEBUG] reading " ++ source ++ "\n") ++
          String.join (lost.map fun argument =>
            "[TRACE] dropping non-literal argument " ++ Text.quote argument ++ "\n") ++
          Text.Terminal.plain
            ("[DEBUG] kept " ++ Nat.repr ((Text.lines (run s words).output).countP isPrintLine) ++
              " " ++ settings.call ++ "(...) literal(s)\n") ∧
      lost = (arguments settings.call (normalize text)).filter
        (fun argument => (literal? argument).isNone) ∧
      (Text.lines (run s words).output).countP isPrintLine + lost.length =
        (arguments settings.call (normalize text)).length ∧
      Interleaves kept lost (arguments settings.call (normalize text)) ∧
      kept.map literal? = (Program.decode (run s words).output).1.map some) ∧
    (∀ line : String, (∀ c ∈ line.toList, (' ' ≤ c ∧ c ≠ '\x7f') ∨ c = '\n') →
      Text.Terminal.plain line = line) ∧
    ∀ argument argument', Text.quote argument = Text.quote argument' → argument = argument' := by
  obtain ⟨houtput, hmessages⟩ := output_and_messages_of_trace hparse hconfigured hread htrace hexit
  obtain ⟨kept, hinterleaves, hkept⟩ := exists_kept (arguments settings.call (normalize text))
  have hcount : (Text.lines (run s words).output).countP isPrintLine =
      (directives settings.call (normalize text)).length := by
    rw [houtput, countP_isPrintLine_compile]
  have hlength : kept.length = (directives settings.call (normalize text)).length := by
    simpa [directives] using congrArg List.length hkept
  refine ⟨⟨kept, _, ?_, rfl, ?_, hinterleaves, ?_⟩, ?_, fun _ _ => Text.quote_injective⟩
  · rw [hmessages, hcount, compileEvents, List.map_cons, List.map_append, List.map_map,
      line_reading]
    simp only [Function.comp_def, line_dropping, List.map_cons, List.map_nil, line_kept]
    simp [String.append_assoc]
  · rw [hcount, ← hlength]
    exact hinterleaves.length_eq
  · rw [houtput, decode_compile, directives, hkept]
  · intro line hline
    apply plain_of_shown
    intro c hc
    rcases hline c hc with ⟨hspace, hdelete⟩ | rfl
    · simp [Text.Terminal.isShown, hspace, hdelete]
    · rfl

/-- Of three arguments the second is no literal, and its tab is shown as an escape. -/
theorem messages_account_for_arguments_of_tab :
    CommandLine.parse ["a.go"] = .ok (.compile (some "a.go") none) ∧
      (run ⟨fun _ => .ok "Println(\"a\") Println(x\t)\rPrintln(\"b\")", none, some "trace"⟩
        ["a.go"]).exitCode = 0 ∧
      (run ⟨fun _ => .ok "Println(\"a\") Println(x\t)\rPrintln(\"b\")", none, some "trace"⟩
        ["a.go"]).messages =
        "[DEBUG] reading a.go\n[TRACE] dropping non-literal argument \"x\\t\"\n" ++
          "[DEBUG] kept 2 Println(...) literal(s)\n" := by
  have hparse : CommandLine.parse ["a.go"] = .ok (.compile (some "a.go") none) := by decide
  have hexit : (run ⟨fun _ => .ok "Println(\"a\") Println(x\t)\rPrintln(\"b\")", none,
      some "trace"⟩ ["a.go"]).exitCode = 0 := by decide +kernel
  have harguments : arguments "Println" (normalize "Println(\"a\") Println(x\t)\rPrintln(\"b\")") =
      ["\"a\"", "x\t", "\"b\""] := by decide +kernel
  obtain ⟨⟨kept, lost, hmessages, hlost, hcount, -⟩, -⟩ :=
    messages_account_for_arguments hparse Configured.defaults rfl rfl hexit
  change lost = (arguments "Println" (normalize _)).filter _ at hlost
  change _ = (arguments "Println" (normalize _)).length at hcount
  rw [harguments] at hlost hcount
  have hdropped : lost = ["x\t"] := hlost.trans (by decide +kernel)
  rw [hdropped] at hmessages hcount
  refine ⟨hparse, hexit, hmessages.trans ?_⟩
  rw [Nat.eq_sub_of_add_eq hcount]
  decide +kernel

end Printout
