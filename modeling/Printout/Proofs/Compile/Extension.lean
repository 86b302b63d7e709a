import Printout.Proofs.Call.Extension
import Printout.Proofs.Compile.Content

/-!
# Output only grows

A text that is read further yields the directives of its beginning first, so a program that was
written for the beginning is, up to its wait, a beginning of the program for the whole
(`compile_append`). The cut may fall anywhere. A call that is open at the cut, and a carriage return
whose line feed is still to come, make no difference to what was found before.
-/

set_option autoImplicit false

namespace Printout

/-- The directives of `text` come first where `more` stands behind it. -/
theorem directives_prefix_append (call text more : String) :
    directives call (normalize text) <+: directives call (normalize (text ++ more)) := by
  obtain ⟨behind, hbehind⟩ := Text.normalize_prefix_append text.toList more.toList
  rw [directives_eq_map, directives_eq_map, toList_normalize, toList_normalize,
    String.toList_append, ← hbehind]
  apply List.IsPrefix.map
  apply List.IsPrefix.filterMap
  exact Call.scan_prefix_append _ _ _

/-- With `waitInput`, the output has one more line at its end. -/
theorem compile_wait (call text : String) :
    compile ⟨call, true⟩ text = compile ⟨call, false⟩ text ++ "  wait-input\n" := by
  have hofText : Program.ofText ⟨call, true⟩ text =
      Program.ofText ⟨call, false⟩ text ++ [Node.waitInput] := by
    simp [Program.ofText, Program.ofDirectives]
  rw [compile, hofText, Program.render_append]
  rfl

/-- Directives of `later` that are not in `found` go out behind those that are. -/
theorem render_prefix_of_directives_prefix {found later : List String} (h : found <+: later) :
    ∃ behind, (Program.ofDirectives later false).render =
      (Program.ofDirectives found false).render ++ behind := by
  obtain ⟨more, rfl⟩ := h
  have happend : Program.ofDirectives (found ++ more) false =
      Program.ofDirectives found false ++ more.map Node.print := by
    simp [Program.ofDirectives]
  rw [happend, Program.render_append]
  exact ⟨_, rfl⟩

/-- What is compiled from `text` stands, up to its wait, at the beginning of what is compiled from
`text ++ more`, for every `call` and every cut. -/
theorem compile_append (call text more : String) :
    directives call (normalize text) <+: directives call (normalize (text ++ more)) ∧
      ∃ behind,
        compile ⟨call, false⟩ (text ++ more) = compile ⟨call, false⟩ text ++ behind ∧
        compile ⟨call, true⟩ text = compile ⟨call, false⟩ text ++ "  wait-input\n" ∧
        compile ⟨call, true⟩ (text ++ more) =
          compile ⟨call, false⟩ text ++ behind ++ "  wait-input\n" := by
  have hdirectives := directives_prefix_append call text more
  obtain ⟨behind, hbehind⟩ := render_prefix_of_directives_prefix hdirectives
  have hcompile : compile ⟨call, false⟩ (text ++ more) = compile ⟨call, false⟩ text ++ behind :=
    hbehind
  refine ⟨hdirectives, behind, hcompile, compile_wait call text, ?_⟩
  rw [compile_wait, hcompile]

end Printout
