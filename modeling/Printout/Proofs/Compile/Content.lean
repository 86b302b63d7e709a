import Printout.Directive
import Printout.Proofs.Call.Viable
import Printout.Proofs.Literal
import Printout.Proofs.Program.Reading
import Printout.Proofs.Text.LineEnd

/-!
# What directives hold

A directive is the inside of an argument, and an argument holds characters of its text, but neither
a closing parenthesis nor a line feed. In a text of normal form there is no carriage return to take
either. So every directive stays on the line on which it is printed, whatever the call is
(`oneLiners_ofText`).
-/

set_option autoImplicit false

namespace Printout

variable {call text directive : String} {settings : Settings}

/-- The directives are what `Call.arguments` finds, less what is no literal. -/
theorem directives_eq_map (call text : String) :
    directives call text =
      ((Call.arguments call.toList text.toList).filterMap unquote?).map String.ofList := by
  rw [directives, arguments, List.filterMap_map, List.map_filterMap]
  apply List.filterMap_congr
  intro argument _
  simp [literal?]

theorem toList_normalize (text : String) :
    (normalize text).toList = Text.normalize text.toList := String.toList_ofList

/-- Of a directive `IsArgument` holds, and all its characters are those of the text. -/
theorem isArgument_of_mem_directives (h : directive ∈ directives call text) :
    Call.IsArgument directive.toList ∧ directive.toList ⊆ text.toList := by
  rw [directives_eq_map, List.mem_map] at h
  obtain ⟨inside, hinside, rfl⟩ := h
  obtain ⟨argument, hmem, hargument⟩ := List.mem_filterMap.1 hinside
  obtain ⟨⟨hclose, hline⟩, htext⟩ := Call.isArgument_and_subset_of_mem_scan hmem
  have hsub := subset_of_unquote? hargument
  rw [String.toList_ofList]
  refine ⟨⟨?_, ?_⟩, List.Subset.trans hsub htext⟩
  · intro h
    exact hclose (hsub h)
  · intro h
    exact hline (hsub h)

/-- After `normalize` no `directive` holds a carriage return. -/
theorem return_notMem_of_mem_directives (h : directive ∈ directives call (normalize text)) :
    '\r' ∉ directive.toList := by
  intro hreturn
  have hmem := (isArgument_of_mem_directives h).2 hreturn
  rw [toList_normalize] at hmem
  exact Text.return_notMem_normalize _ hmem

theorem oneLiners_ofText (settings : Settings) (text : String) :
    (Program.ofText settings text).OneLiners := by
  intro directive hmem
  rw [Program.ofText, Program.print_mem_ofDirectives] at hmem
  exact (isArgument_of_mem_directives hmem).1.2

end Printout
