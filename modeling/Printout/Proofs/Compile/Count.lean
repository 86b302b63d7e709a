import Printout.Proofs.Call.Occurrence
import Printout.Proofs.Compile.Reading

/-!
# How many directives a text has

The arguments that are found in a text belong to some of the calls that stand in it, and the
directives to some of those whose arguments are literals (`arguments_among_occurrences`). Nothing is
left out exactly if no two calls overlap. Then the lines of the output that print something can be
counted on the text: there is one for each call that has a literal for its argument.
-/

set_option autoImplicit false

namespace Printout

/-- The argument of `o` as a text. -/
def Call.Occurrence.text (o : Call.Occurrence) : String := String.ofList o.argument

/-- The occurrences of `call` in `text`, overlapping or not, in order. -/
def occurrences (call text : String) : List Call.Occurrence :=
  Call.occurrences (Call.opening call.toList) text.toList

/-- No two occurrences of `call` overlap in `text`. -/
def Apart (call text : String) : Prop :=
  ∀ o ∈ occurrences call text, ∀ o' ∈ occurrences call text,
    o ≠ o' → ¬ Call.Occurrence.Overlaps (Call.opening call.toList) o o'

instance (call text : String) : Decidable (Apart call text) :=
  inferInstanceAs (Decidable (∀ o ∈ _, ∀ o' ∈ _, o ≠ o' → ¬ Call.Occurrence.Overlaps _ o o'))

/-- Whether `line` prints something. -/
def isPrintLine (line : String) : Bool := "  print \"".toList.isPrefixOf line.toList

variable {call text : String}

/-! ## Calls and arguments -/

/-- The arguments of the calls of a `Leftmost` layout are those that are found. -/
theorem map_text_calls {layout : Call.Layout}
    (h : layout.Leftmost (Call.opening call.toList) text.toList) :
    (layout.calls (Call.opening call.toList)).map Call.Occurrence.text = arguments call text := by
  obtain ⟨layout', hleft, harguments⟩ :=
    Call.Layout.exists_leftmost (Call.opening call.toList) text.toList
  obtain rfl : layout = layout' := h.unique hleft
  rw [arguments, Call.arguments, ← harguments,
    ← Call.Layout.map_argument_calls layout (Call.opening call.toList), List.map_map]
  rfl

/-- The `arguments` that are found belong to some of all `occurrences`. -/
theorem arguments_sublist_occurrences (call text : String) :
    (arguments call text).Sublist ((occurrences call text).map Call.Occurrence.text) := by
  obtain ⟨layout, hleft, -⟩ :=
    Call.Layout.exists_leftmost (Call.opening call.toList) text.toList
  rw [← map_text_calls hleft]
  exact hleft.calls_sublist.map _

/-- All `occurrences` are found exactly if no two of them overlap. -/
theorem arguments_eq_map_occurrences_iff :
    arguments call text = (occurrences call text).map Call.Occurrence.text ↔ Apart call text := by
  obtain ⟨layout, hleft, harguments⟩ :=
    Call.Layout.exists_leftmost (Call.opening call.toList) text.toList
  have htexts : (occurrences call text).map Call.Occurrence.text =
      ((occurrences call text).map Call.Occurrence.argument).map String.ofList := by
    rw [List.map_map]
    rfl
  rw [Apart, occurrences, ← hleft.arguments_eq_iff, harguments]
  rw [arguments, ← occurrences, htexts, Call.arguments]
  constructor
  · intro h
    exact List.map_injective_iff.2 (fun _ _ => String.ofList_inj.1) h
  · intro h
    rw [h]

/-- The `directives` belong to some of all `occurrences` whose arguments are literals. -/
theorem directives_sublist_occurrences (call text : String) :
    (directives call text).Sublist
      ((occurrences call text).filterMap fun o => literal? o.text) := by
  have h := (arguments_sublist_occurrences call text).filterMap literal?
  rwa [List.filterMap_map] at h

/-! ## Counting -/

/-- The output of `compile` has one line that prints something for each directive. -/
theorem countP_isPrintLine_compile (settings : Settings) (text : String) :
    (Text.lines (compile settings text)).countP isPrintLine =
      (directives settings.call (normalize text)).length := by
  have hprint (directive : String) : isPrintLine ("  print \"" ++ directive ++ "\"") = true := by
    simp [isPrintLine]
  have hprints (found : List String) :
      (found.map fun d => "  print \"" ++ d ++ "\"").countP isPrintLine = found.length := by
    rw [List.countP_map, List.countP_eq_length]
    intro directive _
    exact hprint directive
  have hheader : isPrintLine "program:" = false := by decide
  have hwait : (if settings.waitInput then ["  wait-input"] else []).countP isPrintLine = 0 := by
    cases settings.waitInput <;> decide
  have hrest : [""].countP isPrintLine = 0 := by decide
  rw [lines_compile, List.countP_append, List.cons_append, List.countP_cons, hheader,
    List.countP_append, hprints, hwait, hrest]
  simp

/-- Where the calls stand `Apart` there are as many directives as calls with a literal. -/
theorem length_directives_of_apart (h : Apart call text) :
    (directives call text).length =
      (occurrences call text).countP fun o => (literal? o.text).isSome := by
  rw [directives, arguments_eq_map_occurrences_iff.2 h, List.filterMap_map,
    List.length_filterMap_eq_countP]
  rfl

/-- The list of all `occurrences` of `call` in `text` against what is found in it. The list has each
of them once, in order. The calls that are found are some of them, each at its place, the
`directives` are some of the insides of their literals, and everything is found exactly if no two
calls overlap. In that case there are as many directives as calls with literals, and the output of
`compile` prints as many lines as the text it is made from has such calls. -/
theorem arguments_among_occurrences (call text : String) :
    ((occurrences call text).Pairwise fun o o' => o.place < o'.place) ∧
    (∀ o, o ∈ occurrences call text ↔ o.StandsIn (call.toList ++ ['(']) text.toList) ∧
    (∃ layout : Call.Layout, layout.Leftmost (call.toList ++ ['(']) text.toList ∧
      (layout.calls (call.toList ++ ['('])).map Call.Occurrence.text = arguments call text ∧
      (layout.calls (call.toList ++ ['('])).Sublist (occurrences call text)) ∧
    (directives call text).Sublist
      ((occurrences call text).filterMap fun o => literal? o.text) ∧
    (arguments call text = (occurrences call text).map Call.Occurrence.text ↔ Apart call text) ∧
    (Apart call text → (directives call text).length =
      (occurrences call text).countP fun o => (literal? o.text).isSome) ∧
    ∀ wait, Apart call (normalize text) →
      (Text.lines (compile ⟨call, wait⟩ text)).countP isPrintLine =
        (occurrences call (normalize text)).countP fun o => (literal? o.text).isSome := by
  refine ⟨Call.pairwise_before_occurrences _ _, fun o => Call.mem_occurrences_iff, ?_,
    directives_sublist_occurrences call text, arguments_eq_map_occurrences_iff,
    length_directives_of_apart, ?_⟩
  · obtain ⟨layout, hleft, -⟩ :=
      Call.Layout.exists_leftmost (Call.opening call.toList) text.toList
    exact ⟨layout, hleft, map_text_calls hleft, hleft.calls_sublist⟩
  · intro wait hapart
    rw [countP_isPrintLine_compile, length_directives_of_apart hapart]

/-- Three calls on two lines, two of them with literals, are all found. Where a call begins within
what opens another, not all are. -/
theorem arguments_among_occurrences_of_apart :
    Apart "ff" (normalize "ff(\"a\") ff(x)\rff(\"\")") ∧
      (Text.lines (compile ⟨"ff", true⟩ "ff(\"a\") ff(x)\rff(\"\")")).countP isPrintLine = 2 ∧
      ¬ Apart "(f" "(f(f(\"a\")" ∧
      arguments "(f" "(f(f(\"a\")" ≠
        (occurrences "(f" "(f(f(\"a\")").map Call.Occurrence.text := by
  have hapart : Apart "ff" (normalize "ff(\"a\") ff(x)\rff(\"\")") := by decide +kernel
  have hoverlap : ¬ Apart "(f" "(f(f(\"a\")" := by decide +kernel
  obtain ⟨-, -, -, -, -, -, hcount⟩ := arguments_among_occurrences "ff" "ff(\"a\") ff(x)\rff(\"\")"
  obtain ⟨-, -, -, -, hall, -, -⟩ := arguments_among_occurrences "(f" "(f(f(\"a\")"
  refine ⟨hapart, ?_, hoverlap, ?_⟩
  · rw [hcount true hapart]
    decide +kernel
  · intro h
    exact hoverlap (hall.1 h)

end Printout
