import Printout.Proofs.Call.Line
import Printout.Proofs.Compile.Content

/-!
# Every line by itself

If the name of a call stays on its line, the directives of a text are those of its lines, in order,
where a line is a piece between two carriage returns or line feeds, read as it stands
(`directives_normalize_eq_flatMap_pieces`). So what ends a line and how many lines are blank makes
no difference to the output, and no line makes a difference to what is found on another.
-/

set_option autoImplicit false

namespace Printout

variable {call front text lineEnd : String}

/-- The pieces of a text between its carriage returns and line feeds. -/
def pieces (text : String) : List String := (Text.pieces text.toList).map String.ofList

/-- The ways to end a line. -/
def lineEnds : List String := ["\r", "\n", "\r\n"]

/-- Whether `line` shows nothing. -/
def isBlankLine (line : String) : Bool := line.toList.all Text.isBlank

/-! ## Directives of the pieces -/

theorem directives_empty (call : String) : directives call "" = [] := by
  rw [directives_eq_map, String.toList_empty, Call.arguments, Call.scan_nil]
  rfl

/-- No call is opened on a blank `line`. -/
theorem directives_of_isBlankLine {line : String} (h : isBlankLine line = true) :
    directives call line = [] := by
  have hopen : '(' ∉ line.toList := by
    intro hmem
    exact absurd (List.all_eq_true.1 h _ hmem) (by decide)
  rw [directives_eq_map, Call.arguments, Call.scan_of_open_notMem _ hopen]
  rfl

/-- The directives of `text` are those of its `pieces`, each read by itself. -/
theorem directives_normalize (hline : '\n' ∉ call.toList) (text : String) :
    directives call (normalize text) = (pieces text).flatMap (directives call) := by
  have hopening : '\n' ∉ Call.opening call.toList := by
    simp [Call.opening, hline]
  rw [directives_eq_map, toList_normalize, Call.arguments,
    Call.scan_normalize_eq_flatMap hopening, pieces, List.flatMap_map, List.filterMap_flatMap,
    List.map_flatMap]
  simp [directives_eq_map, Call.arguments]

/-! ## Pieces of joined texts -/

/-- A `lineEnd` that is a pair has an empty piece between its two characters. -/
theorem flatMap_pieces_append {α : Type} {f : String → List α} (hempty : f "" = [])
    (hlineEnd : lineEnd ∈ lineEnds) (front text : String) :
    (pieces (front ++ lineEnd ++ text)).flatMap f =
      (pieces front).flatMap f ++ (pieces text).flatMap f := by
  have hreturn : Text.isLineEnd '\r' = true := by decide
  have hnewline : Text.isLineEnd '\n' = true := by decide
  have hnone : f (String.ofList []) = [] := hempty
  simp only [lineEnds, List.mem_cons, List.not_mem_nil, or_false] at hlineEnd
  rcases hlineEnd with rfl | rfl | rfl
  · have hwhole : (front ++ "\r" ++ text).toList = front.toList ++ '\r' :: text.toList := by simp
    rw [pieces, hwhole, Text.pieces_append_cons hreturn, List.map_append, List.flatMap_append]
    rfl
  · have hwhole : (front ++ "\n" ++ text).toList = front.toList ++ '\n' :: text.toList := by simp
    rw [pieces, hwhole, Text.pieces_append_cons hnewline, List.map_append, List.flatMap_append]
    rfl
  · have hwhole : (front ++ "\r\n" ++ text).toList =
        front.toList ++ '\r' :: ([] ++ '\n' :: text.toList) := by simp
    rw [pieces, hwhole, Text.pieces_append_cons hreturn, Text.pieces_append_cons hnewline,
      Text.pieces_nil, List.map_append, List.map_append, List.map_singleton, List.flatMap_append,
      List.flatMap_append, List.flatMap_singleton, hnone, List.nil_append]
    rfl

/-- The items that `f` gives nothing for can be left out. -/
theorem flatMap_filter_of_forall {α β : Type} {p : α → Bool} {f : α → List β} {items : List α}
    (h : ∀ item ∈ items, p item = false → f item = []) :
    (items.filter p).flatMap f = items.flatMap f := by
  induction items with
  | nil => rfl
  | cons item items ih =>
    have hrest := ih fun other hother => h other (List.mem_cons_of_mem item hother)
    cases hitem : p item with
    | true => rw [List.filter_cons_of_pos hitem, List.flatMap_cons, List.flatMap_cons, hrest]
    | false =>
      have hnil := h item List.mem_cons_self hitem
      rw [List.filter_cons_of_neg (by simp [hitem]), List.flatMap_cons, hrest, hnil,
        List.nil_append]

/-! ## Consequences for the output -/

/-- A `lineEnd` takes a text apart into two that are read by themselves. -/
theorem directives_normalize_append (hline : '\n' ∉ call.toList) (hlineEnd : lineEnd ∈ lineEnds)
    (front text : String) :
    directives call (normalize (front ++ lineEnd ++ text)) =
      directives call (normalize front) ++ directives call (normalize text) := by
  rw [directives_normalize hline, directives_normalize hline, directives_normalize hline,
    flatMap_pieces_append (directives_empty call) hlineEnd]

/-- Leaving out the lines of which `isBlankLine` holds takes away no directive. -/
theorem directives_normalize_filter (hline : '\n' ∉ call.toList) (text : String) :
    directives call (normalize text) =
      ((pieces text).filter fun line => !isBlankLine line).flatMap (directives call) := by
  rw [directives_normalize hline, flatMap_filter_of_forall]
  intro line _ hblank
  rw [Bool.not_eq_false'] at hblank
  exact directives_of_isBlankLine hblank

/-- The output of `compile` is fixed by the directives. -/
theorem compile_eq_of_directives {settings : Settings} {text text' : String}
    (h : directives settings.call (normalize text) = directives settings.call (normalize text')) :
    compile settings text = compile settings text' := by
  rw [compile, compile, Program.ofText, Program.ofText, h]

/-- Where the name stays on its line, a text compiles to the program of the directives of its
`pieces` between carriage returns and line feeds, each read as it stands. So a line end can be
replaced by any other, texts that differ in their blank lines only have the same output, and what
stands on a line, a call that is not closed there included, makes no difference to the lines before
and behind it. -/
theorem directives_normalize_eq_flatMap_pieces (settings : Settings)
    (hline : '\n' ∉ settings.call.toList) :
    (∀ text,
      Program.ofText settings text =
        .ofDirectives ((pieces text).flatMap (directives settings.call)) settings.waitInput ∧
      compile settings text =
        (Program.ofDirectives ((pieces text).flatMap (directives settings.call))
          settings.waitInput).render) ∧
    (∀ front text, ∀ lineEnd ∈ lineEnds, ∀ lineEnd' ∈ lineEnds,
      compile settings (front ++ lineEnd ++ text) =
        compile settings (front ++ lineEnd' ++ text)) ∧
    (∀ text text', ((pieces text).filter fun line => !isBlankLine line) =
        ((pieces text').filter fun line => !isBlankLine line) →
      compile settings text = compile settings text') ∧
    ∀ front line text, ∀ lineEnd ∈ lineEnds, ∀ lineEnd' ∈ lineEnds,
      directives settings.call (normalize (front ++ lineEnd ++ (line ++ lineEnd' ++ text))) =
        directives settings.call (normalize front) ++
          (directives settings.call (normalize line) ++
            directives settings.call (normalize text)) := by
  refine ⟨?_, ?_, ?_, ?_⟩
  · intro text
    have hprogram : Program.ofText settings text =
        .ofDirectives ((pieces text).flatMap (directives settings.call)) settings.waitInput := by
      rw [Program.ofText, directives_normalize hline]
    exact ⟨hprogram, congrArg Program.render hprogram⟩
  · intro front text lineEnd hlineEnd lineEnd' hlineEnd'
    apply compile_eq_of_directives
    rw [directives_normalize_append hline hlineEnd, directives_normalize_append hline hlineEnd']
  · intro text text' h
    apply compile_eq_of_directives
    rw [directives_normalize_filter hline, directives_normalize_filter hline, h]
  · intro front line text lineEnd hlineEnd lineEnd' hlineEnd'
    rw [directives_normalize_append hline hlineEnd, directives_normalize_append hline hlineEnd']

/-- A pair that is put in the place of a carriage return, a blank line that is taken out, and a call
that is open at the end of its line. -/
theorem compile_line_ends :
    '\n' ∉ "f)".toList ∧
      compile ⟨"f)", false⟩ "f)(\"a\"\rf)(\"b\")" = compile ⟨"f)", false⟩ "f)(\"a\"\r\nf)(\"b\")" ∧
      compile ⟨"f)", false⟩ "f)(\"a\"\r\nf)(\"b\")" =
        compile ⟨"f)", false⟩ "\nf)(\"a\"\n\t\r\rf)(\"b\")" ∧
      directives "f)" (normalize "f)(\"a\"\rf)(\"b\")\n") = ["b"] := by
  have hline : '\n' ∉ "f)".toList := by decide
  obtain ⟨-, hlineEnd, hblank, hopen⟩ := directives_normalize_eq_flatMap_pieces ⟨"f)", false⟩ hline
  refine ⟨hline, ?_, ?_, ?_⟩
  · exact hlineEnd "f)(\"a\"" "f)(\"b\")" "\r" (by decide) "\r\n" (by decide)
  · exact hblank _ _ (by decide)
  · refine (hopen "f)(\"a\"" "f)(\"b\")" "" "\r" (by decide) "\n" (by decide)).trans ?_
    decide +kernel

end Printout
