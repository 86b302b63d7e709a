import Printout.Proofs.Call.Line
import Printout.Proofs.Compile.Content

/-!
# Line endings chunk by chunk

A text may arrive in chunks that are cut anywhere. The reader of `readLines` takes them one after
the other, and between two of them it remembers only whether a carriage return came last. What it
puts out for the chunks is, put together, the normal form of the whole text (`flatten_readChunks`).

`Lined` says what the lines of a text are without any replacement: they stand between carriage
returns, line feeds and pairs of the two, and of a pair both characters belong to one line end.
Every text is divided so (`exists_lined`), and in one way only, for the lines are those of the
normal form (`normalize_eq_one_pass`). Where carriage returns and line feeds stand in a row, no line
end is lost and none is made.
-/

set_option autoImplicit false

namespace Printout

namespace Text

variable {text rest line lineEnd : List Char} {lines : List (List Char)}

/-! ## Chunks -/

/-- What the reader puts out for each of the chunks that it is given in turn. -/
def readChunks (afterReturn : Bool) : List (List Char) → List (List Char)
  | [] => []
  | chunk :: chunks =>
    readLines afterReturn chunk :: readChunks (endsInReturn afterReturn chunk) chunks

/-- The cuts between the chunks make no difference to what is put out. -/
theorem flatten_readChunks (afterReturn : Bool) (chunks : List (List Char)) :
    (readChunks afterReturn chunks).flatten = readLines afterReturn chunks.flatten := by
  induction chunks generalizing afterReturn with
  | nil => rfl
  | cons chunk chunks ih =>
    rw [readChunks, List.flatten_cons, List.flatten_cons, readLines_append, ih]

/-! ## Other characters -/

/-- The reader leaves out, adds and moves no character that ends no line. -/
theorem filter_readLines (afterReturn : Bool) (text : List Char) :
    (readLines afterReturn text).filter (fun c => !isLineEnd c) =
      text.filter fun c => !isLineEnd c := by
  induction text generalizing afterReturn with
  | nil => rfl
  | cons c text ih =>
    have hput : (putLine afterReturn c).filter (fun c => !isLineEnd c) =
        [c].filter fun c => !isLineEnd c := by
      rw [putLine]
      split
      · next hreturn => rw [hreturn]; rfl
      · split
        · next hnewline => rw [hnewline.2]; rfl
        · rfl
    rw [readLines, List.filter_append, hput, ih, ← List.filter_append, List.singleton_append]

/-- A text without a carriage return is left as it is. -/
theorem normalize_of_notMem (h : '\r' ∉ text) : normalize text = text := by
  have happend := normalize_append_of_notMem h []
  rwa [normalize_nil, List.append_nil] at happend

theorem normalize_normalize (text : List Char) : normalize (normalize text) = normalize text :=
  normalize_of_notMem (return_notMem_normalize text)

/-! ## Lines -/

/-- The ways to end a line before a rest. A carriage return ends it by itself only if it is no half
of a pair. -/
inductive EndsLine : List Char → List Char → Prop
  | pair (rest : List Char) : EndsLine ['\r', '\n'] rest
  | newline (rest : List Char) : EndsLine ['\n'] rest
  | carriageReturn {rest : List Char} : (∀ after, rest ≠ '\n' :: after) → EndsLine ['\r'] rest

/-- The lines of a text. The last one is what stands behind the last line end. -/
inductive Lined : List Char → List (List Char) → Prop
  | last {line : List Char} : (∀ c ∈ line, isLineEnd c = false) → Lined line [line]
  | ended {line lineEnd rest : List Char} {lines : List (List Char)} :
      (∀ c ∈ line, isLineEnd c = false) → EndsLine lineEnd rest → Lined rest lines →
        Lined (line ++ (lineEnd ++ rest)) (line :: lines)

/-- Every line end becomes one line feed. -/
theorem normalize_lineEnd (h : EndsLine lineEnd rest) :
    normalize (lineEnd ++ rest) = '\n' :: normalize rest := by
  cases h with
  | pair =>
    change (mergePairs ('\r' :: '\n' :: rest)).map endLine = _
    rw [mergePairs_pair]
    rfl
  | newline => exact normalize_append_of_notMem (by decide) rest
  | carriageReturn hrest =>
    change (mergePairs ('\r' :: rest)).map endLine = _
    rw [mergePairs_cons fun after _ => hrest after]
    rfl

theorem return_notMem_of_line (h : ∀ c ∈ line, isLineEnd c = false) : '\r' ∉ line := by
  intro hmem
  exact absurd (h _ hmem) (by decide)

theorem Lined.ne_nil (h : Lined text lines) : lines ≠ [] := by
  cases h <;> exact List.cons_ne_nil _ _

theorem Lined.newline_notMem (h : Lined text lines) : ∀ line ∈ lines, '\n' ∉ line := by
  induction h with
  | last hline =>
    intro line hmem hnewline
    rw [List.mem_singleton] at hmem
    exact absurd (hline _ (hmem ▸ hnewline)) (by decide)
  | ended hline _ _ ih =>
    intro line hmem hnewline
    rcases List.mem_cons.1 hmem with rfl | hmem
    · exact absurd (hline _ hnewline) (by decide)
    · exact ih line hmem hnewline

/-- The normal form joins the lines of a text by line feeds. -/
theorem Lined.normalize_eq (h : Lined text lines) : normalize text = ['\n'].intercalate lines := by
  induction h with
  | last hline =>
    rw [normalize_of_notMem (return_notMem_of_line hline), List.intercalate_singleton]
  | ended hline hend hrest ih =>
    rw [normalize_append_of_notMem (return_notMem_of_line hline), normalize_lineEnd hend, ih,
      List.intercalate_cons_of_ne_nil hrest.ne_nil, List.append_assoc, List.singleton_append]

/-- A character that ends no line belongs to the line that it stands before. -/
theorem Lined.cons {c : Char} (hc : isLineEnd c = false) (h : Lined text lines) :
    ∃ lines, Lined (c :: text) lines := by
  cases h with
  | last hline => exact ⟨_, Lined.last (List.forall_mem_cons.2 ⟨hc, hline⟩)⟩
  | ended hline hend hrest =>
    exact ⟨_, Lined.ended (List.forall_mem_cons.2 ⟨hc, hline⟩) hend hrest⟩

/-- Every text is divided into lines. -/
theorem exists_lined (text : List Char) : ∃ lines, Lined text lines := by
  have hempty : ∀ c ∈ ([] : List Char), isLineEnd c = false := by simp
  -- Two characters make up a line end exactly where they are merged.
  induction text using mergePairs.induct with
  | case1 rest ih =>
    obtain ⟨lines, hlines⟩ := ih
    exact ⟨[] :: lines, Lined.ended hempty (EndsLine.pair rest) hlines⟩
  | case2 c rest hpair ih =>
    obtain ⟨lines, hlines⟩ := ih
    by_cases hreturn : c = '\r'
    · subst hreturn
      have hend : EndsLine ['\r'] rest := EndsLine.carriageReturn fun after => hpair after rfl
      exact ⟨[] :: lines, Lined.ended hempty hend hlines⟩
    · by_cases hnewline : c = '\n'
      · subst hnewline
        exact ⟨[] :: lines, Lined.ended hempty (EndsLine.newline rest) hlines⟩
      · exact hlines.cons (by simp [isLineEnd, hreturn, hnewline])
  | case3 => exact ⟨[[]], Lined.last hempty⟩

end Text

/-! ## Texts -/

/-- The `lines` of a normal form are those that `Lined` says of the text. -/
theorem lines_normalize {text : String} {lines : List (List Char)}
    (h : Text.Lined text.toList lines) :
    Text.lines (normalize text) = lines.map String.ofList := by
  have hjoin : normalize text = (String.singleton '\n').intercalate (lines.map String.ofList) := by
    apply String.toList_injective
    rw [toList_normalize, h.normalize_eq]
    simp
  have hnewline : ∀ line ∈ lines.map String.ofList, '\n' ∉ line.toList := by
    simpa using h.newline_notMem
  rw [Text.lines, hjoin, String.toList_split_intercalate hnewline, if_neg (by simpa using h.ne_nil)]

/-- Making the line ends of a text equal is one reading from left to right, in which a carriage
return becomes a line feed, a line feed behind it is left out and all else is kept, and which may be
broken off and taken up again anywhere. So the result has no carriage return and does not change
again, its lines are just those of the text, and the characters that end no line are as they
were. -/
theorem normalize_eq_one_pass :
    (∀ chunks : List String,
      String.join ((Text.readChunks false (chunks.map String.toList)).map String.ofList) =
        normalize (String.join chunks)) ∧
    (∀ text, '\r' ∉ (normalize text).toList) ∧
    (∀ text, normalize (normalize text) = normalize text) ∧
    (∀ (text : String) (lines : List (List Char)), Text.Lined text.toList lines ↔
      Text.lines (normalize text) = lines.map String.ofList) ∧
    ∀ text, (normalize text).toList.filter (fun c => !Text.isLineEnd c) =
      text.toList.filter fun c => !Text.isLineEnd c := by
  refine ⟨?_, ?_, ?_, ?_, ?_⟩
  · intro chunks
    have hput (outputs : List (List Char)) :
        (String.join (outputs.map String.ofList)).toList = outputs.flatten := by
      simp [List.flatMap_map, List.flatMap_id']
    apply String.toList_injective
    rw [toList_normalize, hput, Text.flatten_readChunks, Text.normalize_eq_readLines,
      String.toList_join, List.flatMap_def]
  · intro text
    rw [toList_normalize]
    exact Text.return_notMem_normalize _
  · intro text
    apply String.toList_injective
    rw [toList_normalize, toList_normalize, Text.normalize_normalize]
  · intro text lines
    refine ⟨lines_normalize, ?_⟩
    intro h
    obtain ⟨lines', hlines'⟩ := Text.exists_lined text.toList
    have hsame := h.symm.trans (lines_normalize hlines')
    rw [List.map_injective_iff.2 (fun _ _ => String.ofList_inj.1) hsame]
    exact hlines'
  · intro text
    rw [toList_normalize, Text.normalize_eq_readLines, Text.filter_readLines]

/-- A cut between the two characters of a pair, and line ends in a row. -/
example :
    Text.readChunks false ["a\r".toList, "\nb\r\r".toList, "\n\n\rc".toList] =
      ["a\n".toList, "b\n\n".toList, "\n\nc".toList] := by
  decide

end Printout
