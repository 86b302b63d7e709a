import Printout.Proofs.Call.Viable
import Printout.Proofs.Text.LineEnd

/-!
# The search line by line

An argument stays on its line. If what opens a call does so too, a call lies within one line, and
the search through a text finds what it finds in each line by itself (`scan_append_newline`). It
makes no difference then how the lines of a text end: each carriage return and each line feed may
count as a line end of its own, for between the two of a pair stands an empty line
(`scan_normalize`).
-/

set_option autoImplicit false

namespace Printout

/-! ## Pieces -/

namespace Text

/-- Whether `c` ends a line, by itself or together with another. -/
def isLineEnd (c : Char) : Bool := c == '\r' || c == '\n'

/-- The pieces of `text` between its carriage returns and line feeds. -/
def pieces (text : List Char) : List (List Char) := text.splitOnP isLineEnd

@[simp] theorem pieces_nil : pieces [] = [[]] := rfl

/-- A text without line ends is the only one of its `pieces`. -/
theorem pieces_of_forall_not {text : List Char} (h : ∀ c ∈ text, isLineEnd c = false) :
    pieces text = [text] :=
  List.splitOnP_eq_singleton h

theorem pieces_append_cons {c : Char} (hc : isLineEnd c = true) (text more : List Char) :
    pieces (text ++ c :: more) = pieces text ++ pieces more :=
  List.splitOnP_append_cons text more hc

theorem endLine_of_isLineEnd {c : Char} (hc : isLineEnd c = true) : endLine c = '\n' := by
  simp only [isLineEnd, Bool.or_eq_true, beq_iff_eq] at hc
  rcases hc with rfl | rfl <;> rfl

theorem endLine_of_not_isLineEnd {c : Char} (hc : isLineEnd c = false) : endLine c = c := by
  have hreturn : c ≠ '\r' := by
    rintro rfl
    exact absurd hc (by decide)
  exact if_neg hreturn

end Text

namespace Call

variable {start text front : List Char}

/-! ## Calls and line ends -/

/-- A call that stands before a line feed does so without what follows it. -/
theorem Starts.of_append_newline (hline : '\n' ∉ start)
    (h : Starts start (front ++ '\n' :: text)) : Starts start front := by
  obtain ⟨argument, rest, heq, hargument⟩ := h
  have hcall : start ++ argument ++ [')'] <+: front ++ '\n' :: text := ⟨rest, by rw [heq]; simp⟩
  rcases Nat.lt_or_ge front.length (start ++ argument ++ [')']).length with hlong | hshort
  · -- A longer call would hold the line feed.
    have hfront : front ++ ['\n'] <+: start ++ argument ++ [')'] := by
      refine List.prefix_of_prefix_length_le ⟨text, by simp⟩ hcall ?_
      rw [List.length_append, List.length_singleton]
      exact hlong
    have hmem : '\n' ∈ start ++ argument ++ [')'] := hfront.mem (by simp)
    simp only [List.mem_append, List.mem_singleton, hline, hargument.2, false_or] at hmem
    exact absurd hmem (by decide)
  · obtain ⟨behind, hbehind⟩ :=
      List.prefix_of_prefix_length_le hcall (List.prefix_append front _) hshort
    exact ⟨argument, behind, by rw [← hbehind]; simp, hargument⟩

/-- In two texts with a line feed between them `scan` finds what it finds in each. -/
theorem scan_append_newline (hline : '\n' ∉ start) (front text : List Char) :
    scan start (front ++ '\n' :: text) = scan start front ++ scan start text := by
  induction front using scan.induct start with
  | case1 front argument rest hcall ih =>
    obtain ⟨rfl, hargument⟩ := atStart?_eq_some_iff.1 hcall
    have hwhole : start ++ (argument ++ ')' :: rest) ++ '\n' :: text =
        start ++ (argument ++ ')' :: (rest ++ '\n' :: text)) := by simp
    rw [hwhole, scan_call hargument, scan_call hargument, ih, List.cons_append]
  | case2 hnone =>
    have hstart : ¬ Starts start ('\n' :: text) := by
      rw [← List.nil_append ('\n' :: text)]
      exact fun h => not_starts_nil (Starts.of_append_newline hline h)
    rw [List.nil_append, scan_cons hstart, scan_nil, List.nil_append]
  | case3 c front hnone ih =>
    have hstart := not_starts_iff.2 hnone
    have hstart' : ¬ Starts start (c :: (front ++ '\n' :: text)) := by
      rw [← List.cons_append]
      exact fun h => hstart (Starts.of_append_newline hline h)
    rw [List.cons_append, scan_cons hstart', scan_cons hstart, ih]

/-! ## Line ends of every kind -/

/-- A line feed that ends a line of its own makes no difference to `scan`, so neither does it that
`Text.normalize` merges pairs. -/
theorem scan_normalize (hline : '\n' ∉ start) (text : List Char) :
    scan start (Text.normalize text) = scan start (text.map Text.endLine) := by
  -- What stands in front may open a call that goes on behind it, so it is carried along.
  suffices h : ∀ front, scan start (front ++ Text.normalize text) =
      scan start (front ++ text.map Text.endLine) from h []
  unfold Text.normalize
  induction text using Text.mergePairs.induct with
  | case1 rest ih =>
    intro front
    have hempty : scan start ('\n' :: rest.map Text.endLine) =
        scan start (rest.map Text.endLine) := by
      simpa using scan_append_newline hline [] (rest.map Text.endLine)
    have hrest := ih []
    rw [List.nil_append, List.nil_append] at hrest
    rw [Text.mergePairs_pair]
    change scan start (front ++ '\n' :: (Text.mergePairs rest).map Text.endLine) =
      scan start (front ++ '\n' :: '\n' :: rest.map Text.endLine)
    rw [scan_append_newline hline, scan_append_newline hline, hempty, hrest]
  | case2 c rest hpair ih =>
    intro front
    rw [Text.mergePairs_cons hpair]
    simpa using ih (front ++ [Text.endLine c])
  | case3 => exact fun _ => rfl

/-- In a text of normal form `scan` finds what it finds in each of the `Text.pieces`. -/
theorem scan_normalize_eq_flatMap (hline : '\n' ∉ start) (text : List Char) :
    scan start (Text.normalize text) = (Text.pieces text).flatMap (scan start) := by
  -- The line that the reader is on is carried along, since the text may end within it.
  suffices h : ∀ line, (∀ c ∈ line, Text.isLineEnd c = false) →
      scan start (line ++ text.map Text.endLine) =
        (Text.pieces (line ++ text)).flatMap (scan start) by
    rw [scan_normalize hline]
    exact h [] (by simp)
  induction text with
  | nil =>
    intro line hfree
    rw [List.map_nil, List.append_nil, Text.pieces_of_forall_not hfree, List.flatMap_singleton]
  | cons c text ih =>
    intro line hfree
    rw [List.map_cons]
    cases hc : Text.isLineEnd c with
    | true =>
      have hrest := ih [] (by simp)
      rw [List.nil_append, List.nil_append] at hrest
      rw [Text.endLine_of_isLineEnd hc, scan_append_newline hline, hrest,
        Text.pieces_append_cons hc, Text.pieces_of_forall_not hfree, List.flatMap_append,
        List.flatMap_singleton]
    | false =>
      have hfree' : ∀ d ∈ line ++ [c], Text.isLineEnd d = false := by
        intro d hd
        rw [List.mem_append, List.mem_singleton] at hd
        rcases hd with hd | rfl
        · exact hfree d hd
        · exact hc
      rw [Text.endLine_of_not_isLineEnd hc]
      simpa using ih (line ++ [c]) hfree'

end Call

end Printout
