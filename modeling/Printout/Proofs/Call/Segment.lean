import Mathlib.Data.List.SplitBy
import Printout.Directive
import Printout.Proofs.Call.Line

/-!
# The search segment by segment

Cut a text behind each closing parenthesis and each line feed. If a name holds neither, every call
of it lies within one segment, and the closing parenthesis of the call is the end of the segment.
The search then comes to a look at each segment by itself (`arguments_eq_filterMap_segments`): what
opens a call is sought once from the left, and all that stands between its first occurrence and the
end is the argument. A call that is opened further on in the same segment is a part of that
argument.
-/

set_option autoImplicit false

namespace Printout.Call

variable {start text body front rest argument : List Char}

/-! ## First occurrences -/

/-- What stands behind the first occurrence of `front` in a text. -/
def behindFirst? (front : List Char) : List Char → Option (List Char)
  | [] => front.isPrefixOf? []
  | c :: text => (front.isPrefixOf? (c :: text)).or (behindFirst? front text)

theorem isPrefixOf?_eq_none : front.isPrefixOf? text = none ↔ ¬ front <+: text := by
  rw [Option.eq_none_iff_forall_ne_some]
  constructor
  · rintro h ⟨rest, rfl⟩
    exact h rest (isPrefixOf?_eq_some.2 rfl)
  · rintro h rest hrest
    exact h ⟨rest, (isPrefixOf?_eq_some.1 hrest).symm⟩

/-- The occurrence of `front` that is found is the first one. -/
theorem behindFirst?_eq_some_iff :
    behindFirst? front text = some rest ↔
      ∃ before, text = before ++ (front ++ rest) ∧
        ∀ i < before.length, ¬ front <+: text.drop i := by
  induction text with
  | nil =>
    rw [behindFirst?, isPrefixOf?_eq_some]
    constructor
    · intro h
      exact ⟨[], h, by simp⟩
    · rintro ⟨before, h, -⟩
      exact (List.nil_eq_append_iff.1 h).2.symm
  | cons c text ih =>
    rw [behindFirst?, Option.or_eq_some_iff, isPrefixOf?_eq_some, isPrefixOf?_eq_none, ih]
    constructor
    · rintro (h | ⟨hhead, before, rfl, hfirst⟩)
      · exact ⟨[], h, by simp⟩
      · refine ⟨c :: before, rfl, ?_⟩
        intro i hi
        cases i with
        | zero => exact hhead
        | succ i => exact hfirst i (Nat.lt_of_succ_lt_succ hi)
    · rintro ⟨before, h, hfirst⟩
      cases before with
      | nil => exact Or.inl h
      | cons d before =>
        obtain ⟨rfl, rfl⟩ := List.cons.inj h
        refine Or.inr ⟨hfirst 0 (Nat.zero_lt_succ _), before, rfl, ?_⟩
        intro i hi
        exact hfirst (i + 1) (Nat.succ_lt_succ hi)

/-- Nothing is found where `front` does not occur. -/
theorem behindFirst?_eq_none_iff : behindFirst? front text = none ↔ ¬ front <:+: text := by
  induction text with
  | nil =>
    rw [behindFirst?, isPrefixOf?_eq_none, List.prefix_nil, List.infix_nil]
  | cons c text ih =>
    rw [behindFirst?, Option.or_eq_none_iff, isPrefixOf?_eq_none, ih, List.infix_cons_iff, not_or]

/-- What stands behind any occurrence of `front` stands at the end of what is behind the first
one. -/
theorem exists_behindFirst?_append (before front rest : List Char) :
    ∃ behind, behindFirst? front (before ++ (front ++ rest)) = some behind ∧ rest <:+ behind := by
  cases h : behindFirst? front (before ++ (front ++ rest)) with
  | none =>
    rw [behindFirst?_eq_none_iff] at h
    exact absurd ⟨before, rest, by simp⟩ h
  | some behind =>
    refine ⟨behind, rfl, ?_⟩
    obtain ⟨earlier, heq, hfirst⟩ := behindFirst?_eq_some_iff.1 h
    have hle : earlier.length ≤ before.length := by
      by_contra hlt
      exact hfirst before.length (by omega) (by simp)
    have hlength := congrArg List.length heq
    simp only [List.length_append] at hlength
    have hrest : rest <:+ before ++ (front ++ rest) := ⟨before ++ front, by simp⟩
    have hbehind : behind <:+ before ++ (front ++ rest) := ⟨earlier ++ front, by rw [heq]; simp⟩
    exact List.suffix_of_suffix_length_le hrest hbehind (by omega)

/-! ## Segments -/

/-- The `text` cut behind each closing parenthesis and each line feed. -/
def segments (text : List Char) : List (List Char) := text.splitBy fun c _ => isArgumentChar c

/-- The argument in `segment`: what stands between the first occurrence of `start`, which opens a
call, and the closing parenthesis at the end. -/
def segmentArgument? (start segment : List Char) : Option (List Char) :=
  if segment.getLast? = some ')' then behindFirst? start segment.dropLast else none

@[simp] theorem segmentArgument?_close (start body : List Char) :
    segmentArgument? start (body ++ [')']) = behindFirst? start body := by
  simp [segmentArgument?]

@[simp] theorem segmentArgument?_newline (start body : List Char) :
    segmentArgument? start (body ++ ['\n']) = none := by
  simp [segmentArgument?]

/-- The characters of `body` go with the one behind them, which ends a segment. -/
theorem segments_append_cons {c : Char} (hbody : IsArgument body) (hc : isArgumentChar c = false)
    (text : List Char) : segments (body ++ c :: text) = (body ++ [c]) :: segments text := by
  rw [isArgument_iff_forall] at hbody
  have hchain : (body ++ [c]).IsChain fun d _ => isArgumentChar d = true := by
    apply List.Pairwise.isChain
    rw [List.pairwise_append]
    refine ⟨?_, List.pairwise_singleton _ _, fun d hd _ _ => hbody d hd⟩
    exact List.pairwise_of_forall_mem_list fun d hd _ _ => hbody d hd
  have hwhole : body ++ c :: text = (body ++ [c]) ++ text := by simp
  rw [segments, hwhole, List.splitBy_append, List.splitBy_of_isChain (by simp) hchain]
  · rfl
  · intro d hd _ _
    rw [List.getLast?_concat, Option.mem_some_iff] at hd
    rw [← hd]
    exact hc

/-- A text that ends no segment has no argument in its `segments`. -/
theorem filterMap_segments_of_isArgument (hbody : IsArgument body) :
    (segments body).filterMap (segmentArgument? start) = [] := by
  rw [List.filterMap_eq_nil_iff]
  intro segment hsegment
  have hclose : ')' ∉ segment := by
    intro hmem
    refine hbody.1 ?_
    rw [← List.flatten_splitBy (fun c _ => isArgumentChar c) body]
    exact List.mem_flatten_of_mem hsegment hmem
  rw [segmentArgument?, if_neg]
  intro hlast
  exact hclose (List.mem_of_getLast? hlast)

/-! ## Calls within a segment -/

/-- A call stands before the end of a segment exactly if `start` opens it there and the segment ends
in a closing parenthesis. -/
theorem starts_append_cons_iff {c : Char} (hstart : IsArgument start) (hbody : IsArgument body)
    (hc : isArgumentChar c = false) :
    Starts start (body ++ c :: text) ↔ c = ')' ∧ start <+: body := by
  constructor
  · rintro ⟨argument, rest, heq, hargument⟩
    have hfront : ∀ d ∈ start ++ argument, isArgumentChar d = true := by
      intro d hd
      rw [List.mem_append] at hd
      rcases hd with hd | hd
      · exact (isArgument_iff_forall start).1 hstart d hd
      · exact (isArgument_iff_forall argument).1 hargument d hd
    have hclose : isArgumentChar ')' = false := by decide
    -- Both sides are taken apart at the first character that no argument holds.
    rw [← List.append_assoc] at heq
    have htake := congrArg (List.takeWhile isArgumentChar) heq
    have hdrop := congrArg (List.dropWhile isArgumentChar) heq
    rw [isArgument_iff_forall] at hbody
    rw [List.takeWhile_append_of_pos hbody, List.takeWhile_append_of_pos hfront] at htake
    rw [List.dropWhile_append_of_pos hbody, List.dropWhile_append_of_pos hfront] at hdrop
    simp only [List.takeWhile_cons, hc, hclose, Bool.false_eq_true, if_false, List.append_nil]
      at htake
    simp only [List.dropWhile_cons, hc, hclose, Bool.false_eq_true, if_false, List.cons.injEq]
      at hdrop
    exact ⟨hdrop.1, argument, htake.symm⟩
  · rintro ⟨rfl, argument, rfl⟩
    refine ⟨argument, text, by simp, ?_, ?_⟩
    · exact fun h => hbody.1 (List.mem_append_right _ h)
    · exact fun h => hbody.2 (List.mem_append_right _ h)

/-- The place `i` of a segment that a closing parenthesis ends is viable if a call is opened
there. -/
theorem viableAt_append_close_iff {i : Nat} (hstart : IsArgument start) (hbody : IsArgument body)
    (hi : i ≤ body.length) :
    ViableAt start (body ++ ')' :: text) i ↔ start <+: body.drop i := by
  have hdrop : IsArgument (body.drop i) :=
    ⟨fun h => hbody.1 (List.mem_of_mem_drop h), fun h => hbody.2 (List.mem_of_mem_drop h)⟩
  rw [ViableAt, List.drop_append_of_le_length hi,
    starts_append_cons_iff hstart hdrop (by decide)]
  simp

/-- The argument of a segment, if it has one, is what `scan` takes before it goes on behind the
segment. -/
theorem scan_append_close (hstart : IsArgument start) (hbody : IsArgument body)
    (text : List Char) :
    scan start (body ++ ')' :: text) = (behindFirst? start body).toList ++ scan start text := by
  cases h : behindFirst? start body with
  | none =>
    have hgap : ∀ i < (body ++ [')']).length,
        ¬ ViableAt start (body ++ [')'] ++ text) i := by
      intro i hi
      rw [List.length_append, List.length_singleton] at hi
      rw [List.append_assoc, List.singleton_append,
        viableAt_append_close_iff hstart hbody (Nat.le_of_lt_succ hi)]
      rw [behindFirst?_eq_none_iff] at h
      rintro ⟨rest, hrest⟩
      exact h ⟨body.take i, rest, by rw [List.append_assoc, hrest, List.take_append_drop]⟩
    have hscan := scan_append_of_forall_not_viableAt hgap
    rw [List.append_assoc, List.singleton_append] at hscan
    rw [hscan, Option.toList_none, List.nil_append]
  | some argument =>
    obtain ⟨before, rfl, hfirst⟩ := behindFirst?_eq_some_iff.1 h
    have hargument : IsArgument argument := by
      obtain ⟨hclose, hline⟩ := hbody
      simp only [List.mem_append, not_or] at hclose hline
      exact ⟨hclose.2.2, hline.2.2⟩
    have hgap : ∀ i < before.length,
        ¬ ViableAt start (before ++ (start ++ argument) ++ ')' :: text) i := by
      intro i hi
      rw [viableAt_append_close_iff hstart hbody (by rw [List.length_append]; omega)]
      exact hfirst i hi
    rw [List.append_assoc, List.append_assoc] at hgap ⊢
    rw [scan_append_of_forall_not_viableAt hgap, scan_call hargument, Option.toList_some,
      List.singleton_append]

/-- What `scan` finds in `text` is what each of its `segments` has. -/
theorem scan_eq_filterMap_segments (hstart : IsArgument start) (text : List Char) :
    scan start text = (segments text).filterMap (segmentArgument? start) := by
  -- The beginning of the segment that is being read is carried along.
  suffices h : ∀ body, IsArgument body →
      scan start (body ++ text) = (segments (body ++ text)).filterMap (segmentArgument? start) from
    h [] (by decide)
  induction text with
  | nil =>
    intro body hbody
    rw [List.append_nil, scan_of_close_notMem hbody.1, filterMap_segments_of_isArgument hbody]
  | cons c text ih =>
    intro body hbody
    have hrest := ih [] (by decide)
    rw [List.nil_append] at hrest
    cases hc : isArgumentChar c with
    | true =>
      have hbody' : IsArgument (body ++ [c]) := by
        rw [isArgument_iff_forall] at hbody ⊢
        simpa [or_imp, forall_and, hc] using hbody
      simpa using ih (body ++ [c]) hbody'
    | false =>
      rw [segments_append_cons hbody hc]
      have hend : c = ')' ∨ c = '\n' := by
        by_contra h
        rw [not_or] at h
        simp [isArgumentChar, h.1, h.2] at hc
      rcases hend with rfl | rfl
      · rw [scan_append_close hstart hbody, hrest, List.filterMap_cons, segmentArgument?_close]
        cases behindFirst? start body <;> rfl
      · rw [scan_append_newline hstart.2, scan_of_close_notMem hbody.1, hrest, List.filterMap_cons,
          segmentArgument?_newline, List.nil_append]

/-- Every call that `scan` finds has a closing parenthesis of its own. -/
theorem length_scan_le (start text : List Char) : (scan start text).length ≤ text.count ')' := by
  induction text using scan.induct start with
  | case1 text argument rest hcall ih =>
    obtain ⟨rfl, hargument⟩ := atStart?_eq_some_iff.1 hcall
    rw [scan_call hargument, List.length_cons, List.count_append, List.count_append,
      List.count_cons_self]
    omega
  | case2 hnone => simp
  | case3 c text hnone ih =>
    rw [scan_cons (not_starts_iff.2 hnone)]
    exact Nat.le_trans ih List.count_le_count_cons

/-- The arguments of `call`, whose name holds neither a closing parenthesis nor a line feed, are
those of the `segments` of `text`, in order. So no parenthesis closes two of them, and wherever a
segment opens a call, the text from there to the end of the segment goes into the one argument it
has. -/
theorem arguments_eq_filterMap_segments (call text : String) (hclose : ')' ∉ call.toList)
    (hline : '\n' ∉ call.toList) :
    Printout.arguments call text =
        ((segments text.toList).filterMap (segmentArgument? (call.toList ++ ['(']))).map
          String.ofList ∧
      (Printout.arguments call text).length ≤ text.toList.count ')' ∧
      ∀ segment ∈ segments text.toList, ∀ before inner,
        segment = before ++ (call.toList ++ ['('] ++ (inner ++ [')'])) →
          ∃ argument, segmentArgument? (call.toList ++ ['(']) segment = some argument ∧
            String.ofList argument ∈ Printout.arguments call text ∧ inner <:+ argument := by
  have hopening : call.toList ++ ['('] = opening call.toList := rfl
  rw [hopening]
  have hstart : IsArgument (opening call.toList) := by
    simp [IsArgument, opening, hclose, hline]
  have harguments : Printout.arguments call text =
      ((segments text.toList).filterMap (segmentArgument? (opening call.toList))).map
        String.ofList := by
    rw [Printout.arguments, Call.arguments, scan_eq_filterMap_segments hstart]
  refine ⟨harguments, ?_, ?_⟩
  · rw [Printout.arguments, List.length_map]
    exact length_scan_le _ _
  · rintro segment hsegment before inner rfl
    have hwhole : before ++ (opening call.toList ++ (inner ++ [')'])) =
        before ++ (opening call.toList ++ inner) ++ [')'] := by simp
    rw [hwhole] at hsegment ⊢
    rw [segmentArgument?_close]
    obtain ⟨argument, hfirst, hsuffix⟩ :=
      exists_behindFirst?_append before (opening call.toList) inner
    refine ⟨argument, hfirst, ?_, hsuffix⟩
    rw [harguments]
    apply List.mem_map_of_mem
    refine List.mem_filterMap.2 ⟨_, hsegment, ?_⟩
    rw [segmentArgument?_close]
    exact hfirst

/-- The name overlaps itself, one call is open before a line feed, and one is opened within
another. -/
theorem arguments_eq_segments_of_nested :
    ')' ∉ "ff".toList ∧ '\n' ∉ "ff".toList ∧
      Printout.arguments "ff" "ff(a\nfff(b, ff(c)) + ff()" =
        ((segments "ff(a\nfff(b, ff(c)) + ff()".toList).filterMap
          (segmentArgument? "ff(".toList)).map String.ofList ∧
      segments "ff(a\nfff(b, ff(c)) + ff()".toList =
        ["ff(a\n".toList, "fff(b, ff(c)".toList, ")".toList, " + ff()".toList] ∧
      Printout.arguments "ff" "ff(a\nfff(b, ff(c)) + ff()" = ["b, ff(c", ""] := by
  have hclose : ')' ∉ "ff".toList := by decide
  have hline : '\n' ∉ "ff".toList := by decide
  have harguments :=
    (arguments_eq_filterMap_segments "ff" "ff(a\nfff(b, ff(c)) + ff()" hclose hline).1
  refine ⟨hclose, hline, harguments, by decide, ?_⟩
  rw [harguments]
  decide

end Printout.Call
