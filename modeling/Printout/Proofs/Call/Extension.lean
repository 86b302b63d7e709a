import Printout.Proofs.Call.Viable

/-!
# The search in a longer text

More text behind a text can complete a call that was open at its end. Such a call stands behind all
calls that were there before: a call further on brings a closing parenthesis, and the call in front
of it would have ended there (`Starts.of_append`). So the search finds in the longer text what it
found before, and perhaps more (`scan_prefix_append`).
-/

set_option autoImplicit false

namespace Printout.Call

variable {start text : List Char}

/-- If a call stands in `text` at all, nothing behind `text` completes a call at its start. -/
theorem Starts.of_append {more : List Char} {i : Nat} (h : Starts start (text ++ more))
    (hviable : ViableAt start text i) : Starts start text := by
  obtain ⟨argument, rest, heq, hargument⟩ := h
  have hcall : start ++ argument ++ [')'] <+: text ++ more := ⟨rest, by rw [heq]; simp⟩
  by_cases hwithin : (start ++ argument).length < text.length
  · obtain ⟨behind, hbehind⟩ :=
      List.prefix_of_prefix_length_le hcall (List.prefix_append text more)
        (by rw [List.length_append, List.length_singleton]; omega)
    exact ⟨argument, behind, by rw [← hbehind]; simp, hargument⟩
  · -- The text ends within the argument, so the parenthesis that closes the call at `i` is in it.
    have htext : text <+: start ++ argument :=
      List.prefix_of_prefix_length_le (List.prefix_append text more)
        ((List.prefix_append _ _).trans hcall) (by omega)
    obtain ⟨behind, hbehind⟩ := htext
    obtain ⟨argument', rest', hdrop, -⟩ := hviable
    have hwhole : text.take i ++ (start ++ argument') ++ ')' :: (rest' ++ behind) =
        start ++ argument := by
      calc text.take i ++ (start ++ argument') ++ ')' :: (rest' ++ behind)
          = text.take i ++ text.drop i ++ behind := by rw [hdrop]; simp
        _ = start ++ argument := by rw [List.take_append_drop, hbehind]
    have hclose : ')' :: (rest' ++ behind) <:+ argument := by
      refine List.suffix_of_suffix_length_le ⟨_, hwhole⟩ (List.suffix_append start argument) ?_
      have hlength := congrArg List.length hwhole
      simp only [List.length_append, List.length_cons] at hlength ⊢
      omega
    exact absurd (hclose.mem (by simp)) hargument.1

/-- In a longer text `scan` finds what it found before, and perhaps more. -/
theorem scan_prefix_append (start text more : List Char) :
    scan start text <+: scan start (text ++ more) := by
  induction text using scan.induct start with
  | case1 text argument rest hcall ih =>
    -- The call that is found stands in both texts, and the search goes on behind it in both.
    obtain ⟨rfl, hargument⟩ := atStart?_eq_some_iff.1 hcall
    have hmore : start ++ (argument ++ ')' :: rest) ++ more =
        start ++ (argument ++ ')' :: (rest ++ more)) := by simp
    rw [hmore, scan_call hargument, scan_call hargument, List.cons_prefix_cons]
    exact ⟨rfl, ih⟩
  | case2 hnone =>
    rw [scan_nil]
    exact List.nil_prefix
  | case3 c text hnone ih =>
    have hstart := not_starts_iff.2 hnone
    rw [scan_cons hstart]
    by_cases hempty : scan start text = []
    · rw [hempty]
      exact List.nil_prefix
    · -- A call is still to come, so the longer text starts none here either.
      simp only [scan_eq_nil_iff, not_forall, not_not] at hempty
      obtain ⟨i, hviable⟩ := hempty
      have hstart' : ¬ Starts start (c :: (text ++ more)) := fun h =>
        hstart (Starts.of_append (i := i + 1) h hviable)
      rw [List.cons_append, scan_cons hstart']
      exact ih

end Printout.Call
