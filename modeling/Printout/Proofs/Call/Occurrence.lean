import Mathlib.Data.List.Pairwise
import Mathlib.Data.List.Sort
import Printout.Proofs.Call.Leftmost

/-!
# All calls that stand in a text

`occurrences` lists the calls at all viable places of a text, whether or not they overlap. The
search takes some of them, in the order of the list (`Layout.Leftmost.calls_sublist`): the calls of
a leftmost layout, each at its place in the text. Between a call that is not taken and one that is
there is always an overlap, for every viable place lies within a call of the layout
(`Layout.Leftmost.exists_calls_of_standsIn`), and two calls of a layout never overlap. So all are
taken exactly if no two overlap (`Layout.Leftmost.arguments_eq_iff`).
-/

set_option autoImplicit false

namespace Printout.Call

/-! ## Occurrences -/

/-- A call with this `argument` at a `place` of a text. -/
structure Occurrence where
  place : Nat
  argument : List Char
deriving Repr, DecidableEq

namespace Occurrence

variable {start text : List Char} {o o' : Occurrence}

/-- At the place of `o` in `text` a call is opened by `start`, and the first closing parenthesis
behind it ends the argument. -/
def StandsIn (o : Occurrence) (start text : List Char) : Prop :=
  ∃ rest, text.drop o.place = start ++ (o.argument ++ ')' :: rest) ∧ IsArgument o.argument

/-- The place behind the closing parenthesis of `o`. -/
def stop (o : Occurrence) (start : List Char) : Nat :=
  o.place + (start.length + o.argument.length + 1)

/-- The occurrences `o` and `o'` have a place in common. -/
def Overlaps (start : List Char) (o o' : Occurrence) : Prop :=
  o.place < o'.stop start ∧ o'.place < o.stop start

instance (start : List Char) (o o' : Occurrence) : Decidable (Overlaps start o o') :=
  inferInstanceAs (Decidable (_ ∧ _))

instance (start : List Char) : Std.Symm fun o o' => ¬ Overlaps start o o' where
  symm _ _ h hoverlaps := h ⟨hoverlaps.2, hoverlaps.1⟩

/-- The occurrence `o` stands before `o'`, though the two may overlap. -/
def Before (o o' : Occurrence) : Prop := o.place < o'.place

instance : Std.Irrefl Before where
  irrefl o := Nat.lt_irrefl o.place

instance : Std.Antisymm Before where
  antisymm _ _ h h' := absurd h' (Nat.lt_asymm h)

theorem place_lt_stop (o : Occurrence) (start : List Char) : o.place < o.stop start := by
  rw [stop]
  omega

theorem standsIn_iff_atStart? :
    o.StandsIn start text ↔
      ∃ rest, atStart? start (text.drop o.place) = some (o.argument, rest) := by
  simp only [StandsIn, atStart?_eq_some_iff]

theorem StandsIn.viableAt (h : o.StandsIn start text) : ViableAt start text o.place := by
  obtain ⟨rest, hdrop, hargument⟩ := h
  exact ⟨o.argument, rest, hdrop, hargument⟩

end Occurrence

/-- The calls that stand in `text`, overlapping or not, in the order of their places. -/
def occurrences (start text : List Char) : List Occurrence :=
  (List.range text.length).filterMap fun i =>
    (atStart? start (text.drop i)).map fun (argument, _) => ⟨i, argument⟩

variable {start text : List Char}

theorem mem_occurrences_iff {o : Occurrence} :
    o ∈ occurrences start text ↔ o.StandsIn start text := by
  simp only [occurrences, List.mem_filterMap, List.mem_range, Option.map_eq_some_iff, Prod.exists]
  rw [Occurrence.standsIn_iff_atStart?]
  constructor
  · rintro ⟨i, -, argument, rest, hcall, rfl⟩
    exact ⟨rest, hcall⟩
  · rintro ⟨rest, hcall⟩
    have hstands : o.StandsIn start text := Occurrence.standsIn_iff_atStart?.2 ⟨rest, hcall⟩
    exact ⟨o.place, hstands.viableAt.lt_length, o.argument, rest, hcall, rfl⟩

/-- The list of all `occurrences` has them in order, and no two stand at one place. -/
theorem pairwise_before_occurrences (start text : List Char) :
    (occurrences start text).Pairwise Occurrence.Before := by
  rw [occurrences, List.pairwise_filterMap]
  apply List.pairwise_lt_range.imp
  intro i j hij o ho o' ho'
  simp only [Option.map_eq_some_iff, Prod.exists] at ho ho'
  obtain ⟨_, _, -, rfl⟩ := ho
  obtain ⟨_, _, -, rfl⟩ := ho'
  exact hij

/-! ## The calls of a layout -/

/-- The calls of some parts, each at its place, for parts that stand at `offset` of a text. -/
def callsFrom (start : List Char) (offset : Nat) : List Part → List Occurrence
  | [] => []
  | part :: parts =>
    ⟨offset + part.gap.length, part.argument⟩ ::
      callsFrom start (offset + part.gap.length + (start.length + part.argument.length + 1)) parts

theorem map_argument_callsFrom (start : List Char) (offset : Nat) (parts : List Part) :
    (callsFrom start offset parts).map Occurrence.argument = parts.map Part.argument := by
  induction parts generalizing offset with
  | nil => rfl
  | cons part parts ih => rw [callsFrom, List.map_cons, List.map_cons, ih]

theorem offset_le_of_mem_callsFrom {offset : Nat} {parts : List Part} {o : Occurrence}
    (h : o ∈ callsFrom start offset parts) : offset ≤ o.place := by
  induction parts generalizing offset with
  | nil => simp [callsFrom] at h
  | cons part parts ih =>
    rw [callsFrom, List.mem_cons] at h
    rcases h with rfl | h
    · exact Nat.le_add_right _ _
    · have hplace := ih h
      omega

/-- Each of `callsFrom` stops before the next one begins. -/
theorem pairwise_stop_le_callsFrom (start : List Char) (offset : Nat) (parts : List Part) :
    (callsFrom start offset parts).Pairwise fun o o' => o.stop start ≤ o'.place := by
  induction parts generalizing offset with
  | nil => exact List.Pairwise.nil
  | cons part parts ih =>
    refine List.pairwise_cons.2 ⟨?_, ih _⟩
    intro o ho
    exact offset_le_of_mem_callsFrom ho

/-- The calls of `parts` stand in the text that the parts make up. -/
theorem standsIn_of_mem_callsFrom {parts : List Part} {o : Occurrence} (front last : List Char)
    (hargument : ∀ part ∈ parts, IsArgument part.argument)
    (h : o ∈ callsFrom start front.length parts) :
    o.StandsIn start (front ++ assemble start parts last) := by
  induction parts generalizing front with
  | nil => simp [callsFrom] at h
  | cons part parts ih =>
    rw [callsFrom, List.mem_cons] at h
    rcases h with rfl | h
    · refine ⟨assemble start parts last, ?_, hargument part List.mem_cons_self⟩
      rw [assemble, ← List.append_assoc, ← List.length_append]
      exact List.drop_left
    · -- What was read so far, this call included, stands in front of the other parts.
      have hlength : front.length + part.gap.length + (start.length + part.argument.length + 1) =
          (front ++ part.gap ++ (start ++ (part.argument ++ [')']))).length := by
        simp only [List.length_append, List.length_singleton]
        omega
      rw [hlength] at h
      have hstands := ih (front ++ part.gap ++ (start ++ (part.argument ++ [')'])))
        (fun other hother => hargument other (List.mem_cons_of_mem part hother)) h
      simpa [assemble] using hstands

/-- Every place `i` of a text that is taken apart lies in a gap or within a call. -/
theorem mem_gapPlaces_or_exists_callsFrom (last : List Char) {offset i : Nat} {parts : List Part}
    (hlow : offset ≤ i) (hhigh : i < offset + (assemble start parts last).length) :
    i ∈ gapPlaces start offset parts last ∨
      ∃ o ∈ callsFrom start offset parts, o.place ≤ i ∧ i < o.stop start := by
  induction parts generalizing offset with
  | nil =>
    left
    rw [gapPlaces, List.mem_range'_1]
    exact ⟨hlow, hhigh⟩
  | cons part parts ih =>
    simp only [assemble, List.length_append, List.length_cons] at hhigh
    rw [gapPlaces, List.mem_append, List.mem_range'_1]
    rcases Nat.lt_or_ge i (offset + part.gap.length) with hgap | hgap
    · exact Or.inl (Or.inl ⟨hlow, hgap⟩)
    · rcases Nat.lt_or_ge i
          (offset + part.gap.length + (start.length + part.argument.length + 1)) with hcall | hcall
      · exact Or.inr ⟨_, List.mem_cons_self, hgap, hcall⟩
      · rcases ih hcall (by omega) with hrest | ⟨o, ho, hplace⟩
        · exact Or.inl (Or.inr hrest)
        · exact Or.inr ⟨o, List.mem_cons_of_mem _ ho, hplace⟩

namespace Layout

/-- The calls of `layout`, each at its place in the text. -/
def calls (layout : Layout) (start : List Char) : List Occurrence :=
  callsFrom start 0 layout.parts

variable {layout : Layout}

theorem map_argument_calls (layout : Layout) (start : List Char) :
    (layout.calls start).map Occurrence.argument = layout.arguments :=
  map_argument_callsFrom start 0 layout.parts

theorem pairwise_stop_le_calls (layout : Layout) (start : List Char) :
    (layout.calls start).Pairwise fun o o' => o.stop start ≤ o'.place :=
  pairwise_stop_le_callsFrom start 0 layout.parts

/-- The `calls` of a leftmost layout stand in its text. -/
theorem Leftmost.standsIn_of_mem_calls (h : layout.Leftmost start text) {o : Occurrence}
    (ho : o ∈ layout.calls start) : o.StandsIn start text := by
  have hstands := standsIn_of_mem_callsFrom [] layout.last h.isArgument ho
  rw [← h.text_eq]
  exact hstands

/-- The calls of a leftmost layout are some of all `occurrences`, in their order. -/
theorem Leftmost.calls_sublist (h : layout.Leftmost start text) :
    (layout.calls start).Sublist (occurrences start text) := by
  have hbefore : (layout.calls start).Pairwise Occurrence.Before := by
    apply (pairwise_stop_le_calls layout start).imp
    intro o o' hle
    exact Nat.lt_of_lt_of_le (o.place_lt_stop start) hle
  apply List.sublist_of_subperm_of_pairwise _ hbefore (pairwise_before_occurrences start text)
  apply List.subperm_of_subset hbefore.nodup
  intro o ho
  exact mem_occurrences_iff.2 (h.standsIn_of_mem_calls ho)

/-- Every call `o` that stands in the text begins within a call of the leftmost layout. -/
theorem Leftmost.exists_calls_of_standsIn (h : layout.Leftmost start text) {o : Occurrence}
    (ho : o.StandsIn start text) :
    ∃ o' ∈ layout.calls start, o'.place ≤ o.place ∧ o.place < o'.stop start := by
  have hlength : o.place < 0 + (assemble start layout.parts layout.last).length := by
    have htext : assemble start layout.parts layout.last = text := h.text_eq
    rw [htext, Nat.zero_add]
    exact ho.viableAt.lt_length
  rcases mem_gapPlaces_or_exists_callsFrom layout.last (Nat.zero_le _) hlength with hgap | hcall
  · exact absurd ho.viableAt (h.not_viableAt _ hgap)
  · exact hcall

/-- The leftmost layout has all `occurrences` in the text exactly if no two of them overlap. -/
theorem Leftmost.arguments_eq_iff (h : layout.Leftmost start text) :
    layout.arguments = (occurrences start text).map Occurrence.argument ↔
      ∀ o ∈ occurrences start text, ∀ o' ∈ occurrences start text,
        o ≠ o' → ¬ Occurrence.Overlaps start o o' := by
  have hsub := h.calls_sublist
  rw [← map_argument_calls layout start]
  constructor
  · intro heq
    -- A part of a list that is as long as the list is the whole of it.
    have hlength := congrArg List.length heq
    rw [List.length_map, List.length_map] at hlength
    have hall := hsub.eq_of_length hlength
    have hapart : (occurrences start text).Pairwise fun o o' =>
        ¬ Occurrence.Overlaps start o o' := by
      rw [← hall]
      apply (pairwise_stop_le_calls layout start).imp
      rintro o o' hle ⟨-, hlt⟩
      exact Nat.not_lt_of_le hle hlt
    intro o ho o' ho' hne
    exact hapart.forall ho ho' hne
  · intro hapart
    have hsubset : occurrences start text ⊆ layout.calls start := by
      intro o ho
      obtain ⟨o', ho', hle, hlt⟩ := h.exists_calls_of_standsIn (mem_occurrences_iff.1 ho)
      -- The call within which this one begins overlaps it, so it is this one.
      have hsame : o = o' := by
        by_contra hne
        refine hapart o ho o' (hsub.subset ho') hne ⟨hlt, ?_⟩
        exact Nat.lt_of_le_of_lt hle (o.place_lt_stop start)
      rw [hsame]
      exact ho'
    have hnodup := (pairwise_before_occurrences start text).nodup
    have hle := (List.subperm_of_subset hnodup hsubset).length_le
    rw [hsub.eq_of_length_le hle]

end Layout

end Printout.Call
