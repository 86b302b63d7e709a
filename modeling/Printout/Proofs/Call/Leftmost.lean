import Mathlib.Logic.ExistsUnique
import Printout.Directive
import Printout.Proofs.Call.Viable

/-!
# The leftmost layout of a text

A layout takes a text apart: gap, call, gap, call, and so on up to a last gap. It is leftmost if
every argument in it is one and no place in a gap is viable, where viability is a matter of the
whole text and not of the gap. Every text has exactly one leftmost layout, and its arguments are
those the search finds (`existsUnique_leftmost_layout`).

Existence follows the search: a character that starts no call goes to the front of the first gap.
Uniqueness compares two layouts call by call. Their first gaps cannot differ in length, for the
call behind the shorter one would stand at a place within the longer one.
-/

set_option autoImplicit false

namespace Printout.Call

/-! ## Layouts -/

/-- A call with `argument`, and the `gap` before it. -/
structure Part where
  gap : List Char
  argument : List Char
deriving Repr, DecidableEq

/-- A text taken apart: its calls, each with the gap before it, and the gap `last` at the end. -/
structure Layout where
  parts : List Part
  last : List Char
deriving Repr, DecidableEq

/-- The text of `parts`, each call opened by `start`, and of the gap `last` behind them. -/
def assemble (start : List Char) : List Part → List Char → List Char
  | [], last => last
  | part :: parts, last =>
    part.gap ++ (start ++ (part.argument ++ ')' :: assemble start parts last))

/-- The places that lie in a gap, for parts that stand at `offset` of a text. -/
def gapPlaces (start : List Char) (offset : Nat) : List Part → List Char → List Nat
  | [], last => List.range' offset last.length
  | part :: parts, last =>
    List.range' offset part.gap.length ++
      gapPlaces start (offset + part.gap.length + (start.length + part.argument.length + 1))
        parts last

namespace Layout

/-- The text that `layout` takes apart, where `start` is what opens a call. -/
def text (layout : Layout) (start : List Char) : List Char :=
  assemble start layout.parts layout.last

/-- The arguments of the calls, in order. -/
def arguments (layout : Layout) : List (List Char) := layout.parts.map Part.argument

/-- The layout with `c` at the front of its first gap. -/
def push (c : Char) : Layout → Layout
  | ⟨[], last⟩ => ⟨[], c :: last⟩
  | ⟨part :: parts, last⟩ => ⟨⟨c :: part.gap, part.argument⟩ :: parts, last⟩

/-- The `layout` takes `text` apart at its calls, and misses no call in a gap. -/
structure Leftmost (layout : Layout) (start text : List Char) : Prop where
  text_eq : layout.text start = text
  isArgument : ∀ part ∈ layout.parts, IsArgument part.argument
  not_viableAt : ∀ i ∈ gapPlaces start 0 layout.parts layout.last, ¬ ViableAt start text i

end Layout

variable {start text : List Char}

/-- The `gapPlaces` move along with the parts they belong to. -/
theorem gapPlaces_add (start : List Char) (offset shift : Nat) (parts : List Part)
    (last : List Char) :
    gapPlaces start (shift + offset) parts last =
      (gapPlaces start offset parts last).map (shift + ·) := by
  induction parts generalizing offset with
  | nil => simp only [gapPlaces, List.map_add_range']
  | cons part parts ih =>
    simp only [gapPlaces, List.map_append, List.map_add_range', Nat.add_assoc]
    rw [ih]

namespace Layout

instance (layout : Layout) (start text : List Char) : Decidable (layout.Leftmost start text) :=
  decidable_of_iff
    (layout.text start = text ∧ (∀ part ∈ layout.parts, IsArgument part.argument) ∧
      ∀ i ∈ gapPlaces start 0 layout.parts layout.last, ¬ ViableAt start text i)
    ⟨fun ⟨htext, hargument, hgap⟩ => ⟨htext, hargument, hgap⟩,
      fun ⟨htext, hargument, hgap⟩ => ⟨htext, hargument, hgap⟩⟩

theorem leftmost_nil_iff {last : List Char} :
    Leftmost ⟨[], last⟩ start text ↔
      last = text ∧ ∀ i < last.length, ¬ ViableAt start text i := by
  constructor
  · rintro ⟨htext, -, hgap⟩
    refine ⟨htext, ?_⟩
    intro i hi
    apply hgap
    simpa [gapPlaces] using hi
  · rintro ⟨htext, hgap⟩
    refine ⟨htext, by simp, ?_⟩
    intro i hi
    apply hgap
    simpa [gapPlaces] using hi

/-- A layout is `Leftmost` if its first gap holds no viable place and the layout behind the first
call is `Leftmost`. -/
theorem leftmost_cons_iff {part : Part} {parts : List Part} {last : List Char} :
    Leftmost ⟨part :: parts, last⟩ start text ↔
      ∃ rest, text = part.gap ++ (start ++ (part.argument ++ ')' :: rest)) ∧
        IsArgument part.argument ∧ (∀ i < part.gap.length, ¬ ViableAt start text i) ∧
        Leftmost ⟨parts, last⟩ start rest := by
  -- The places behind the first call are those of the rest, moved by the length before it.
  have hplace (rest : List Char) (i : Nat) :
      ViableAt start (part.gap ++ (start ++ (part.argument ++ ')' :: rest)))
        (part.gap.length + (start.length + part.argument.length + 1) + i) ↔
      ViableAt start rest i := by
    have h : ViableAt start (part.gap ++ (start ++ (part.argument ++ [')'])) ++ rest)
        ((part.gap ++ (start ++ (part.argument ++ [')']))).length + i) ↔ ViableAt start rest i :=
      viableAt_append_add _ i
    simpa [Nat.add_assoc] using h
  have hplaces : gapPlaces start 0 (part :: parts) last = List.range' 0 part.gap.length ++
      (gapPlaces start 0 parts last).map
        (part.gap.length + (start.length + part.argument.length + 1) + ·) := by
    rw [← gapPlaces_add]
    simp [gapPlaces]
  constructor
  · rintro ⟨htext, hargument, hgap⟩
    simp only [hplaces] at hgap
    subst htext
    refine ⟨_, rfl, hargument part (by simp), ?_, rfl, ?_, ?_⟩
    · intro i hi
      apply hgap
      simp [hi]
    · intro part hpart
      apply hargument
      simp [hpart]
    · intro i hi
      rw [← hplace]
      exact hgap _ (List.mem_append_right _ (List.mem_map_of_mem hi))
  · rintro ⟨rest, rfl, hargument, hgap, htext, harguments, hgaps⟩
    refine ⟨?_, ?_, ?_⟩
    · rw [← htext]
      rfl
    · simpa using ⟨hargument, harguments⟩
    · intro i hi
      simp only [hplaces, List.mem_append, List.mem_range'_1, List.mem_map] at hi
      rcases hi with hi | ⟨j, hj, rfl⟩
      · exact hgap i (by omega)
      · rw [hplace]
        exact hgaps j hj

/-! ## Existence -/

/-- A character `c` that starts no call belongs to the gap behind it. -/
theorem Leftmost.push {layout : Layout} {c : Char} (hstart : ¬ Starts start (c :: text))
    (h : layout.Leftmost start text) : (layout.push c).Leftmost start (c :: text) := by
  have hgap {n : Nat} (hold : ∀ i < n, ¬ ViableAt start text i) :
      ∀ i < n + 1, ¬ ViableAt start (c :: text) i := by
    intro i hi
    cases i with
    | zero => exact hstart
    | succ i =>
      rw [viableAt_cons_succ]
      exact hold i (by omega)
  rcases layout with ⟨_ | ⟨part, parts⟩, last⟩
  · rw [leftmost_nil_iff] at h
    obtain ⟨rfl, hold⟩ := h
    exact leftmost_nil_iff.2 ⟨rfl, hgap hold⟩
  · rw [leftmost_cons_iff] at h
    obtain ⟨rest, rfl, hargument, hold, hrest⟩ := h
    exact leftmost_cons_iff.2 ⟨rest, rfl, hargument, hgap hold, hrest⟩

theorem arguments_push (c : Char) (layout : Layout) :
    (layout.push c).arguments = layout.arguments := by
  rcases layout with ⟨_ | ⟨part, parts⟩, last⟩ <;> rfl

/-- What `scan` finds are the arguments of a leftmost layout. -/
theorem exists_leftmost (start text : List Char) :
    ∃ layout : Layout, layout.Leftmost start text ∧ layout.arguments = scan start text := by
  induction text using scan.induct start with
  | case1 text argument rest hcall ih =>
    obtain ⟨⟨parts, last⟩, hleft, harguments⟩ := ih
    obtain ⟨rfl, hargument⟩ := atStart?_eq_some_iff.1 hcall
    refine ⟨⟨⟨[], argument⟩ :: parts, last⟩, ?_, ?_⟩
    · exact leftmost_cons_iff.2 ⟨rest, rfl, hargument, by simp, hleft⟩
    · rw [scan_call hargument, ← harguments]
      rfl
  | case2 hnone =>
    exact ⟨⟨[], []⟩, leftmost_nil_iff.2 ⟨rfl, by simp⟩, (scan_nil start).symm⟩
  | case3 c text hnone ih =>
    obtain ⟨layout, hleft, harguments⟩ := ih
    have hstart := not_starts_iff.2 hnone
    refine ⟨layout.push c, hleft.push hstart, ?_⟩
    rw [arguments_push, harguments, scan_cons hstart]

/-! ## Uniqueness -/

/-- The place behind the first gap of a `Leftmost` layout is viable. -/
theorem Leftmost.viableAt_length_gap {part : Part} {parts : List Part} {last : List Char}
    (h : Leftmost ⟨part :: parts, last⟩ start text) : ViableAt start text part.gap.length := by
  obtain ⟨rest, rfl, hargument, -, -⟩ := leftmost_cons_iff.1 h
  rw [ViableAt, List.drop_left]
  exact ⟨part.argument, rest, rfl, hargument⟩

theorem Leftmost.unique {layout layout' : Layout} (h : layout.Leftmost start text)
    (h' : layout'.Leftmost start text) : layout = layout' := by
  rcases layout with ⟨parts, last⟩
  rcases layout' with ⟨parts', last'⟩
  induction parts generalizing text parts' with
  | nil =>
    obtain ⟨rfl, hgap⟩ := leftmost_nil_iff.1 h
    cases parts' with
    | nil => rw [(leftmost_nil_iff.1 h').1]
    | cons part' parts' =>
      -- The first call of the second layout would stand in the only gap of the first.
      have hviable := h'.viableAt_length_gap
      exact absurd hviable (hgap _ hviable.lt_length)
  | cons part parts ih =>
    have hviable := h.viableAt_length_gap
    cases parts' with
    | nil =>
      obtain ⟨rfl, hgap'⟩ := leftmost_nil_iff.1 h'
      exact absurd hviable (hgap' _ hviable.lt_length)
    | cons part' parts' =>
      have hviable' := h'.viableAt_length_gap
      obtain ⟨rest, htext, hargument, hgap, hrest⟩ := leftmost_cons_iff.1 h
      obtain ⟨rest', htext', hargument', hgap', hrest'⟩ := leftmost_cons_iff.1 h'
      -- The shorter of two gaps would end at a call within the longer one.
      have hlength : part.gap.length = part'.gap.length := by
        rcases Nat.lt_trichotomy part.gap.length part'.gap.length with hlt | heq | hlt
        · exact absurd hviable (hgap' _ hlt)
        · exact heq
        · exact absurd hviable' (hgap _ hlt)
      obtain ⟨hgaps, hcalls⟩ := List.append_inj (htext.symm.trans htext') hlength
      obtain ⟨harguments, rfl⟩ :=
        append_close_inj hargument hargument' (List.append_cancel_left hcalls)
      have hparts := ih hrest parts' hrest'
      rcases part with ⟨gap, argument⟩
      rcases part' with ⟨gap', argument'⟩
      simp only [Layout.mk.injEq] at hparts hgaps harguments
      rw [hgaps, harguments, hparts.1, hparts.2]

end Layout

/-! ## The search is leftmost -/

/-- Every `text` has one leftmost layout of the calls of `call`, and `Printout.arguments` gives the
arguments of that layout and of no other. -/
theorem existsUnique_leftmost_layout (call text : String) :
    (∃! layout : Layout, layout.Leftmost (call.toList ++ ['(']) text.toList) ∧
      ∀ found : List String,
        (∃ layout : Layout, layout.Leftmost (call.toList ++ ['(']) text.toList ∧
          layout.arguments.map String.ofList = found) ↔ found = Printout.arguments call text := by
  obtain ⟨layout, hleft, harguments⟩ := Layout.exists_leftmost (opening call.toList) text.toList
  have hfound : layout.arguments.map String.ofList = Printout.arguments call text := by
    rw [harguments]
    rfl
  refine ⟨⟨layout, hleft, fun layout' hleft' => hleft'.unique hleft⟩, fun found => ⟨?_, ?_⟩⟩
  · rintro ⟨layout', hleft', rfl⟩
    rw [hleft'.unique hleft, hfound]
  · rintro rfl
    exact ⟨layout, hleft, hfound⟩

/-- A call within the argument of another is no call of its own. -/
example : (⟨[⟨['x'], ['f', '(', 'a']⟩], [')']⟩ : Layout).Leftmost ['f', '(']
    ['x', 'f', '(', 'f', '(', 'a', ')', ')'] := by
  decide

end Printout.Call
