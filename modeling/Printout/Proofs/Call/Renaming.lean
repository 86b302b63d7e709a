import Mathlib.Data.List.Basic
import Printout.Proofs.Call.Viable

/-!
# The search under renamings

A name is compared with the text character by character, and no character of it has a meaning of its
own. So the search commutes with every renaming that keeps characters apart and leaves alone the
three that mark off a call: its two parentheses and the line feed that no argument crosses
(`scan_map`).
-/

set_option autoImplicit false

namespace Printout.Call

variable {s : Char → Char} {start text argument : List Char}

/-- A renaming of characters that keeps them apart and leaves alone what marks off a call. -/
structure KeepsMarks (s : Char → Char) : Prop where
  injective : Function.Injective s
  open_eq : s '(' = '('
  close_eq : s ')' = ')'
  newline_eq : s '\n' = '\n'

namespace KeepsMarks

variable (hs : KeepsMarks s)

include hs

theorem opening_map (name : List Char) : opening (name.map s) = (opening name).map s := by
  simp [opening, hs.open_eq]

theorem isArgument_map : IsArgument (argument.map s) ↔ IsArgument argument := by
  have hclose : s ')' ∈ argument.map s ↔ ')' ∈ argument :=
    List.mem_map_of_injective hs.injective
  have hline : s '\n' ∈ argument.map s ↔ '\n' ∈ argument :=
    List.mem_map_of_injective hs.injective
  rw [hs.close_eq] at hclose
  rw [hs.newline_eq] at hline
  rw [IsArgument, IsArgument, hclose, hline]

/-- A call stands at the start of a text exactly if one does after the renaming `s` of both. -/
theorem starts_map_iff : Starts (start.map s) (text.map s) ↔ Starts start text := by
  constructor
  · rintro ⟨argument', rest', heq, hargument⟩
    obtain ⟨start', behind, rfl, hstart, hbehind⟩ := List.map_eq_append_iff.1 heq
    obtain ⟨argument, close, rfl, rfl, hclose⟩ := List.map_eq_append_iff.1 hbehind
    obtain ⟨c, rest, rfl, hc, rfl⟩ := List.map_eq_cons_iff.1 hclose
    rw [← hs.close_eq] at hc
    obtain rfl := hs.injective hc
    obtain rfl := hs.injective.list_map hstart
    exact ⟨argument, rest, rfl, hs.isArgument_map.1 hargument⟩
  · rintro ⟨argument, rest, rfl, hargument⟩
    refine ⟨argument.map s, rest.map s, ?_, hs.isArgument_map.2 hargument⟩
    simp [hs.close_eq]

/-- In a renamed text `scan` finds the renamed arguments. -/
theorem scan_map (start text : List Char) :
    scan (start.map s) (text.map s) = (scan start text).map (List.map s) := by
  induction text using scan.induct start with
  | case1 text argument rest hcall ih =>
    obtain ⟨rfl, hargument⟩ := atStart?_eq_some_iff.1 hcall
    have hwhole : (start ++ (argument ++ ')' :: rest)).map s =
        start.map s ++ (argument.map s ++ ')' :: rest.map s) := by simp [hs.close_eq]
    rw [hwhole, scan_call (hs.isArgument_map.2 hargument), ih, scan_call hargument, List.map_cons]
  | case2 hnone => simp
  | case3 c text hnone ih =>
    have hstart := not_starts_iff.2 hnone
    have hstart' : ¬ Starts (start.map s) (s c :: text.map s) := by
      rw [← List.map_cons, hs.starts_map_iff]
      exact hstart
    rw [List.map_cons, scan_cons hstart', ih, scan_cons hstart]

end KeepsMarks

end Printout.Call
