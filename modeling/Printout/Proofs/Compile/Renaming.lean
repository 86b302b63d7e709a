import Mathlib.Logic.Equiv.Basic
import Printout.Proofs.Call.Renaming
import Printout.Proofs.Compile.Content

/-!
# Directives under renamings

A renaming that keeps what marks off a call renames the arguments of every text. One that also keeps
the double quote and the class of blanks renames the directives, for then an argument is a literal
exactly if the renamed argument is one (`arguments_map_and_directives_map`). So a call is looked for
in one and the same way whatever it is called, and a name may be made of any characters at all.
-/

set_option autoImplicit false

namespace Printout

variable {s : Char → Char}

/-! ## Literals -/

/-- A renaming of characters that leaves alone what marks off a literal. -/
structure KeepsQuotes (s : Char → Char) : Prop where
  quote_eq : s '"' = '"'
  isBlank_eq : ∀ c, Text.isBlank (s c) = Text.isBlank c

/-- Trimming looks at no more of a character than whether `drop` holds of it. -/
theorem Text.trimBoth_map {drop : Char → Bool} (h : ∀ c, drop (s c) = drop c)
    (text : List Char) : trimBoth drop (text.map s) = (trimBoth drop text).map s := by
  have hclass : drop ∘ s = drop := funext h
  rw [trimBoth, trimBoth, List.dropWhile_map, hclass, ← List.map_reverse, List.dropWhile_map,
    hclass, List.map_reverse]

/-- The inside of a literal renamed by `s` is its inside, renamed by `s`. -/
theorem unquote?_map (hinjective : Function.Injective s) (hs : KeepsQuotes s)
    (argument : List Char) :
    unquote? (argument.map s) = (unquote? argument).map (List.map s) := by
  have hquote (c : Char) : s c = '"' ↔ c = '"' := by
    constructor
    · intro h
      exact hinjective (h.trans hs.quote_eq.symm)
    · rintro rfl
      exact hs.quote_eq
  rw [unquote?, unquote?, Text.trimBoth_map hs.isBlank_eq]
  cases Text.trimBoth Text.isBlank argument with
  | nil => rfl
  | cons c body =>
    rw [List.map_cons]
    by_cases hc : c = '"'
    · subst hc
      have hlast : (body.map s).getLast? = some '"' ↔ body.getLast? = some '"' := by
        simp [List.getLast?_map, hquote]
      simp only [hs.quote_eq, hlast, List.map_eq_nil_iff]
      split
      · rfl
      · split
        · rw [Option.map_some, List.map_dropLast]
        · rfl
    · have hc' : s c ≠ '"' := fun h => hc ((hquote c).1 h)
      simp [hc, hc']

/-! ## Texts -/

theorem ofList_map (s : Char → Char) (text : List Char) :
    String.ofList (text.map s) = (String.ofList text).map s := by
  apply String.toList_inj.1
  simp

/-- Renaming `text` and the name `call` by `s` renames the arguments, and if `s` leaves literals
alone also the directives. -/
theorem arguments_map_and_directives_map {s : Char → Char} (hs : Call.KeepsMarks s)
    (call text : String) :
    arguments (call.map s) (text.map s) = (arguments call text).map (String.map s) ∧
      (KeepsQuotes s →
        directives (call.map s) (text.map s) = (directives call text).map (String.map s)) := by
  have hscan : Call.arguments (call.map s).toList (text.map s).toList =
      (Call.arguments call.toList text.toList).map (List.map s) := by
    rw [Call.arguments, Call.arguments, String.toList_map, String.toList_map, hs.opening_map,
      hs.scan_map]
  constructor
  · rw [arguments, arguments, hscan, List.map_map, List.map_map]
    exact List.map_congr_left fun argument _ => ofList_map s argument
  · intro hquotes
    have hliteral (found : List (List Char)) :
        (found.map (List.map s)).filterMap unquote? =
          (found.filterMap unquote?).map (List.map s) := by
      rw [List.filterMap_map, List.map_filterMap]
      exact List.filterMap_congr fun argument _ => unquote?_map hs.injective hquotes argument
    rw [directives_eq_map, directives_eq_map, hscan, hliteral, List.map_map, List.map_map]
    exact List.map_congr_left fun inside _ => ofList_map s inside

/-! ## A name of special characters -/

theorem isBlank_swap {a b : Char} (h : Text.isBlank a = Text.isBlank b) (c : Char) :
    Text.isBlank (Equiv.swap a b c) = Text.isBlank c := by
  rw [Equiv.swap_apply_def]
  split
  · next hc => rw [hc, h]
  · split
    · next hc => rw [hc, h]
    · rfl

/-- Swaps three letters with characters that patterns give a meaning of their own. -/
def swapSpecial : Equiv.Perm Char :=
  (Equiv.swap 'P' '.').trans ((Equiv.swap 'n' '+').trans (Equiv.swap 'l' '*'))

theorem keepsMarks_swapSpecial : Call.KeepsMarks swapSpecial :=
  ⟨swapSpecial.injective, by decide, by decide, by decide⟩

theorem keepsQuotes_swapSpecial : KeepsQuotes swapSpecial := by
  refine ⟨by decide, ?_⟩
  intro c
  rw [swapSpecial, Equiv.trans_apply, Equiv.trans_apply, isBlank_swap (by decide),
    isBlank_swap (by decide), isBlank_swap (by decide)]

/-- The name that is looked for by default becomes one of special characters, and the other way
round. -/
theorem directives_swapSpecial :
    Call.KeepsMarks swapSpecial ∧ KeepsQuotes swapSpecial ∧
      directives ".ri+t*+" ".ri+t*+(\".l+*\") + Println(.ri+t*+(\"\"))" =
        (directives "Println" "Println(\"P*nl\") n .ri+t*+(Println(\"\"))").map
          (String.map swapSpecial) ∧
      directives ".ri+t*+" ".ri+t*+(\".l+*\") + Println(.ri+t*+(\"\"))" = [".l+*", ""] := by
  have hdirectives := (arguments_map_and_directives_map keepsMarks_swapSpecial "Println"
    "Println(\"P*nl\") n .ri+t*+(Println(\"\"))").2 keepsQuotes_swapSpecial
  have hname : "Println".map swapSpecial = ".ri+t*+" := by
    rw [← String.toList_inj, String.toList_map]
    decide
  have htext : "Println(\"P*nl\") n .ri+t*+(Println(\"\"))".map swapSpecial =
      ".ri+t*+(\".l+*\") + Println(.ri+t*+(\"\"))" := by
    rw [← String.toList_inj, String.toList_map]
    decide
  rw [hname, htext] at hdirectives
  exact ⟨keepsMarks_swapSpecial, keepsQuotes_swapSpecial, hdirectives, by decide +kernel⟩

end Printout
