import Mathlib.Data.List.DropRight
import Printout.Text.Blank

/-!
# Trimming

`trimBoth` takes off a front and a back that consist of dropped characters only
(`exists_eq_append_trimBoth`). The other way round, a text whose first and last characters are kept
comes out of every such front and back unharmed (`trimBoth_append`).
-/

set_option autoImplicit false

namespace Printout.Text

variable {drop : Char → Bool}

/-- What `trimBoth` takes off consists of dropped characters. -/
theorem exists_eq_append_trimBoth (drop : Char → Bool) (text : List Char) :
    ∃ front back, text = front ++ (trimBoth drop text ++ back) ∧
      (∀ c ∈ front, drop c = true) ∧ ∀ c ∈ back, drop c = true := by
  refine ⟨text.takeWhile drop, (text.dropWhile drop).rtakeWhile drop, ?_, ?_, ?_⟩
  · change text = text.takeWhile drop ++
      ((text.dropWhile drop).rdropWhile drop ++ (text.dropWhile drop).rtakeWhile drop)
    rw [List.rdropWhile_append_rtakeWhile, List.takeWhile_append_dropWhile]
  · intro c hc
    exact List.mem_takeWhile_imp hc
  · intro c hc
    exact List.mem_rtakeWhile_imp hc

/-- A text whose ends are kept is what trimming leaves of it between dropped characters. -/
theorem trimBoth_append {front text back : List Char} (hne : text ≠ [])
    (hfront : ∀ c ∈ front, drop c = true) (hback : ∀ c ∈ back, drop c = true)
    (hfirst : drop (text.head hne) = false) (hlast : drop (text.getLast hne) = false) :
    trimBoth drop (front ++ (text ++ back)) = text := by
  have hleft : (front ++ (text ++ back)).dropWhile drop = text ++ back := by
    rw [List.dropWhile_append_of_pos hfront]
    cases text with
    | nil => exact absurd rfl hne
    | cons c text => simp only [List.head_cons] at hfirst; simp [hfirst]
  have hright : (text ++ back).reverse.dropWhile drop = text.reverse := by
    rw [List.reverse_append, List.dropWhile_append_of_pos (by simpa using hback)]
    cases hreverse : text.reverse with
    | nil => exact absurd (List.reverse_eq_nil_iff.1 hreverse) hne
    | cons c rest =>
      have hc : text.getLast hne = c := by simp [← List.head_reverse, hreverse]
      rw [hc] at hlast
      simp [hlast]
  rw [trimBoth, hleft, hright, List.reverse_reverse]

end Printout.Text
