import Printout.Literal
import Printout.Proofs.Text.Trim

/-!
# The inside of a string literal

An argument is a literal if blanks surround a quoted text, or a single quote
(`unquote?_eq_some_iff`).
-/

set_option autoImplicit false

namespace Printout

open Text

variable {argument inside : List Char}

/-- Between blanks stands a text in quotes. -/
theorem unquote?_quoted {front back : List Char} (inside : List Char)
    (hfront : ∀ c ∈ front, isBlank c = true) (hback : ∀ c ∈ back, isBlank c = true) :
    unquote? (front ++ '"' :: (inside ++ '"' :: back)) = some inside := by
  have htrim : trimBoth isBlank (front ++ ('"' :: (inside ++ ['"']) ++ back)) =
      '"' :: (inside ++ ['"']) :=
    trimBoth_append (by simp) hfront hback (by simp) (by simp)
  have hwhole : front ++ '"' :: (inside ++ '"' :: back) =
      front ++ ('"' :: (inside ++ ['"']) ++ back) := by simp
  rw [unquote?, hwhole, htrim]
  simp

/-- Between blanks stands a single quote. -/
theorem unquote?_quote {front back : List Char}
    (hfront : ∀ c ∈ front, isBlank c = true) (hback : ∀ c ∈ back, isBlank c = true) :
    unquote? (front ++ '"' :: back) = some [] := by
  have htrim : trimBoth isBlank (front ++ (['"'] ++ back)) = ['"'] :=
    trimBoth_append (by simp) hfront hback (by simp) (by simp)
  rw [unquote?, ← List.singleton_append, htrim]
  simp

/-- A literal is a quoted text or a single quote, between blanks. -/
theorem unquote?_eq_some_iff :
    unquote? argument = some inside ↔
      ∃ front back, (∀ c ∈ front, isBlank c = true) ∧ (∀ c ∈ back, isBlank c = true) ∧
        (argument = front ++ '"' :: (inside ++ '"' :: back) ∨
          inside = [] ∧ argument = front ++ '"' :: back) := by
  constructor
  · intro h
    obtain ⟨front, back, hargument, hfront, hback⟩ := exists_eq_append_trimBoth isBlank argument
    refine ⟨front, back, hfront, hback, ?_⟩
    rw [unquote?] at h
    split at h
    · next body htrim =>
      rw [htrim] at hargument
      split at h
      · -- The quote is the start and the end at once.
        next hbody =>
        simp only [Option.some.injEq] at h
        exact Or.inr ⟨h.symm, by simpa [hbody] using hargument⟩
      · split at h
        · next hlast =>
          simp only [Option.some.injEq] at h
          have hbody : body = inside ++ ['"'] := by
            rw [← h, List.dropLast_append_getLast? '"' hlast]
          exact Or.inl (by simpa [hbody] using hargument)
        · simp at h
    · simp at h
  · rintro ⟨front, back, hfront, hback, rfl | ⟨rfl, rfl⟩⟩
    · exact unquote?_quoted inside hfront hback
    · exact unquote?_quote hfront hback

/-- The inside of a literal is a part of the argument. -/
theorem subset_of_unquote? (h : unquote? argument = some inside) : inside ⊆ argument := by
  obtain ⟨front, back, -, -, rfl | ⟨rfl, rfl⟩⟩ := unquote?_eq_some_iff.1 h
  · intro c hc
    simp [hc]
  · exact List.nil_subset _

end Printout
