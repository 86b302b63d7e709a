import Printout.Text.Newline

/-!
# Line endings in one pass

The two replacements of `normalize` amount to one reading from left to right that remembers a single
thing: whether the character before was a carriage return (`normalize_eq_readLines`). A reader of
that kind can stop and go on, so the normal form of a text is a beginning of that of every longer
text, also where the cut falls between a carriage return and its line feed
(`normalize_prefix_append`).
-/

set_option autoImplicit false

namespace Printout.Text

/-! ## The reader -/

/-- What the reader puts out for `c`. A carriage return ends the line at once, and a line feed is
left out `afterReturn`, since it belongs to the same line end. -/
def putLine (afterReturn : Bool) (c : Char) : List Char :=
  if c = '\r' then ['\n'] else if afterReturn ∧ c = '\n' then [] else [c]

/-- What the reader puts out for a text by `putLine`, one character after the other. -/
def readLines (afterReturn : Bool) : List Char → List Char
  | [] => []
  | c :: rest => putLine afterReturn c ++ readLines (c == '\r') rest

/-- Whether the last character the reader has seen is a carriage return. It has seen one
`afterReturn` before the text. -/
def endsInReturn (afterReturn : Bool) : List Char → Bool
  | [] => afterReturn
  | c :: rest => endsInReturn (c == '\r') rest

/-- A reader that stopped behind `text` goes on with what `endsInReturn` remembers. -/
theorem readLines_append (afterReturn : Bool) (text more : List Char) :
    readLines afterReturn (text ++ more) =
      readLines afterReturn text ++ readLines (endsInReturn afterReturn text) more := by
  induction text generalizing afterReturn with
  | nil => rfl
  | cons c text ih => rw [List.cons_append, readLines, readLines, ih, List.append_assoc]; rfl

/-! ## The two replacements -/

/-- A character that opens no pair is kept by `mergePairs`. -/
theorem mergePairs_cons {c : Char} {rest : List Char}
    (h : ∀ after, c = '\r' → rest ≠ '\n' :: after) :
    mergePairs (c :: rest) = c :: mergePairs rest := by
  rw [mergePairs]
  intro after hc hrest
  exact h after hc hrest

/-- The two replacements of `normalize` are one reading. -/
theorem normalize_eq_readLines (text : List Char) : normalize text = readLines false text := by
  rw [normalize]
  induction text using mergePairs.induct with
  | case1 rest ih =>
    rw [mergePairs_pair, List.map_cons, ih]
    rfl
  | case2 c rest hpair ih =>
    rw [mergePairs_cons hpair, List.map_cons, ih, readLines]
    by_cases hc : c = '\r'
    · subst hc
      cases rest with
      | nil => rfl
      | cons d rest =>
        have hd : d ≠ '\n' := fun h => hpair rest rfl (h ▸ rfl)
        simp [readLines, putLine, endLine, hd]
    · have hreturn : (c == '\r') = false := by simpa using hc
      simp [putLine, endLine, hc, hreturn]
  | case3 => rfl

/-- The normal form of a text is a beginning of the normal form of every longer text. -/
theorem normalize_prefix_append (text more : List Char) :
    normalize text <+: normalize (text ++ more) := by
  rw [normalize_eq_readLines, normalize_eq_readLines, readLines_append]
  exact List.prefix_append _ _

/-! ## Texts behind one another -/

/-- A text without carriage returns is left as it is, whatever follows it. -/
theorem normalize_append_of_notMem {text : List Char} (h : '\r' ∉ text) (more : List Char) :
    normalize (text ++ more) = text ++ normalize more := by
  induction text with
  | nil => rfl
  | cons c text ih =>
    have hc : c ≠ '\r' := fun hc => h (hc ▸ List.mem_cons_self)
    have hmerge : mergePairs (c :: (text ++ more)) = c :: mergePairs (text ++ more) :=
      mergePairs_cons fun _ h => absurd h hc
    have ih := ih fun hmem => h (List.mem_cons_of_mem c hmem)
    rw [normalize] at ih
    rw [List.cons_append, normalize, hmerge, List.map_cons, ih, List.cons_append]
    simp [endLine, hc]

/-- What stands before a text goes into the normal form by itself, less a carriage return that the
text behind it completes to a pair. -/
theorem exists_normalize_append (text more : List Char) :
    ∃ front, normalize (text ++ more) = front ++ normalize more ∧
      ∀ c ∈ front, c = '\n' ∨ c ∈ text := by
  suffices h : ∃ front, mergePairs (text ++ more) = front ++ mergePairs more ∧ front ⊆ text by
    obtain ⟨front, hfront, hsub⟩ := h
    refine ⟨front.map endLine, by rw [normalize, hfront, List.map_append, normalize], ?_⟩
    intro c hc
    obtain ⟨d, hd, rfl⟩ := List.mem_map.1 hc
    by_cases hreturn : d = '\r'
    · -- A carriage return that was left alone is a line feed now.
      exact Or.inl (by simp [endLine, hreturn])
    · exact Or.inr (by simpa [endLine, hreturn] using hsub hd)
  induction text using mergePairs.induct with
  | case1 rest ih =>
    obtain ⟨front, hfront, hsub⟩ := ih
    refine ⟨'\n' :: front, by simp [hfront], ?_⟩
    have hrest : front ⊆ '\r' :: '\n' :: rest := by
      intro c hc
      simp [hsub hc]
    exact List.cons_subset.2 ⟨by simp, hrest⟩
  | case2 c rest hpair ih =>
    obtain ⟨front, hfront, hsub⟩ := ih
    by_cases hmerge : ∃ after, c = '\r' ∧ rest ++ more = '\n' :: after
    · obtain ⟨after, rfl, hafter⟩ := hmerge
      cases rest with
      | nil =>
        -- The pair straddles the cut, and its line feed is the one that stays.
        rw [List.nil_append] at hafter
        subst hafter
        exact ⟨[], by simp [mergePairs_cons], by simp⟩
      | cons d rest =>
        simp only [List.cons_append, List.cons.injEq] at hafter
        exact absurd (by rw [hafter.1]) (hpair rest rfl)
    · have hcons : mergePairs (c :: (rest ++ more)) = c :: mergePairs (rest ++ more) :=
        mergePairs_cons fun after hc hrest => hmerge ⟨after, hc, hrest⟩
      refine ⟨c :: front, by rw [List.cons_append, hcons, hfront, List.cons_append], ?_⟩
      exact List.cons_subset_cons c hsub
  | case3 => exact ⟨[], rfl, by simp⟩

/-- No character comes into a text by `normalize` but the line feed. -/
theorem mem_normalize {c : Char} {text : List Char} (h : c ∈ normalize text) :
    c = '\n' ∨ c ∈ text := by
  obtain ⟨front, hfront, hmem⟩ := exists_normalize_append text []
  rw [List.append_nil, normalize_nil, List.append_nil] at hfront
  exact hmem c (hfront ▸ h)

end Printout.Text
