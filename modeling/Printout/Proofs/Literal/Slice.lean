import Printout.Directive
import Printout.Proofs.Literal

/-!
# Literals as slices

A literal is read off an argument by its bytes: the blanks at both ends are taken off, and if the
rest starts and ends with a quote, the literal is the slice between its first and its last byte
(`literalSlice?`). A slice between two bytes need not exist, for a place may lie behind the end or
within a character. This one always does, since a quote is a single byte. So the reading by bytes
has an answer for every argument, and the same as the reading by characters
(`literalSlice?_eq_some`).

What is read is laid down by the argument alone. `Quotation` takes an argument apart into blanks, a
quoted text or a single quote, and blanks. An argument can be taken apart in no more than one such
way (`Quotation.unique`), and it is a literal exactly if it can be (`literal?_reads_quotation`).
-/

set_option autoImplicit false

namespace Printout

/-! ## Slices -/

/-- The slice of a text between two places among its bytes. There is none where the places are out
of order, behind the end or within a character. -/
def slice? (text : String) (start stop : Nat) : Option String :=
  if h : start ≤ stop ∧ String.Pos.Raw.IsValid text ⟨start⟩ ∧
      String.Pos.Raw.IsValid text ⟨stop⟩ then
    some (String.extract ⟨⟨start⟩, h.2.1⟩ ⟨⟨stop⟩, h.2.2⟩)
  else none

/-- The place between two parts of a text is no place within a character. -/
theorem isValid_append (front back : String) :
    String.Pos.Raw.IsValid (front ++ back) ⟨front.utf8ByteSize⟩ :=
  String.Pos.Raw.isValid_iff_exists_append.2 ⟨front, back, rfl, rfl⟩

/-- A slice is there only between two places that bound one. -/
theorem bounds_of_slice? {text inside : String} {start stop : Nat}
    (h : slice? text start stop = some inside) :
    start ≤ stop ∧ String.Pos.Raw.IsValid text ⟨start⟩ ∧ String.Pos.Raw.IsValid text ⟨stop⟩ := by
  rw [slice?] at h
  split at h
  · assumption
  · simp at h

/-- A part of a text is the slice between its ends. -/
theorem slice?_append (front inside back : String) :
    slice? (front ++ inside ++ back) front.utf8ByteSize
      (front.utf8ByteSize + inside.utf8ByteSize) = some inside := by
  have hstart : String.Pos.Raw.IsValid (front ++ inside ++ back) ⟨front.utf8ByteSize⟩ := by
    rw [String.append_assoc]
    exact isValid_append _ _
  have hstop : String.Pos.Raw.IsValid (front ++ inside ++ back)
      ⟨front.utf8ByteSize + inside.utf8ByteSize⟩ := by
    rw [← String.utf8ByteSize_append]
    exact isValid_append _ _
  -- The slice is the part if it has the same bytes. First those in front of it are left out.
  rw [slice?, dif_pos ⟨Nat.le_add_right _ _, hstart, hstop⟩, Option.some.injEq,
    ← String.toByteArray_inj, String.toByteArray_extract, String.toByteArray_append,
    String.toByteArray_append, ByteArray.append_assoc]
  have hbehind := ByteArray.extract_append_size_add
    (a := front.toByteArray) (b := inside.toByteArray ++ back.toByteArray) (i := 0)
    (j := inside.utf8ByteSize)
  rw [String.size_toByteArray, Nat.add_zero] at hbehind
  rw [hbehind]
  exact ByteArray.extract_append_eq_left String.size_toByteArray.symm

/-! ## The reading by bytes -/

/-- An argument without the blanks at its ends. -/
def trimmed (argument : String) : String :=
  String.ofList (Text.trimBoth Text.isBlank argument.toList)

/-- A text starts with a quote and ends with one. A quote that stands alone does both. -/
def HasQuotes (text : String) : Prop :=
  text.toList.head? = some '"' ∧ text.toList.getLast? = some '"'

instance (text : String) : Decidable (HasQuotes text) := inferInstanceAs (Decidable (_ ∧ _))

/-- The literal of an argument, read by its bytes. Where a slice is taken that does not exist, the
reading has no answer at all. -/
def literalSlice? (argument : String) : Option (Option String) :=
  if HasQuotes (trimmed argument) then
    if (trimmed argument).utf8ByteSize = 1 then some (some "")
    else (slice? (trimmed argument) 1 ((trimmed argument).utf8ByteSize - 1)).map some
  else some none

/-- A text with quotes is a single quote, or a text between two. -/
theorem HasQuotes.cases {text : String} (h : HasQuotes text) :
    text = "\"" ∨ ∃ inside : String, text = "\"" ++ inside ++ "\"" := by
  obtain ⟨hfirst, hlast⟩ := h
  obtain ⟨body, hbody⟩ := List.head?_eq_some_iff.1 hfirst
  rw [hbody] at hlast
  cases body using List.reverseRec with
  | nil => exact Or.inl (String.toList_injective hbody)
  | append_singleton inside c _ =>
    rw [← List.cons_append, List.getLast?_concat, Option.some.injEq] at hlast
    refine Or.inr ⟨String.ofList inside, String.toList_injective ?_⟩
    simp [hbody, hlast]

/-- Between two quotes, the places behind the first and before the last byte bound a slice. -/
theorem slice?_quoted (inside : String) :
    slice? ("\"" ++ inside ++ "\"") 1 (("\"" ++ inside ++ "\"").utf8ByteSize - 1) =
      some inside := by
  have hquote : "\"".utf8ByteSize = 1 := by decide
  have hstop : ("\"" ++ inside ++ "\"").utf8ByteSize - 1 = 1 + inside.utf8ByteSize := by
    rw [String.utf8ByteSize_append, String.utf8ByteSize_append, hquote]
    omega
  have h := slice?_append "\"" inside "\""
  rwa [hquote, ← hstop] at h

theorem literal?_of_trimmed_quote {argument : String} (h : trimmed argument = "\"") :
    literal? argument = some "" := by
  have htrim : Text.trimBoth Text.isBlank argument.toList = ['"'] := String.ofList_injective h
  rw [literal?, unquote?, htrim]
  rfl

theorem literal?_of_trimmed_quoted {argument inside : String}
    (h : trimmed argument = "\"" ++ inside ++ "\"") : literal? argument = some inside := by
  have htrim : Text.trimBoth Text.isBlank argument.toList = '"' :: (inside.toList ++ ['"']) := by
    rw [← String.toList_ofList (l := Text.trimBoth Text.isBlank argument.toList)]
    exact (congrArg String.toList h).trans (by simp)
  rw [literal?, unquote?, htrim]
  simp

theorem literal?_of_not_hasQuotes {argument : String} (h : ¬ HasQuotes (trimmed argument)) :
    literal? argument = none := by
  have htrim : Text.trimBoth Text.isBlank argument.toList = (trimmed argument).toList :=
    String.toList_ofList.symm
  rw [literal?, unquote?, htrim]
  split
  · next body hbody =>
    rw [HasQuotes, hbody, List.head?_cons] at h
    cases body with
    | nil => exact absurd ⟨rfl, rfl⟩ h
    | cons c rest =>
      have hlast : (c :: rest).getLast? ≠ some '"' := fun hlast => h ⟨rfl, hlast⟩
      rw [if_neg (List.cons_ne_nil _ _), if_neg hlast]
      rfl
  · rfl

/-- The reading by bytes comes to an end on every argument, and reads what is read by characters. -/
theorem literalSlice?_eq_some (argument : String) :
    literalSlice? argument = some (literal? argument) := by
  rw [literalSlice?]
  by_cases hquotes : HasQuotes (trimmed argument)
  · rw [if_pos hquotes]
    rcases hquotes.cases with htrim | ⟨inside, htrim⟩
    · rw [literal?_of_trimmed_quote htrim, htrim]
      rfl
    · have hsize : ("\"" ++ inside ++ "\"").utf8ByteSize ≠ 1 := by
        have hquote : "\"".utf8ByteSize = 1 := by decide
        rw [String.utf8ByteSize_append, String.utf8ByteSize_append, hquote]
        omega
      rw [literal?_of_trimmed_quoted htrim, htrim, if_neg hsize, slice?_quoted, Option.map_some]
  · rw [if_neg hquotes, literal?_of_not_hasQuotes hquotes]

/-! ## Quotations -/

/-- An argument is blanks, then a text between quotes or a single quote, then blanks. -/
structure Quotation (argument front inside back : String) : Prop where
  blank_front : ∀ c ∈ front.toList, Text.isBlank c = true
  blank_back : ∀ c ∈ back.toList, Text.isBlank c = true
  eq_append : argument = front ++ "\"" ++ inside ++ "\"" ++ back ∨
    inside = "" ∧ argument = front ++ "\"" ++ back

variable {argument front inside back : String}

/-- The literal of an argument is what its quotation holds. -/
theorem literal?_eq_some_iff :
    literal? argument = some inside ↔ ∃ front back, Quotation argument front inside back := by
  have hliteral : literal? argument = some inside ↔
      unquote? argument.toList = some inside.toList := by
    rw [literal?, Option.map_eq_some_iff]
    constructor
    · rintro ⟨chars, hchars, rfl⟩
      rw [hchars, String.toList_ofList]
    · intro h
      exact ⟨_, h, String.ofList_toList⟩
  rw [hliteral, unquote?_eq_some_iff]
  constructor
  · rintro ⟨front, back, hfront, hback, h⟩
    refine ⟨String.ofList front, String.ofList back, by simpa using hfront,
      by simpa using hback, ?_⟩
    rcases h with h | ⟨hinside, h⟩
    · exact Or.inl (String.toList_injective (by simp [h]))
    · refine Or.inr ⟨String.toList_injective (by simpa using hinside), ?_⟩
      exact String.toList_injective (by simp [h])
  · rintro ⟨front, back, hfront, hback, h⟩
    refine ⟨front.toList, back.toList, hfront, hback, ?_⟩
    rcases h with rfl | ⟨rfl, rfl⟩
    · exact Or.inl (by simp)
    · exact Or.inr ⟨rfl, by simp⟩

/-- Blanks before a quote are all that stands before it. -/
theorem Text.append_quote_inj {front front' rest rest' : List Char}
    (hfront : ∀ c ∈ front, Text.isBlank c = true) (hfront' : ∀ c ∈ front', Text.isBlank c = true)
    (h : front ++ '"' :: rest = front' ++ '"' :: rest') : front = front' ∧ rest = rest' := by
  have htake := congrArg (List.takeWhile Text.isBlank) h
  simp only [List.takeWhile_append_of_pos hfront, List.takeWhile_append_of_pos hfront',
    List.takeWhile_cons, Text.isBlank_quote, Bool.false_eq_true, if_false, List.append_nil] at htake
  subst htake
  exact ⟨rfl, (List.cons.inj (List.append_cancel_left h)).2⟩

/-- What stands behind the first quote of a quotation. -/
theorem Quotation.exists_rest (h : Quotation argument front inside back) :
    ∃ rest, argument.toList = front.toList ++ '"' :: rest ∧
      (rest = inside.toList ++ '"' :: back.toList ∨ inside = "" ∧ rest = back.toList) := by
  rcases h.eq_append with heq | ⟨hinside, heq⟩
  · exact ⟨inside.toList ++ '"' :: back.toList, by simp [heq], Or.inl rfl⟩
  · exact ⟨back.toList, by simp [heq], Or.inr ⟨hinside, rfl⟩⟩

/-- There is no more than one quotation in an argument. -/
theorem Quotation.unique {front' inside' back' : String}
    (h : Quotation argument front inside back) (h' : Quotation argument front' inside' back') :
    front = front' ∧ inside = inside' ∧ back = back' := by
  have hinside : inside = inside' := by
    have hliteral := literal?_eq_some_iff.2 ⟨front, back, h⟩
    rw [literal?_eq_some_iff.2 ⟨front', back', h'⟩] at hliteral
    exact (Option.some.inj hliteral).symm
  subst hinside
  obtain ⟨rest, hargument, hrest⟩ := h.exists_rest
  obtain ⟨rest', hargument', hrest'⟩ := h'.exists_rest
  rw [hargument] at hargument'
  obtain ⟨hfront, rfl⟩ := Text.append_quote_inj h.blank_front h'.blank_front hargument'
  have hquote : '"' ∉ back.toList := fun hmem => absurd (h.blank_back _ hmem) (by decide)
  have hquote' : '"' ∉ back'.toList := fun hmem => absurd (h'.blank_back _ hmem) (by decide)
  refine ⟨String.toList_injective hfront, rfl, String.toList_injective ?_⟩
  rcases hrest with hrest | ⟨hempty, hrest⟩
  · rcases hrest' with hrest' | ⟨-, hrest'⟩
    · rw [hrest] at hrest'
      exact (List.cons.inj (List.append_cancel_left hrest')).2
    · -- The second quote would be a blank.
      rw [hrest] at hrest'
      exact absurd (hrest' ▸ by simp) hquote'
  · rcases hrest' with hrest' | ⟨-, hrest'⟩
    · rw [hrest] at hrest'
      exact absurd (hrest' ▸ by simp) hquote
    · exact hrest.symm.trans hrest'

/-- An argument is a literal exactly if a quotation stands in it, and the literal is what the
quotation holds. It has no other quotation. Read by its bytes, every argument has an answer, and the
same one: where the argument without its blanks starts and ends with a quote and has more than one
byte, the places behind its first and before its last byte lie in order, within it and between
characters. -/
theorem literal?_reads_quotation :
    (∀ argument inside : String, literal? argument = some inside ↔
      ∃ front back, Quotation argument front inside back) ∧
    (∀ argument : String, literal? argument = none ↔
      ¬ ∃ front inside back, Quotation argument front inside back) ∧
    (∀ argument front inside back front' inside' back' : String,
      Quotation argument front inside back → Quotation argument front' inside' back' →
        front = front' ∧ inside = inside' ∧ back = back') ∧
    (∀ argument : String, literalSlice? argument = some (literal? argument)) ∧
    ∀ argument : String, HasQuotes (trimmed argument) → (trimmed argument).utf8ByteSize ≠ 1 →
      1 ≤ (trimmed argument).utf8ByteSize - 1 ∧
        String.Pos.Raw.IsValid (trimmed argument) ⟨1⟩ ∧
        String.Pos.Raw.IsValid (trimmed argument) ⟨(trimmed argument).utf8ByteSize - 1⟩ := by
  refine ⟨fun _ _ => literal?_eq_some_iff, ?_, fun _ _ _ _ _ _ _ h h' => h.unique h',
    literalSlice?_eq_some, ?_⟩
  · intro argument
    rw [Option.eq_none_iff_forall_ne_some]
    constructor
    · rintro h ⟨front, inside, back, hquotation⟩
      exact h inside (literal?_eq_some_iff.2 ⟨front, back, hquotation⟩)
    · intro h inside hliteral
      obtain ⟨front, back, hquotation⟩ := literal?_eq_some_iff.1 hliteral
      exact h ⟨front, inside, back, hquotation⟩
  · intro argument hquotes hsize
    rcases hquotes.cases with htrim | ⟨inside, htrim⟩
    · rw [htrim] at hsize
      exact absurd (by decide) hsize
    · rw [htrim]
      exact bounds_of_slice? (slice?_quoted inside)

/-- Characters of several bytes stand next to the quotes, and blanks of two kinds around them. -/
theorem literal?_reads_quotation_of_accents :
    Quotation "\u2003\"éß\"\x1f" "\u2003" "éß" "\x1f" ∧
      literal? "\u2003\"éß\"\x1f" = some "éß" ∧
      ¬ Quotation "\u2003\"éß\"\x1f" "" "éß" "\x1f" ∧
      HasQuotes (trimmed "\u2003\"éß\"\x1f") ∧
      (trimmed "\u2003\"éß\"\x1f").utf8ByteSize = 6 ∧
      String.Pos.Raw.IsValid (trimmed "\u2003\"éß\"\x1f") ⟨5⟩ := by
  have hquotation : Quotation "\u2003\"éß\"\x1f" "\u2003" "éß" "\x1f" :=
    ⟨List.all_eq_true.1 (by decide), List.all_eq_true.1 (by decide), Or.inl (by decide)⟩
  have hquotes : HasQuotes (trimmed "\u2003\"éß\"\x1f") := by decide
  have hsize : (trimmed "\u2003\"éß\"\x1f").utf8ByteSize = 6 := by decide
  obtain ⟨hliteral, -, hunique, -, hbounds⟩ := literal?_reads_quotation
  refine ⟨hquotation, (hliteral _ _).2 ⟨_, _, hquotation⟩, ?_, hquotes, hsize, ?_⟩
  · intro h
    exact absurd (hunique _ _ _ _ _ _ _ hquotation h).1 (by decide)
  · have h := (hbounds _ hquotes (by rw [hsize]; decide)).2.2
    rwa [hsize] at h

end Printout
