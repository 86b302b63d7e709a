import Printout.Proofs.Json.Scalar

/-!
# Numbers are read by their grammar

A number does not end of itself: a digit more would belong to it. So its reader takes all that can
belong to it, and what is read is a number of the grammar (`exists_numeralText_of_readNumeral`).
The other way round, a number of the grammar is read as a whole, with all its parts, where nothing
follows that would carry it on (`readNumeral_writes`). Before a blank, a comma, a closing bracket
and the end of the text this is so for all numbers (`readNumeral_numeralText`).
-/

set_option autoImplicit false

namespace Printout.Json

variable {text rest digits : List Char} {atEnd : Cause} {negative : Bool}

/-- What follows a number, `rest`, does not carry it on. -/
def EndsNumber (rest : List Char) : Prop :=
  ∀ c ∈ rest.head?, isDigit c = false ∧ c ≠ '.' ∧ c ≠ 'e' ∧ c ≠ 'E'

theorem endsNumber_cons {c : Char} (h : isDigit c = false ∧ c ≠ '.' ∧ c ≠ 'e' ∧ c ≠ 'E')
    (rest : List Char) : EndsNumber (c :: rest) := by
  simpa [EndsNumber] using h

/-- Blanks end a number. -/
theorem EndsNumber.blanks_append {blanks : List Char} (hblanks : Blanks blanks)
    (h : EndsNumber rest) : EndsNumber (blanks ++ rest) := by
  cases blanks with
  | nil => exact h
  | cons c blanks =>
    have hc := hblanks c List.mem_cons_self
    refine endsNumber_cons ?_ _
    rcases hc with rfl | rfl | rfl | rfl <;> decide

/-! ## Numbers with their parts -/

/-- A fraction, if there is one, and its digits. -/
inductive FractionOf : List Char → Option (List Char) → Prop where
  | none : FractionOf [] none
  | some {digits : List Char} : DigitRun digits → FractionOf ('.' :: digits) (some digits)

/-- An exponent, if there is one, whether it is negative, and its digits. -/
inductive ExponentOf : List Char → Option (Bool × List Char) → Prop where
  | none : ExponentOf [] none
  | some {letter : Char} {sign digits : List Char} {negative : Bool} : letter = 'e' ∨ letter = 'E' →
      (sign, negative) ∈ [([], false), (['+'], false), (['-'], true)] → DigitRun digits →
      ExponentOf (letter :: (sign ++ digits)) (some (negative, digits))

/-- The text of a number behind its sign, by its parts. -/
inductive Numeral.Writes : Numeral → List Char → Prop where
  | mk {negative : Bool} {whole front back : List Char} {fraction : Option (List Char)}
      {exponent : Option (Bool × List Char)} : WholeText whole → FractionOf front fraction →
      ExponentOf back exponent →
      Writes ⟨negative, whole, fraction, exponent⟩ (whole ++ (front ++ back))

/-- What follows a number does not carry it on. A digit carries on any number, be it to one with a
leading zero; a point does so up to the fraction, and the letter of an exponent up to the
exponent. -/
def Numeral.EndsBefore (numeral : Numeral) (rest : List Char) : Prop :=
  ∀ c ∈ rest.head?, isDigit c = false ∧
    (numeral.fraction = none → numeral.exponent = none → c ≠ '.') ∧
    (numeral.exponent = none → c ≠ 'e' ∧ c ≠ 'E')

theorem EndsNumber.endsBefore (h : EndsNumber rest) (numeral : Numeral) :
    numeral.EndsBefore rest := by
  intro c hc
  obtain ⟨hdigit, hpoint, hletter⟩ := h c hc
  exact ⟨hdigit, fun _ _ => hpoint, fun _ => hletter⟩

theorem exists_fractionOf (h : FractionText text) : ∃ fraction, FractionOf text fraction := by
  cases h with
  | none => exact ⟨none, .none⟩
  | some hdigits => exact ⟨some _, .some hdigits⟩

theorem exists_exponentOf (h : ExponentText text) : ∃ exponent, ExponentOf text exponent := by
  cases h with
  | none => exact ⟨none, .none⟩
  | some hletter hsign hdigits =>
    simp only [List.mem_cons, List.not_mem_nil, or_false] at hsign
    rcases hsign with rfl | rfl | rfl
    · exact ⟨some (false, _), .some hletter (by simp) hdigits⟩
    · exact ⟨some (false, _), .some hletter (by simp) hdigits⟩
    · exact ⟨some (true, _), .some hletter (by simp) hdigits⟩

/-- A number of the grammar has parts, be it `negative` or not. -/
theorem exists_writes (h : NumeralText text) (negative : Bool) :
    ∃ numeral : Numeral, numeral.negative = negative ∧ numeral.Writes text := by
  obtain ⟨hwhole, hfraction, hexponent⟩ := h
  obtain ⟨fraction, hfraction⟩ := exists_fractionOf hfraction
  obtain ⟨exponent, hexponent⟩ := exists_exponentOf hexponent
  exact ⟨⟨negative, _, fraction, exponent⟩, rfl, .mk hwhole hfraction hexponent⟩

/-! ## Digits -/

/-- The digits that are read are all there are. -/
theorem span_digits (hdigits : ∀ c ∈ digits, isDigit c = true)
    (hrest : ∀ c ∈ rest.head?, isDigit c = false) :
    (digits ++ rest).takeWhile isDigit = digits ∧ (digits ++ rest).dropWhile isDigit = rest := by
  rw [List.takeWhile_append_of_pos hdigits, List.dropWhile_append_of_pos hdigits]
  cases rest with
  | nil => simp
  | cons c rest =>
    have hc : isDigit c = false := hrest c (by simp)
    simp [hc]

theorem digitRun_cons_takeWhile {d : Char} (hd : isDigit d = true) (text : List Char) :
    DigitRun (d :: text.takeWhile isDigit) := by
  refine ⟨List.cons_ne_nil _ _, ?_⟩
  intro c hc
  rw [List.mem_cons] at hc
  rcases hc with rfl | hc
  · exact hd
  · exact List.mem_takeWhile_imp hc

/-! ## The parts of a number -/

theorem readWhole_eq_ok {whole : List Char} (h : readWhole atEnd text = .ok (whole, rest)) :
    text = whole ++ rest ∧ WholeText whole := by
  rw [readWhole.eq_def] at h
  split at h
  · cases h
  · next c after =>
    split at h
    · next hzero =>
      subst hzero
      split at h
      · split at h
        · cases h
        · cases h
          exact ⟨rfl, .zero⟩
      · cases h
        exact ⟨rfl, .zero⟩
    · next hzero =>
      split at h
      · next hdigit =>
        cases h
        refine ⟨?_, .digits hzero (digitRun_cons_takeWhile hdigit after)⟩
        rw [List.cons_append, List.takeWhile_append_dropWhile]
      · cases h

theorem readWhole_wholeText {whole : List Char} (h : WholeText whole)
    (hrest : ∀ c ∈ rest.head?, isDigit c = false) :
    readWhole atEnd (whole ++ rest) = .ok (whole, rest) := by
  cases h with
  | zero =>
    cases rest with
    | nil => rfl
    | cons c rest =>
      have hc : isDigit c = false := hrest c (by simp)
      simp [readWhole, hc]
  | @digits d digits hzero hdigits =>
    obtain ⟨htake, hdrop⟩ :=
      span_digits (fun c hc => hdigits.2 c (List.mem_cons_of_mem d hc)) hrest
    have hd : isDigit d = true := hdigits.2 d List.mem_cons_self
    simp [readWhole, hzero, hd, htake, hdrop]

theorem readFraction_eq_ok {fraction : Option (List Char)}
    (h : readFraction atEnd text = .ok (fraction, rest)) :
    ∃ front, text = front ++ rest ∧ FractionText front := by
  rw [readFraction.eq_def] at h
  split at h
  · split at h
    · cases h
    · next d after =>
      split at h
      · next hdigit =>
        cases h
        refine ⟨'.' :: (d :: after).takeWhile isDigit, ?_, .some ?_⟩
        · rw [List.cons_append, List.takeWhile_append_dropWhile]
        · rw [List.takeWhile_cons_of_pos hdigit]
          exact digitRun_cons_takeWhile hdigit after
      · cases h
  · cases h
    exact ⟨[], rfl, .none⟩

theorem readFraction_fractionOf {front : List Char} {fraction : Option (List Char)}
    (h : FractionOf front fraction)
    (hrest : ∀ c ∈ rest.head?, isDigit c = false ∧ (fraction = none → c ≠ '.')) :
    readFraction atEnd (front ++ rest) = .ok (fraction, rest) := by
  cases h with
  | none =>
    rw [List.nil_append, readFraction.eq_def]
    split
    · exact absurd rfl ((hrest '.' (by simp)).2 rfl)
    · rfl
  | @some digits hdigits =>
    obtain ⟨htake, hdrop⟩ := span_digits hdigits.2 fun c hc => (hrest c hc).1
    obtain ⟨hne, hall⟩ := hdigits
    cases digits with
    | nil => exact absurd rfl hne
    | cons d digits =>
      have hd : isDigit d = true := hall d List.mem_cons_self
      rw [List.cons_append] at htake hdrop
      simp only [List.cons_append, readFraction, hd, if_true, htake, hdrop]

theorem readExponentDigits_eq_ok {exponent : Option (Bool × List Char)}
    (h : readExponentDigits atEnd negative text = .ok (exponent, rest)) :
    ∃ digits, text = digits ++ rest ∧ DigitRun digits := by
  rw [readExponentDigits.eq_def] at h
  split at h
  · cases h
  · next d after =>
    split at h
    · next hdigit =>
      cases h
      refine ⟨d :: after.takeWhile isDigit, ?_, digitRun_cons_takeWhile hdigit after⟩
      rw [List.cons_append, List.takeWhile_append_dropWhile]
    · cases h

theorem readExponentDigits_digitRun (h : DigitRun digits)
    (hrest : ∀ c ∈ rest.head?, isDigit c = false) :
    readExponentDigits atEnd negative (digits ++ rest) = .ok (some (negative, digits), rest) := by
  obtain ⟨hne, hall⟩ := h
  cases digits with
  | nil => exact absurd rfl hne
  | cons d digits =>
    obtain ⟨htake, hdrop⟩ := span_digits (fun c hc => hall c (List.mem_cons_of_mem d hc)) hrest
    have hd : isDigit d = true := hall d List.mem_cons_self
    simp [readExponentDigits, hd, htake, hdrop]

theorem readExponent_eq_ok {exponent : Option (Bool × List Char)}
    (h : readExponent atEnd text = .ok (exponent, rest)) :
    ∃ front, text = front ++ rest ∧ ExponentText front := by
  rw [readExponent.eq_def] at h
  split at h
  · cases h
    exact ⟨[], rfl, .none⟩
  · next letter after =>
    split at h
    · next hletter =>
      split at h
      · obtain ⟨digits, rfl, hdigits⟩ := readExponentDigits_eq_ok h
        exact ⟨letter :: (['+'] ++ digits), rfl, .some hletter (by simp) hdigits⟩
      · obtain ⟨digits, rfl, hdigits⟩ := readExponentDigits_eq_ok h
        exact ⟨letter :: (['-'] ++ digits), rfl, .some hletter (by simp) hdigits⟩
      · obtain ⟨digits, rfl, hdigits⟩ := readExponentDigits_eq_ok h
        exact ⟨letter :: ([] ++ digits), rfl, .some hletter (by simp) hdigits⟩
    · cases h
      exact ⟨[], rfl, .none⟩

theorem readExponent_exponentOf {front : List Char} {exponent : Option (Bool × List Char)}
    (h : ExponentOf front exponent)
    (hrest : ∀ c ∈ rest.head?, isDigit c = false ∧ (exponent = none → c ≠ 'e' ∧ c ≠ 'E')) :
    readExponent atEnd (front ++ rest) = .ok (exponent, rest) := by
  cases h with
  | none =>
    cases rest with
    | nil => rfl
    | cons c rest =>
      obtain ⟨hsmall, hcapital⟩ := (hrest c (by simp)).2 rfl
      simp [readExponent, hsmall, hcapital]
  | @some letter sign digits negative hletter hsign hdigits =>
    have hread : readExponentDigits atEnd negative (digits ++ rest) =
        .ok (some (negative, digits), rest) :=
      readExponentDigits_digitRun hdigits fun c hc => (hrest c hc).1
    simp only [List.mem_cons, List.not_mem_nil, or_false, Prod.mk.injEq] at hsign
    rcases hsign with ⟨rfl, rfl⟩ | ⟨rfl, rfl⟩ | ⟨rfl, rfl⟩
    · -- The first digit is no sign.
      obtain ⟨hne, hall⟩ := hdigits
      cases digits with
      | nil => exact absurd rfl hne
      | cons d digits =>
        have hd : isDigit d = true := hall d List.mem_cons_self
        refine Eq.trans ?_ hread
        simp only [List.nil_append, List.cons_append, readExponent, if_pos hletter]
        split
        · next heq =>
          obtain ⟨rfl, -⟩ := List.cons.inj heq
          exact absurd hd (by decide)
        · next heq =>
          obtain ⟨rfl, -⟩ := List.cons.inj heq
          exact absurd hd (by decide)
        · rfl
    · refine Eq.trans ?_ hread
      simp [readExponent, hletter]
    · refine Eq.trans ?_ hread
      simp [readExponent, hletter]

/-! ## Whole numbers -/

/-- What `readNumeral` reads is a number. -/
theorem exists_numeralText_of_readNumeral {numeral : Numeral}
    (h : readNumeral atEnd negative text = .ok (numeral, rest)) :
    ∃ front, text = front ++ rest ∧ NumeralText front := by
  obtain ⟨⟨whole, first⟩, hwhole, h⟩ := bind_eq_ok.1 h
  obtain ⟨⟨fraction, second⟩, hfraction, h⟩ := bind_eq_ok.1 h
  obtain ⟨⟨exponent, third⟩, hexponent, h⟩ := map_eq_ok.1 h
  cases h
  obtain ⟨rfl, hwholeText⟩ := readWhole_eq_ok hwhole
  obtain ⟨front, rfl, hfractionText⟩ := readFraction_eq_ok hfraction
  obtain ⟨back, rfl, hexponentText⟩ := readExponent_eq_ok hexponent
  exact ⟨whole ++ (front ++ back), by simp, .mk hwholeText hfractionText hexponentText⟩

/-- An exponent ends the digits before it, and is no fraction. -/
theorem head?_exponentOf {front : List Char} {fraction : Option (List Char)}
    {exponent : Option (Bool × List Char)} (h : ExponentOf front exponent)
    (hrest : ∀ c ∈ rest.head?, isDigit c = false ∧ (fraction = none → exponent = none → c ≠ '.')) :
    ∀ c ∈ (front ++ rest).head?, isDigit c = false ∧ (fraction = none → c ≠ '.') := by
  cases h with
  | none =>
    intro c hc
    obtain ⟨hdigit, hpoint⟩ := hrest c hc
    exact ⟨hdigit, fun hnone => hpoint hnone rfl⟩
  | some hletter =>
    intro c hc
    obtain rfl : _ = c := by simpa using hc
    rcases hletter with rfl | rfl <;> exact ⟨by decide, fun _ => by decide⟩

/-- A fraction ends the digits before it. -/
theorem head?_fractionOf {front : List Char} {fraction : Option (List Char)}
    (h : FractionOf front fraction) (hrest : ∀ c ∈ rest.head?, isDigit c = false) :
    ∀ c ∈ (front ++ rest).head?, isDigit c = false := by
  cases h with
  | none => exact hrest
  | some =>
    intro c hc
    obtain rfl : '.' = c := by simpa using hc
    decide

/-- A number is read as a whole, unless `rest` carries it on. -/
theorem readNumeral_writes {numeral : Numeral} {front : List Char} (h : numeral.Writes front)
    (hrest : numeral.EndsBefore rest) :
    readNumeral atEnd numeral.negative (front ++ rest) = .ok (numeral, rest) := by
  obtain @⟨negative, whole, front, back, fraction, exponent, hwhole, hfraction, hexponent⟩ := h
  have hbehind : ∀ c ∈ (back ++ rest).head?, isDigit c = false ∧ (fraction = none → c ≠ '.') :=
    head?_exponentOf hexponent fun c hc => ⟨(hrest c hc).1, (hrest c hc).2.1⟩
  have hwholeRead : readWhole atEnd (whole ++ (front ++ (back ++ rest))) = _ :=
    readWhole_wholeText hwhole (head?_fractionOf hfraction fun c hc => (hbehind c hc).1)
  have hfractionRead : readFraction atEnd (front ++ (back ++ rest)) = _ :=
    readFraction_fractionOf hfraction hbehind
  have hexponentRead : readExponent atEnd (back ++ rest) = _ :=
    readExponent_exponentOf hexponent fun c hc => ⟨(hrest c hc).1, (hrest c hc).2.2⟩
  rw [List.append_assoc, List.append_assoc, readNumeral, hwholeRead]
  simp [Except.bind, Except.map, hfractionRead, hexponentRead]

/-- Any number is read as a whole before what `EndsNumber` holds of. -/
theorem readNumeral_numeralText {front : List Char} (h : NumeralText front)
    (hrest : EndsNumber rest) :
    ∃ numeral, readNumeral atEnd negative (front ++ rest) = .ok (numeral, rest) := by
  obtain ⟨numeral, rfl, hwrites⟩ := exists_writes h negative
  exact ⟨numeral, readNumeral_writes hwrites (hrest.endsBefore numeral)⟩

end Printout.Json
