import Printout.Proofs.Settings.Member

/-!
# What is found where a value is due

The reader of a choice tells what it found if the value there is of the wrong type. `Finds` says how
much of a value is needed to know it, and on what the answer rests behind that. A word and a string
are known at their end, and a list and an object at their opening bracket, whatever follows. A
number ends where something follows that does not carry it on. What is found does not depend on
anything beyond (`readFound_of_finds`).
-/

set_option autoImplicit false

namespace Printout.Json

variable {text rest digits whole : List Char} {limit m n : Nat} {numeral : Numeral} {found : Found}

/-! ## Values of numbers -/

/-- A number of digits is at least as great as what stands before them. -/
theorem le_ofDigitChars (digits : List Char) (n : Nat) : n ≤ Nat.ofDigitChars 10 digits n := by
  induction digits generalizing n with
  | nil => simp
  | cons d digits ih =>
    rw [Nat.ofDigitChars_cons]
    have hle := ih (10 * n + (d.toNat - '0'.toNat))
    omega

/-- By `appendDigits`, all digits are taken exactly if the number they write is within `limit`. -/
theorem appendDigits_eq_iff (hn : n ≤ limit) :
    appendDigits limit n digits = (m, []) ↔
      m = Nat.ofDigitChars 10 digits n ∧ Nat.ofDigitChars 10 digits n ≤ limit := by
  induction digits generalizing n with
  | nil => simp [appendDigits, hn, eq_comm]
  | cons d digits ih =>
    have hnext : n * 10 + digitValue d = 10 * n + (d.toNat - '0'.toNat) := by
      rw [digitValue, Nat.mul_comm]
      rfl
    rw [appendDigits, Nat.ofDigitChars_cons, hnext]
    split
    · next hle => exact ih hle
    · next hgt =>
      refine iff_of_false (by simp) ?_
      rintro ⟨-, hle⟩
      exact hgt (Nat.le_trans (le_ofDigitChars digits _) hle)

/-- What a number is found to be. A whole number that fits a machine word is an integer; all others,
the negative zero among them, are floating point numbers, if they are not out of range. -/
inductive Numeral.Denotes : Numeral → Found → Prop where
  | natural {whole : List Char} : Nat.ofDigitChars 10 whole 0 ≤ maxUnsigned →
      Denotes ⟨false, whole, none, none⟩ (.integer (Nat.ofDigitChars 10 whole 0))
  | negative {whole : List Char} : 0 < Nat.ofDigitChars 10 whole 0 →
      Nat.ofDigitChars 10 whole 0 ≤ maxSigned + 1 →
      Denotes ⟨true, whole, none, none⟩ (.integer (-(Nat.ofDigitChars 10 whole 0 : Nat)))
  | float {numeral : Numeral} {value : Decimal.Binary} : numeral.value [] = .ok (.float value) →
      Denotes numeral (.float value)

theorem maxSigned_lt_maxUnsigned : maxSigned < maxUnsigned := by decide

/-- Where `numeral` has a value, the text behind it makes no difference to it. -/
theorem value_eq_ok_congr (h : numeral.value rest = .ok found) (rest' : List Char) :
    numeral.value rest' = .ok found := by
  rw [Numeral.value] at h ⊢
  cases hexponent : numeral.exponent with
  | none =>
    simp only [hexponent] at h ⊢
    split at h
    · next hwhole => rwa [if_pos hwhole]
    · next hwhole =>
      rw [if_neg hwhole]
      split at h
      · exact h
      · cases h
  | some exponent =>
    simp only [hexponent] at h ⊢
    split at h
    · split at h
      · exact h
      · cases h
    · split at h
      · cases h
      · next hsmall => rwa [if_neg hsmall]

/-- Only a whole number that fits a machine word has an integer for its value. -/
theorem whole_of_value_ne_float (h : numeral.value rest = .ok found)
    (hinteger : ∀ value, found ≠ .float value) :
    numeral.fraction = none ∧ numeral.exponent = none ∧
      ∃ n, appendDigits maxUnsigned 0 numeral.whole = (n, []) ∧
        found = .ofInteger numeral.negative n := by
  rw [Numeral.value] at h
  cases hexponent : numeral.exponent with
  | none =>
    simp only [hexponent] at h
    split at h
    · next hwhole =>
      exact ⟨hwhole.1, rfl, _, Prod.ext rfl hwhole.2, (Except.ok.inj h).symm⟩
    · split at h
      · exact absurd (Except.ok.inj h).symm (hinteger _)
      · cases h
  | some exponent =>
    simp only [hexponent] at h
    split at h
    · split at h
      · exact absurd (Except.ok.inj h).symm (hinteger _)
      · cases h
    · split at h
      · cases h
      · exact absurd (Except.ok.inj h).symm (hinteger _)

theorem value_whole {negative : Bool} (h : Nat.ofDigitChars 10 whole 0 ≤ maxUnsigned) :
    (Numeral.mk negative whole none none).value rest =
      .ok (.ofInteger negative (Nat.ofDigitChars 10 whole 0)) := by
  have hall : appendDigits maxUnsigned 0 whole = (Nat.ofDigitChars 10 whole 0, []) :=
    (appendDigits_eq_iff (Nat.zero_le _)).2 ⟨rfl, h⟩
  simp [Numeral.value, hall]

/-- A whole number that is an integer fits a machine word. -/
theorem denotes_ofInteger {negative : Bool} (h : Nat.ofDigitChars 10 whole 0 ≤ maxUnsigned)
    (hinteger : ∀ value, Found.ofInteger negative (Nat.ofDigitChars 10 whole 0) ≠ .float value) :
    (Numeral.mk negative whole none none).Denotes
      (.ofInteger negative (Nat.ofDigitChars 10 whole 0)) := by
  rw [Found.ofInteger] at hinteger ⊢
  cases negative with
  | false => exact .natural h
  | true =>
    rw [if_pos rfl] at hinteger ⊢
    split at hinteger
    · exact absurd rfl (hinteger _)
    · next hfits =>
      rw [if_neg hfits]
      exact .negative (by omega) (by omega)

/-- The value of a number is what `Denotes` says it is found to be. -/
theorem value_eq_ok_iff_denotes : numeral.value rest = .ok found ↔ numeral.Denotes found := by
  constructor
  · intro h
    by_cases hfloat : ∃ value, found = .float value
    · obtain ⟨value, rfl⟩ := hfloat
      exact .float (value_eq_ok_congr h [])
    · have hinteger (value : Decimal.Binary) : found ≠ .float value :=
        fun heq => hfloat ⟨value, heq⟩
      obtain ⟨negative, whole, fraction, exponent⟩ := numeral
      obtain ⟨rfl, rfl, n, hdigits, rfl⟩ := whole_of_value_ne_float h hinteger
      obtain ⟨rfl, hle⟩ := (appendDigits_eq_iff (Nat.zero_le _)).1 hdigits
      exact denotes_ofInteger hle hinteger
  · intro h
    cases h with
    | natural hn => exact value_whole hn
    | negative hpos hn =>
      have hle := Nat.le_trans hn maxSigned_lt_maxUnsigned
      rw [value_whole hle, Found.ofInteger, if_pos rfl, if_neg]
      omega
    | float hvalue => exact value_eq_ok_congr hvalue rest

/-- A number is read with its value, unless what follows carries it on. -/
theorem readNumber_writes (hwrites : numeral.Writes text) (hdenotes : numeral.Denotes found)
    (hrest : numeral.EndsBefore rest) :
    readNumber numeral.negative (text ++ rest) = .ok (found, rest) := by
  rw [readNumber, readNumeral_writes hwrites hrest]
  exact map_eq_ok.2 ⟨found, value_eq_ok_iff_denotes.2 hdenotes, rfl⟩

theorem Numeral.Writes.exists_cons (h : numeral.Writes text) :
    ∃ d tail, text = d :: tail ∧ isDigit d = true := by
  obtain ⟨hwhole, -, -⟩ := h
  obtain ⟨d, digits, rfl, hd⟩ := hwhole.exists_cons
  exact ⟨d, _, rfl, hd⟩

/-- The sign before a number, which `Numeral.Writes` leaves out. -/
def Numeral.sign (numeral : Numeral) : List Char := if numeral.negative then ['-'] else []

end Printout.Json

namespace Printout.Settings

open Json

variable {text rest value : List Char} {found : Found}

/-! ## What is found -/

/-- What is found in a text where a value is due, and on what rest it depends. The text is no more
of the value than is read to know it. -/
inductive Finds : List Char → Found → List Char → Prop where
  | null {rest : List Char} : Finds ['n', 'u', 'l', 'l'] .null rest
  | truth {word rest : List Char} {value : Bool} : TruthText word value →
      Finds word (.boolean value) rest
  | text {string rest : List Char} {value : String} : StringText string value →
      Finds string (.text value) rest
  | number {text rest : List Char} {numeral : Numeral} {found : Found} : numeral.Writes text →
      numeral.Denotes found → numeral.EndsBefore rest → Finds (numeral.sign ++ text) found rest
  | list {rest : List Char} : Finds ['['] .list rest
  | object {rest : List Char} : Finds ['\x7b'] .object rest

/-- What `Finds` says before some rest it says at the end of a text, too. -/
theorem Finds.at_end (h : Finds value found rest) : Finds value found [] := by
  cases h with
  | null => exact .null
  | truth hword => exact .truth hword
  | text hstring => exact .text hstring
  | number hwrites hdenotes => exact .number hwrites hdenotes (by simp [Numeral.EndsBefore])
  | list => exact .list
  | object => exact .object

theorem readFound_digit {d : Char} (hd : isDigit d = true) (text : List Char) :
    readFound (d :: text) = readNumber false (d :: text) := by
  have hne (c : Char) (hc : isDigit c = false) : d ≠ c := ne_of_isDigit hd hc
  simp [readFound, hd, hne 'n' rfl, hne 't' rfl, hne 'f' rfl, hne '-' rfl]

/-- What `Finds` says to stand where a value is due is found, whatever follows. -/
theorem readFound_of_finds (h : Finds value found rest) :
    ∃ behind, readFound (value ++ rest) = .ok (found, behind) := by
  cases h with
  | null => exact ⟨rest, rfl⟩
  | truth hword =>
    cases hword with
    | true | false => exact ⟨rest, rfl⟩
  | @text _ _ value hstring =>
    obtain ⟨inside, rfl, hinside⟩ := hstring
    exact ⟨rest, map_readString_eq_ok_iff.2 ⟨value, _, rfl, ⟨inside, rfl, hinside⟩, rfl⟩⟩
  | @number text _ numeral _ hwrites hdenotes hrest =>
    have hread := readNumber_writes hwrites hdenotes hrest
    obtain ⟨d, tail, rfl, hd⟩ := hwrites.exists_cons
    refine ⟨rest, ?_⟩
    rw [Numeral.sign]
    cases hnegative : numeral.negative with
    | true =>
      rw [hnegative] at hread
      exact hread
    | false =>
      rw [hnegative] at hread
      rw [if_neg Bool.false_ne_true, List.nil_append, List.cons_append, readFound_digit hd]
      exact hread
  | list => exact ⟨_, rfl⟩
  | object => exact ⟨_, rfl⟩

/-- The first character is no blank, and it tells strings and truth values from all else. -/
theorem Finds.exists_cons (h : Finds value found rest) :
    ∃ c tail, value = c :: tail ∧ isBlank c = false ∧
      ((∀ string, found ≠ .text string) → c ≠ '"') ∧
      ((∀ truth, found ≠ .boolean truth) → c ≠ 't' ∧ c ≠ 'f') := by
  cases h with
  | null | list | object =>
    exact ⟨_, _, rfl, by decide, fun _ => by decide, fun _ => by decide⟩
  | truth hword =>
    cases hword with
    | true | false =>
      exact ⟨_, _, rfl, by decide, fun _ => by decide, fun hother => absurd rfl (hother _)⟩
  | text hstring =>
    obtain ⟨inside, rfl, -⟩ := hstring
    exact ⟨_, _, rfl, by decide, fun hother => absurd rfl (hother _), fun _ => by decide⟩
  | @number text _ numeral _ hwrites =>
    obtain ⟨d, tail, rfl, hd⟩ := hwrites.exists_cons
    rw [Numeral.sign]
    cases numeral.negative with
    | true => exact ⟨_, _, rfl, by decide, fun _ => by decide, fun _ => by decide⟩
    | false =>
      exact ⟨d, tail, rfl, isBlank_of_isDigit hd, fun _ => ne_of_isDigit hd rfl,
        fun _ => ⟨ne_of_isDigit hd rfl, ne_of_isDigit hd rfl⟩⟩

end Printout.Settings
