import Mathlib.Data.List.TakeWhile
import Mathlib.Tactic.IntervalCases
import Printout.Proofs.Json.Grammar

/-!
# Blanks and strings are read by their grammar

Escapes and strings end of themselves: what is read does not depend on what follows. So each reader
is characterised by one equivalence, which says that it succeeds exactly where a text of its grammar
stands at the front, and what it gives back (`readString_eq_ok_iff`, `skipString_eq_ok_iff`).
-/

set_option autoImplicit false

namespace Printout.Json

variable {text rest digits : List Char} {c : Char} {n : Nat}

/-! ## Blanks -/

theorem isBlank_iff (c : Char) : isBlank c = true ↔ c = ' ' ∨ c = '\t' ∨ c = '\n' ∨ c = '\r' := by
  simp [isBlank, or_assoc]

theorem blanks_iff_forall (text : List Char) : Blanks text ↔ ∀ c ∈ text, isBlank c = true := by
  simp only [Blanks, isBlank_iff]

theorem blanks_nil : Blanks [] := by simp [Blanks]

theorem Blanks.append {more : List Char} (h : Blanks text) (hmore : Blanks more) :
    Blanks (text ++ more) := by
  intro c hc
  rw [List.mem_append] at hc
  exact hc.elim (h c) (hmore c)

/-- Blanks in front make no difference to `skipBlanks`. -/
theorem skipBlanks_append {blanks : List Char} (h : Blanks blanks) (text : List Char) :
    skipBlanks (blanks ++ text) = skipBlanks text := by
  rw [blanks_iff_forall] at h
  rw [skipBlanks, List.dropWhile_append_of_pos h, skipBlanks]

theorem skipBlanks_cons (h : isBlank c = false) (text : List Char) :
    skipBlanks (c :: text) = c :: text := by
  simp [skipBlanks, h]

/-- What is skipped are blanks. -/
theorem exists_blanks_append_skipBlanks (text : List Char) :
    ∃ blanks, Blanks blanks ∧ text = blanks ++ skipBlanks text := by
  refine ⟨text.takeWhile isBlank, ?_, List.takeWhile_append_dropWhile.symm⟩
  rw [blanks_iff_forall]
  intro c hc
  exact List.mem_takeWhile_imp hc

/-- A token is found exactly where blanks stand before it. -/
theorem skipBlanks_eq_cons_iff :
    skipBlanks text = c :: rest ↔
      isBlank c = false ∧ ∃ blanks, Blanks blanks ∧ text = blanks ++ c :: rest := by
  constructor
  · intro h
    refine ⟨?_, ?_⟩
    · have hhead := List.head?_dropWhile_not isBlank text
      rw [skipBlanks] at h
      simpa [h] using hhead
    · obtain ⟨blanks, hblanks, heq⟩ := exists_blanks_append_skipBlanks text
      exact ⟨blanks, hblanks, h ▸ heq⟩
  · rintro ⟨hc, blanks, hblanks, rfl⟩
    rw [skipBlanks_append hblanks, skipBlanks_cons hc]

theorem skipBlanks_eq_nil_iff : skipBlanks text = [] ↔ Blanks text := by
  rw [skipBlanks, List.dropWhile_eq_nil_iff, blanks_iff_forall]

/-! ## Hexadecimal digits -/

theorem hexDigit?_eq_some_iff : hexDigit? c = some n ↔ HexDigit c n := by
  constructor
  · intro h
    have hdecimal (m : Nat) (hlow : 48 ≤ m) (hhigh : m ≤ 57) :
        HexDigit (Char.ofNat m) (m - 48) := by
      interval_cases m <;> exact ⟨by decide, by decide⟩
    have hsmall (m : Nat) (hlow : 97 ≤ m) (hhigh : m ≤ 102) :
        HexDigit (Char.ofNat m) (m - 87) := by
      interval_cases m <;> exact ⟨by decide, by decide⟩
    have hcapital (m : Nat) (hlow : 65 ≤ m) (hhigh : m ≤ 70) :
        HexDigit (Char.ofNat m) (m - 55) := by
      interval_cases m <;> exact ⟨by decide, by decide⟩
    rw [← Char.ofNat_toNat c]
    simp only [hexDigit?, Char.le_def, UInt32.le_iff_toNat_le] at h
    split at h
    · next hrange =>
      obtain rfl := Option.some.inj h
      exact hdecimal _ hrange.1 hrange.2
    · split at h
      · next hrange =>
        obtain rfl := Option.some.inj h
        exact hsmall _ hrange.1 hrange.2
      · split at h
        · next hrange =>
          obtain rfl := Option.some.inj h
          exact hcapital _ hrange.1 hrange.2
        · cases h
  · rintro ⟨hn, rfl | rfl⟩
    · interval_cases n <;> rfl
    · interval_cases n <;> rfl

theorem HexUnit.lt (h : HexUnit digits n) : n < 0x10000 := by
  obtain ⟨⟨ha, -⟩, ⟨hb, -⟩, ⟨hc, -⟩, ⟨hd, -⟩⟩ := h
  omega

theorem readHex_hexUnit (h : HexUnit digits n) (rest : List Char) :
    readHex (digits ++ rest) = .ok (n, rest) := by
  obtain ⟨ha, hb, hc, hd⟩ := h
  rw [← hexDigit?_eq_some_iff] at ha hb hc hd
  simp [readHex, hexValue?, ha, hb, hc, hd]

/-- By `readHex`, four digits are read exactly where they stand. -/
theorem readHex_eq_ok_iff :
    readHex text = .ok (n, rest) ↔ ∃ digits, text = digits ++ rest ∧ HexUnit digits n := by
  constructor
  · intro h
    rw [readHex.eq_def] at h
    split at h
    · next a b c d after =>
      split at h
      · next value hvalue =>
        simp only [hexValue?, Option.bind_eq_bind, Option.bind_eq_some_iff, Option.pure_def,
          Option.some.injEq, hexDigit?_eq_some_iff] at hvalue
        obtain ⟨i, ha, j, hb, k, hc, l, hd, rfl⟩ := hvalue
        cases h
        exact ⟨[a, b, c, d], rfl, .mk ha hb hc hd⟩
      · cases h
    · cases h
  · rintro ⟨digits, rfl, h⟩
    exact readHex_hexUnit h rest

/-! ## Escapes -/

/-- The table of `letterEscapes` is complete. -/
theorem letterEscape?_eq_some_iff {letter : Char} :
    letterEscape? letter = some c ↔ (letter, c) ∈ letterEscapes := by
  simp only [letterEscapes, List.mem_cons, List.not_mem_nil, or_false, Prod.mk.injEq]
  constructor
  · intro h
    rw [letterEscape?] at h
    split at h
    · next hself =>
      cases h
      rcases hself with rfl | rfl | rfl <;> simp
    · repeat' split at h
      all_goals simp_all [eq_comm]
  · intro h
    rcases h with h | h | h | h | h | h | h | h <;> obtain ⟨rfl, rfl⟩ := h <;> rfl

/-- Every code point but the surrogates has a character. -/
theorem exists_toNat_eq (h : n.isValidChar) : ∃ c : Char, c.toNat = n :=
  ⟨Char.ofNatAux n h, rfl⟩

theorem toNat_ofNat_of_not_surrogate (hn : n < 0x10000) (hlow : isLowSurrogate n = false)
    (hhigh : isHighSurrogate n = false) : (Char.ofNat n).toNat = n := by
  simp only [isLowSurrogate, isHighSurrogate, Bool.and_eq_false_iff, decide_eq_false_iff_not]
    at hlow hhigh
  have hvalid : n.isValidChar := by
    unfold Nat.isValidChar
    omega
  obtain ⟨c, rfl⟩ := exists_toNat_eq hvalid
  rw [Char.ofNat_toNat]

theorem toNat_ofNat_pairValue {high low : Nat} (hhigh : isHighSurrogate high = true)
    (hlow : isLowSurrogate low = true) :
    (Char.ofNat (pairValue high low)).toNat = pairValue high low := by
  simp only [isLowSurrogate, isHighSurrogate, Bool.and_eq_true, decide_eq_true_eq] at hlow hhigh
  have hvalid : (pairValue high low).isValidChar := by
    unfold Nat.isValidChar pairValue
    omega
  obtain ⟨c, hc⟩ := exists_toNat_eq hvalid
  rw [← hc, Char.ofNat_toNat]

/-- The surrogates of a code point are those of its pair. -/
theorem pairValue_surrogates (h : 0x10000 ≤ n) :
    pairValue (0xD800 + (n - 0x10000) / 0x400) (0xDC00 + (n - 0x10000) % 0x400) = n := by
  unfold pairValue
  omega

/-- The pair of two surrogates has a code point of which they are the surrogates. -/
theorem surrogates_pairValue {high low : Nat} (hhigh : isHighSurrogate high = true)
    (hlow : isLowSurrogate low = true) :
    0x10000 ≤ pairValue high low ∧ 0xD800 + (pairValue high low - 0x10000) / 0x400 = high ∧
      0xDC00 + (pairValue high low - 0x10000) % 0x400 = low := by
  simp only [isLowSurrogate, isHighSurrogate, Bool.and_eq_true, decide_eq_true_eq] at hlow hhigh
  unfold pairValue
  omega

theorem readCodePoint_codePoint (h : CodePoint digits c) (rest : List Char) :
    readCodePoint (digits ++ rest) = .ok (c, rest) := by
  cases h with
  | unit hunit =>
    have hvalid : c.toNat.isValidChar := c.valid
    simp only [Nat.isValidChar] at hvalid
    have hlow : isLowSurrogate c.toNat = false := by
      simp only [isLowSurrogate, Bool.and_eq_false_iff, decide_eq_false_iff_not]
      omega
    have hhigh : isHighSurrogate c.toNat = false := by
      simp only [isHighSurrogate, Bool.and_eq_false_iff, decide_eq_false_iff_not]
      omega
    simp [readCodePoint, readHex_hexUnit hunit, hlow, hhigh]
  | @pair high low _ hlarge hfirst hsecond =>
    have hbound : c.toNat < 0x110000 := by
      have hvalid : c.toNat.isValidChar := c.valid
      simp only [Nat.isValidChar] at hvalid
      omega
    have hlow : isLowSurrogate (0xDC00 + (c.toNat - 0x10000) % 0x400) = true := by
      simp only [isLowSurrogate, Bool.and_eq_true, decide_eq_true_eq]
      omega
    have hhigh : isHighSurrogate (0xD800 + (c.toNat - 0x10000) / 0x400) = true := by
      simp only [isHighSurrogate, Bool.and_eq_true, decide_eq_true_eq]
      omega
    have hlow' : isLowSurrogate (0xD800 + (c.toNat - 0x10000) / 0x400) = false := by
      simp only [isLowSurrogate, Bool.and_eq_false_iff, decide_eq_false_iff_not]
      omega
    have hpair := pairValue_surrogates hlarge
    have hwhole : high ++ '\\' :: 'u' :: low ++ rest = high ++ '\\' :: 'u' :: (low ++ rest) := by
      simp
    rw [hwhole, readCodePoint, readHex_hexUnit hfirst]
    simp [hlow, hlow', hhigh, readHex_hexUnit hsecond, hpair]

/-- An escape by a code point is read exactly where a `CodePoint` stands. -/
theorem readCodePoint_eq_ok_iff :
    readCodePoint text = .ok (c, rest) ↔ ∃ digits, text = digits ++ rest ∧ CodePoint digits c := by
  constructor
  · intro h
    rw [readCodePoint] at h
    split at h
    · cases h
    · next unit after hfirst =>
      obtain ⟨digits, rfl, hunit⟩ := readHex_eq_ok_iff.1 hfirst
      split at h
      · cases h
      · next hlow =>
        rw [Bool.not_eq_true] at hlow
        split at h
        · next hhigh =>
          split at h
          · cases h
          · cases h
          · next second =>
            split at h
            · cases h
            · next low behind hsecond =>
              obtain ⟨digits', rfl, hunit'⟩ := readHex_eq_ok_iff.1 hsecond
              split at h
              · next hlow' =>
                obtain ⟨rfl, rfl⟩ := Prod.mk.inj (Except.ok.inj h)
                obtain ⟨hlarge, hfirst, hsecond⟩ := surrogates_pairValue hhigh hlow'
                refine ⟨digits ++ '\\' :: 'u' :: digits', by simp, .pair ?_ ?_ ?_⟩
                · rw [toNat_ofNat_pairValue hhigh hlow']
                  exact hlarge
                · rw [toNat_ofNat_pairValue hhigh hlow', hfirst]
                  exact hunit
                · rw [toNat_ofNat_pairValue hhigh hlow', hsecond]
                  exact hunit'
              · cases h
          · cases h
          · cases h
        · next hhigh =>
          rw [Bool.not_eq_true] at hhigh
          obtain ⟨rfl, rfl⟩ := Prod.mk.inj (Except.ok.inj h)
          refine ⟨digits, rfl, .unit ?_⟩
          rw [toNat_ofNat_of_not_surrogate hunit.lt hlow hhigh]
          exact hunit
  · rintro ⟨digits, rfl, h⟩
    exact readCodePoint_codePoint h rest

/-- By `readEscape`, an escape is read exactly where one stands. -/
theorem readEscape_eq_ok_iff :
    readEscape text = .ok (c, rest) ↔ ∃ escape, text = escape ++ rest ∧ Escape escape c := by
  constructor
  · intro h
    rw [readEscape.eq_def] at h
    split at h
    · cases h
    · obtain ⟨digits, rfl, hdigits⟩ := readCodePoint_eq_ok_iff.1 h
      exact ⟨'u' :: digits, rfl, .codePoint hdigits⟩
    · next letter after _ =>
      split at h
      · next value hvalue =>
        cases h
        exact ⟨[letter], rfl, .letter (letterEscape?_eq_some_iff.1 hvalue)⟩
      · cases h
  · rintro ⟨escape, rfl, h⟩
    cases h with
    | @letter letter _ hmem =>
      have hlong : letter ≠ 'u' := by
        rintro rfl
        simp [letterEscapes] at hmem
      rw [List.singleton_append, readEscape, letterEscape?_eq_some_iff.2 hmem]
      exact hlong
    | codePoint hdigits => exact readCodePoint_codePoint hdigits rest

/-- Where the character is not wanted, an escape is skipped exactly where one stands. -/
theorem skipEscape_eq_ok_iff :
    skipEscape text = .ok rest ↔ ∃ escape, text = escape ++ rest ∧ LooseEscape escape := by
  constructor
  · intro h
    rw [skipEscape.eq_def] at h
    split at h
    · cases h
    · obtain ⟨⟨n, after⟩, hread, rfl⟩ := map_eq_ok.1 h
      obtain ⟨digits, rfl, hdigits⟩ := readHex_eq_ok_iff.1 hread
      exact ⟨'u' :: digits, rfl, .unit hdigits⟩
    · next letter after _ =>
      split at h
      · next value hvalue =>
        cases h
        exact ⟨[letter], rfl, .letter (letterEscape?_eq_some_iff.1 hvalue)⟩
      · cases h
  · rintro ⟨escape, rfl, h⟩
    cases h with
    | @letter letter c hmem =>
      have hlong : letter ≠ 'u' := by
        rintro rfl
        simp [letterEscapes] at hmem
      rw [List.singleton_append, skipEscape, letterEscape?_eq_some_iff.2 hmem]
      exact hlong
    | unit hdigits =>
      rw [List.cons_append, skipEscape, readHex_hexUnit hdigits]
      rfl

/-! ## Strings -/

theorem isPlain_iff (c : Char) : IsPlain c ↔ c ≠ '"' ∧ c ≠ '\\' ∧ isControl c = false := by
  simp [IsPlain, isControl]

@[simp] theorem readString_quote (rest : List Char) :
    readString ('"' :: rest) = .ok ([], rest) := by
  rw [readString]

@[simp] theorem skipString_quote (rest : List Char) : skipString ('"' :: rest) = .ok rest := by
  rw [skipString]

/-- A spelling gives its character, and the reader goes on behind it. -/
theorem readString_spelling {front : List Char} (h : Spelling front c) (text : List Char) :
    readString (front ++ text) =
      (readString text).map fun (value, last) => (c :: value, last) := by
  cases h with
  | plain hplain =>
    obtain ⟨hquote, hslash, hcontrol⟩ := (isPlain_iff c).1 hplain
    rw [List.singleton_append, readString, if_neg (by simp [hcontrol])]
    · exact hquote
    · exact hslash
  | @escape escape _ hescape =>
    have hread : readEscape (escape ++ text) = .ok (c, text) :=
      readEscape_eq_ok_iff.2 ⟨escape, rfl, hescape⟩
    rw [List.cons_append, readString.eq_def]
    simp only
    split
    · next fault h => simp [hread] at h
    · next c' after h =>
      rw [hread] at h
      obtain ⟨rfl, rfl⟩ := Prod.mk.inj (Except.ok.inj h)
      rfl

theorem skipString_looseSpelling {front : List Char} (h : LooseSpelling front)
    (text : List Char) : skipString (front ++ text) = skipString text := by
  cases h with
  | @plain c hplain =>
    obtain ⟨hquote, hslash, hcontrol⟩ := (isPlain_iff c).1 hplain
    rw [List.singleton_append, skipString, if_neg (by simp [hcontrol])]
    · exact hquote
    · exact hslash
  | @escape escape hescape =>
    have hread : skipEscape (escape ++ text) = .ok text :=
      skipEscape_eq_ok_iff.2 ⟨escape, rfl, hescape⟩
    rw [List.cons_append, skipString.eq_def]
    simp only
    split
    · next fault h => simp [hread] at h
    · next after h =>
      rw [hread] at h
      rw [Except.ok.inj h]

/-- By `readString`, a string is read exactly where one stands, and gives its value. -/
theorem readString_eq_ok_iff {value : List Char} :
    readString text = .ok (value, rest) ↔
      ∃ inside, text = inside ++ '"' :: rest ∧ Spelled inside value := by
  constructor
  · intro h
    fun_induction readString text generalizing value rest with
    | case1 => cases h
    | case2 =>
      cases h
      exact ⟨[], rfl, .nil⟩
    | case3 => cases h
    | case4 after c behind hescape ih =>
      obtain ⟨⟨cs, last⟩, hread, hpair⟩ := map_eq_ok.1 h
      cases hpair
      obtain ⟨inside, rfl, hinside⟩ := ih hread
      obtain ⟨escape, rfl, hstands⟩ := readEscape_eq_ok_iff.1 hescape
      exact ⟨'\\' :: escape ++ inside, by simp, .cons (.escape hstands) hinside⟩
    | case5 => cases h
    | case6 c after hquote hslash hcontrol ih =>
      obtain ⟨⟨cs, last⟩, hread, hpair⟩ := map_eq_ok.1 h
      cases hpair
      obtain ⟨inside, rfl, hinside⟩ := ih hread
      rw [Bool.not_eq_true] at hcontrol
      have hplain := (isPlain_iff c).2 ⟨hquote, hslash, hcontrol⟩
      exact ⟨[c] ++ inside, by simp, .cons (.plain hplain) hinside⟩
  · rintro ⟨inside, rfl, h⟩
    induction h with
    | nil => exact readString_quote rest
    | cons hspelling _ ih =>
      rw [List.append_assoc, readString_spelling hspelling, ih]
      rfl

/-- Where its value is not wanted, `skipString` takes a string exactly where one stands. -/
theorem skipString_eq_ok_iff :
    skipString text = .ok rest ↔
      ∃ inside, text = inside ++ '"' :: rest ∧ LooselySpelled inside := by
  constructor
  · intro h
    fun_induction skipString text with
    | case1 => cases h
    | case2 =>
      cases h
      exact ⟨[], rfl, .nil⟩
    | case3 => cases h
    | case4 after behind hescape ih =>
      obtain ⟨inside, rfl, hinside⟩ := ih h
      obtain ⟨escape, rfl, hstands⟩ := skipEscape_eq_ok_iff.1 hescape
      exact ⟨'\\' :: escape ++ inside, by simp, .cons (.escape hstands) hinside⟩
    | case5 => cases h
    | case6 c after hquote hslash hcontrol ih =>
      obtain ⟨inside, rfl, hinside⟩ := ih h
      rw [Bool.not_eq_true] at hcontrol
      have hplain := (isPlain_iff c).2 ⟨hquote, hslash, hcontrol⟩
      exact ⟨[c] ++ inside, by simp, .cons (.plain hplain) hinside⟩
  · rintro ⟨inside, rfl, h⟩
    induction h with
    | nil => exact skipString_quote rest
    | cons hspelling _ ih =>
      rw [List.append_assoc, skipString_looseSpelling hspelling, ih]

end Printout.Json
