import Printout.Json.Fault

/-!
# Words and strings

The blanks between tokens, the three words, and strings. A string is read in one of two ways. Where
its value is kept, every escape must give a character, so surrogates come in pairs. Where the value
is skipped, an escape needs four hexadecimal digits and no more.
-/

set_option autoImplicit false

namespace Printout.Json

/-! ## Blanks -/

/-- Whether `c` is a blank between tokens: space, tab, line feed or carriage return. -/
def isBlank (c : Char) : Bool := c == ' ' || c == '\t' || c == '\n' || c == '\r'

/-- The `text` from its first token on. -/
def skipBlanks (text : List Char) : List Char := text.dropWhile isBlank

/-- Dropping with `p` from the front never makes a text longer. -/
theorem length_dropWhile_le (p : Char → Bool) (text : List Char) :
    (text.dropWhile p).length ≤ text.length :=
  (List.dropWhile_suffix p).length_le

theorem length_skipBlanks_le (text : List Char) : (skipBlanks text).length ≤ text.length :=
  length_dropWhile_le isBlank text

/-! ## Words -/

/-- Reads the letters of a word, as those of `null` behind its first. A wrong letter counts as
read. -/
def readWord : List Char → List Char → Except Fault (List Char)
  | [], rest => .ok rest
  | _ :: _, [] => .error (.here .endInValue [])
  | letter :: word, c :: rest =>
    if letter = c then readWord word rest else .error (.next .expectedWord (c :: rest))

/-- A `word` that was read stood at the front of `text`. -/
theorem eq_append_of_readWord {word text rest : List Char} (h : readWord word text = .ok rest) :
    text = word ++ rest := by
  induction word generalizing text with
  | nil =>
    cases h
    rfl
  | cons letter word ih =>
    cases text with
    | nil => cases h
    | cons c text =>
      rw [readWord] at h
      split at h
      · rename_i hletter
        rw [hletter, ih h, List.cons_append]
      · cases h

/-! ## Escapes -/

/-- The value of the hexadecimal digit `c`, in small or capital letters. -/
def hexDigit? (c : Char) : Option Nat :=
  if '0' ≤ c ∧ c ≤ '9' then some (c.toNat - 48)
  else if 'a' ≤ c ∧ c ≤ 'f' then some (c.toNat - 87)
  else if 'A' ≤ c ∧ c ≤ 'F' then some (c.toNat - 55)
  else none

/-- The value of four hexadecimal digits, of which `a` is the first. -/
def hexValue? (a b c d : Char) : Option Nat := do
  let a ← hexDigit? a
  let b ← hexDigit? b
  let c ← hexDigit? c
  let d ← hexDigit? d
  return ((a * 16 + b) * 16 + c) * 16 + d

/-- The fault of four digits that `text` does not start with. Four bytes are looked at together, so
they are all counted, and a `text` that has fewer left is read to its end. -/
def hexFault (text : List Char) : Fault :=
  if (bytes text).length < 4 then .here .endInString [] else ⟨.invalidEscape, text, 4⟩

/-- Reads four hexadecimal digits. -/
def readHex (text : List Char) : Reading Nat :=
  match text with
  | a :: b :: c :: d :: rest =>
    match hexValue? a b c d with
    | some value => .ok (value, rest)
    | none => .error (hexFault text)
  | _ => .error (hexFault text)

/-- Whether `n` is the first unit of a surrogate pair. -/
def isHighSurrogate (n : Nat) : Bool := 0xD800 ≤ n && n ≤ 0xDBFF

/-- Whether `n` is the second unit of a surrogate pair. -/
def isLowSurrogate (n : Nat) : Bool := 0xDC00 ≤ n && n ≤ 0xDFFF

/-- The code point of the surrogate pair of `high` and `low`. -/
def pairValue (high low : Nat) : Nat := 0x10000 + (high - 0xD800) * 0x400 + (low - 0xDC00)

/-- Reads what follows `\u` and gives the character: four digits, or eight in two escapes for a
surrogate pair. -/
def readCodePoint (text : List Char) : Reading Char :=
  match readHex text with
  | .error fault => .error fault
  | .ok (unit, rest) =>
    if isLowSurrogate unit then .error (.here .loneSurrogate rest)
    else if isHighSurrogate unit then
      match rest with
      -- Where the text ends it is open whether the second half would have followed.
      | [] => .error (.here .endInString [])
      | '\\' :: [] => .error (.here .endInString [])
      | '\\' :: 'u' :: second =>
        match readHex second with
        | .error fault => .error fault
        | .ok (low, rest) =>
          if isLowSurrogate low then .ok (Char.ofNat (pairValue unit low), rest)
          else .error (.here .loneSurrogate rest)
      | '\\' :: other => .error (.next .unfinishedPair other)
      | other => .error (.next .unfinishedPair other)
    else .ok (Char.ofNat unit, rest)

/-- The character that the letter `c` stands for behind a backslash. -/
def letterEscape? (c : Char) : Option Char :=
  if c = '"' ∨ c = '\\' ∨ c = '/' then some c
  else if c = 'b' then some '\x08'
  else if c = 'f' then some '\x0c'
  else if c = 'n' then some '\n'
  else if c = 'r' then some '\r'
  else if c = 't' then some '\t'
  else none

/-- Reads what follows a backslash and gives the character. -/
def readEscape : List Char → Reading Char
  | [] => .error (.here .endInString [])
  | 'u' :: rest => readCodePoint rest
  | c :: rest =>
    match letterEscape? c with
    | some value => .ok (value, rest)
    | none => .error (.next .invalidEscape (c :: rest))

/-- Reads what follows a backslash as `readEscape` does, where the character is not wanted. A code
unit may then be half of a pair. -/
def skipEscape : List Char → Except Fault (List Char)
  | [] => .error (.here .endInString [])
  | 'u' :: rest => (readHex rest).map Prod.snd
  | c :: rest =>
    match letterEscape? c with
    | some _ => .ok rest
    | none => .error (.next .invalidEscape (c :: rest))

/-! ## Escapes make the text shorter -/

theorem length_readHex {text rest : List Char} {value : Nat}
    (h : readHex text = .ok (value, rest)) : rest.length + 4 = text.length := by
  rw [readHex.eq_def] at h
  split at h
  · split at h
    · cases h
      rfl
    · cases h
  · cases h

theorem length_readCodePoint {text rest : List Char} {c : Char}
    (h : readCodePoint text = .ok (c, rest)) : rest.length < text.length := by
  rw [readCodePoint] at h
  split at h
  · cases h
  · rename_i unit after hfirst
    have first := length_readHex hfirst
    split at h
    · cases h
    · split at h
      · split at h
        · cases h
        · cases h
        · split at h
          · cases h
          · rename_i low behind hsecond
            have second := length_readHex hsecond
            split at h
            · obtain ⟨-, rfl⟩ := Prod.mk.inj (Except.ok.inj h)
              simp only [List.length_cons] at first
              omega
            · cases h
        · cases h
        · cases h
      · obtain ⟨-, rfl⟩ := Prod.mk.inj (Except.ok.inj h)
        omega

theorem length_readEscape {text rest : List Char} {c : Char}
    (h : readEscape text = .ok (c, rest)) : rest.length < text.length := by
  rw [readEscape.eq_def] at h
  split at h
  · cases h
  · exact Nat.lt_succ_of_lt (length_readCodePoint h)
  · split at h
    · cases h
      exact Nat.lt_succ_self _
    · cases h

theorem length_skipEscape {text rest : List Char} (h : skipEscape text = .ok rest) :
    rest.length < text.length := by
  rw [skipEscape.eq_def] at h
  split at h
  · cases h
  · obtain ⟨⟨value, behind⟩, hread, rfl⟩ := map_eq_ok.1 h
    have := length_readHex hread
    simp only [List.length_cons]
    omega
  · split at h
    · cases h
      exact Nat.lt_succ_self _
    · cases h

/-! ## Strings -/

/-- Whether `c` is a control character, which a string may hold only as an escape. -/
def isControl (c : Char) : Bool := c.toNat < 0x20

/-- Reads a string behind its opening quote and gives its value. A control character counts as read,
unlike in `skipString`. -/
def readString (text : List Char) : Reading (List Char) :=
  match text with
  | [] => .error (.here .endInString [])
  | '"' :: rest => .ok ([], rest)
  | '\\' :: rest =>
    match _h : readEscape rest with
    | .error fault => .error fault
    | .ok (c, after) => (readString after).map fun (cs, last) => (c :: cs, last)
  | c :: rest =>
    if isControl c then .error (.next .controlCharacter (c :: rest))
    else (readString rest).map fun (cs, last) => (c :: cs, last)
termination_by text.length
decreasing_by
  · have := length_readEscape _h
    simp only [List.length_cons]
    omega
  · simp

/-- Reads a string behind its opening quote where its value is not wanted. Unlike in `readString`, a
control character does not count as read. -/
def skipString (text : List Char) : Except Fault (List Char) :=
  match text with
  | [] => .error (.here .endInString [])
  | '"' :: rest => .ok rest
  | '\\' :: rest =>
    match _h : skipEscape rest with
    | .error fault => .error fault
    | .ok after => skipString after
  | c :: rest =>
    if isControl c then .error (.here .controlCharacter (c :: rest)) else skipString rest
termination_by text.length
decreasing_by
  · have := length_skipEscape _h
    simp only [List.length_cons]
    omega
  · simp

theorem length_readString {text rest value : List Char} (h : readString text = .ok (value, rest)) :
    rest.length < text.length := by
  fun_induction readString text generalizing value rest with
  | case1 => cases h
  | case2 =>
    cases h
    exact Nat.lt_succ_self _
  | case3 => cases h
  | case4 after c behind hescape ih =>
    obtain ⟨⟨cs, last⟩, hread, hpair⟩ := map_eq_ok.1 h
    cases hpair
    have := length_readEscape hescape
    have := ih hread
    simp only [List.length_cons]
    omega
  | case5 => cases h
  | case6 c after hquote hslash hcontrol ih =>
    obtain ⟨⟨cs, last⟩, hread, hpair⟩ := map_eq_ok.1 h
    cases hpair
    exact Nat.lt_succ_of_lt (ih hread)

theorem length_skipString {text rest : List Char} (h : skipString text = .ok rest) :
    rest.length < text.length := by
  fun_induction skipString text with
  | case1 => cases h
  | case2 =>
    cases h
    exact Nat.lt_succ_self _
  | case3 => cases h
  | case4 after behind hescape ih =>
    have := length_skipEscape hescape
    have := ih h
    simp only [List.length_cons]
    omega
  | case5 => cases h
  | case6 c after hquote hslash hcontrol ih => exact Nat.lt_succ_of_lt (ih h)

end Printout.Json
