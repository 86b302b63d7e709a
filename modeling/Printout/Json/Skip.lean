import Printout.Json.Number

/-!
# Skipped values

The value of an unknown key is skipped, but it must be a value. Values nest without limit, so the
brackets that are open are kept in a list and one step is taken at a time: a step reads a scalar, an
opening bracket, a comma or a closing bracket, and every step makes the text shorter.
-/

set_option autoImplicit false

namespace Printout.Json

/-- A kind of bracket that `skipValue` may have to close. -/
inductive Bracket where
  | list
  | object
deriving Repr, DecidableEq

/-- The character that closes a bracket. -/
def Bracket.closing : Bracket → Char
  | .list => ']'
  | .object => '\x7d'

/-- The cause when the text ends where `Bracket.closing` is still due. -/
def Bracket.atEnd : Bracket → Cause
  | .list => .endInList
  | .object => .endInObject

/-- The cause when neither a comma nor the closing bracket follows a value. -/
def Bracket.notEnded : Bracket → Cause
  | .list => .expectedListEnd
  | .object => .expectedObjectEnd

/-! ## Single steps -/

/-- A state on the way through a value that is not wanted, of which `rest` is left. -/
structure Skip where
  /-- Whether a value has just ended. If not, one is due. -/
  ended : Bool
  /-- The brackets that are open, innermost first. -/
  brackets : List Bracket
  rest : List Char
deriving Repr, DecidableEq

/-- Reads a colon and what blanks stand before it. -/
def readColon (text : List Char) : Except Fault (List Char) :=
  match skipBlanks text with
  | [] => .error (.here .endInObject [])
  | ':' :: rest => .ok rest
  | other => .error (.next .expectedColon other)

/-- Reads the key of a member and the colon behind it, by `skipString` and `readColon`. -/
def skipKey (text : List Char) : Except Fault (List Char) :=
  match skipBlanks text with
  | [] => .error (.here .endInObject [])
  | '"' :: rest => (skipString rest).bind readColon
  | other => .error (.next .keyNotString other)

/-- Reads what must stand before a value inside `bracket`: the key, if it is an object. -/
def skipLabel (bracket : Bracket) (text : List Char) : Except Fault (List Char) :=
  match bracket with
  | .list => .ok text
  | .object => skipKey text

/-- Goes on to the next value inside `bracket`, which stands in the brackets `outer`. -/
def Skip.within (bracket : Bracket) (outer : List Bracket) (text : List Char) : Except Fault Skip :=
  (skipLabel bracket text).map fun rest => ⟨false, bracket :: outer, rest⟩

/-- Goes on behind the opening of `bracket`: to its first value, or past its end. -/
def Skip.opened (bracket : Bracket) (outer : List Bracket) (text : List Char) : Except Fault Skip :=
  match skipBlanks text with
  | [] => .error (.here bracket.atEnd [])
  | c :: rest =>
    if c = bracket.closing then .ok ⟨true, outer, rest⟩ else Skip.within bracket outer (c :: rest)

/-- Goes on behind a value inside `bracket`: past a comma, or past the end of `bracket`. -/
def Skip.mark (bracket : Bracket) (outer : List Bracket) (text : List Char) : Except Fault Skip :=
  match skipBlanks text with
  | [] => .error (.here bracket.atEnd [])
  | c :: rest =>
    -- A comma promises one more value, so the bracket may not close right behind it.
    if c = ',' then Skip.within bracket outer rest
    else if c = bracket.closing then .ok ⟨true, outer, rest⟩
    else .error (.next bracket.notEnded (c :: rest))

/-- A state behind a scalar, where `rest` is what its reader came to. -/
def Skip.scalar (brackets : List Bracket) (rest : Except Fault (List Char)) : Except Fault Skip :=
  rest.map fun rest => ⟨true, brackets, rest⟩

/-- Goes on where a value is due inside `brackets`: past a scalar, or into a bracket. -/
def Skip.value (brackets : List Bracket) (text : List Char) : Except Fault Skip :=
  match skipBlanks text with
  | [] => .error (.here .endInValue [])
  | c :: rest =>
    if c = 'n' then Skip.scalar brackets (readWord ['u', 'l', 'l'] rest)
    else if c = 't' then Skip.scalar brackets (readWord ['r', 'u', 'e'] rest)
    else if c = 'f' then Skip.scalar brackets (readWord ['a', 'l', 's', 'e'] rest)
    else if c = '-' then
      Skip.scalar brackets ((readNumeral .invalidNumber true rest).map Prod.snd)
    else if isDigit c then
      Skip.scalar brackets ((readNumeral .invalidNumber false (c :: rest)).map Prod.snd)
    else if c = '"' then Skip.scalar brackets (skipString rest)
    else if c = '[' then Skip.opened .list brackets rest
    else if c = '\x7b' then Skip.opened .object brackets rest
    else .error (.next .expectedValue (c :: rest))

/-! ## Every step makes the text shorter -/

theorem length_readColon {text rest : List Char} (h : readColon text = .ok rest) :
    rest.length < text.length := by
  have blanks := length_skipBlanks_le text
  rw [readColon] at h
  split at h
  · cases h
  · rename_i after hskip
    rw [hskip] at blanks
    cases h
    exact blanks
  · cases h

theorem length_skipKey {text rest : List Char} (h : skipKey text = .ok rest) :
    rest.length < text.length := by
  have blanks := length_skipBlanks_le text
  rw [skipKey] at h
  split at h
  · cases h
  · rename_i after hskip
    rw [hskip] at blanks
    obtain ⟨behind, hstring, hcolon⟩ := bind_eq_ok.1 h
    have := length_skipString hstring
    have := length_readColon hcolon
    simp only [List.length_cons] at blanks
    omega
  · cases h

theorem Skip.length_within {bracket : Bracket} {outer : List Bracket} {text : List Char}
    {next : Skip} (h : Skip.within bracket outer text = .ok next) :
    next.rest.length ≤ text.length := by
  obtain ⟨rest, hlabel, rfl⟩ := map_eq_ok.1 h
  cases bracket with
  | list =>
    cases hlabel
    exact Nat.le_refl _
  | object => exact Nat.le_of_lt (length_skipKey hlabel)

theorem Skip.length_opened {bracket : Bracket} {outer : List Bracket} {text : List Char}
    {next : Skip} (h : Skip.opened bracket outer text = .ok next) :
    next.rest.length ≤ text.length := by
  have blanks := length_skipBlanks_le text
  rw [Skip.opened] at h
  split at h
  · cases h
  · rename_i c rest hskip
    rw [hskip] at blanks
    split at h
    · cases h
      exact Nat.le_of_succ_le blanks
    · exact Nat.le_trans (Skip.length_within h) blanks

theorem Skip.length_mark {bracket : Bracket} {outer : List Bracket} {text : List Char}
    {next : Skip} (h : Skip.mark bracket outer text = .ok next) :
    next.rest.length < text.length := by
  have blanks := length_skipBlanks_le text
  rw [Skip.mark] at h
  split at h
  · cases h
  · rename_i c rest hskip
    rw [hskip] at blanks
    split at h
    · exact Nat.lt_of_le_of_lt (Skip.length_within h) blanks
    · split at h
      · cases h
        exact blanks
      · cases h

theorem Skip.length_scalar {brackets : List Bracket} {text : List Char}
    {rest : Except Fault (List Char)} {next : Skip} (h : Skip.scalar brackets rest = .ok next)
    (shorter : ∀ after, rest = .ok after → after.length < text.length) :
    next.rest.length < text.length := by
  obtain ⟨after, hrest, rfl⟩ := map_eq_ok.1 h
  exact shorter after hrest

theorem length_of_readWord {c : Char} {word text rest : List Char}
    (h : readWord word text = .ok rest) : rest.length < (c :: text).length := by
  rw [eq_append_of_readWord h, List.length_cons, List.length_append]
  omega

theorem length_of_readNumeral {atEnd : Cause} {negative : Bool} {text rest : List Char}
    (h : (readNumeral atEnd negative text).map Prod.snd = .ok rest) :
    rest.length < text.length := by
  obtain ⟨⟨numeral, after⟩, hread, rfl⟩ := map_eq_ok.1 h
  exact length_readNumeral hread

theorem Skip.length_value {brackets : List Bracket} {text : List Char} {next : Skip}
    (h : Skip.value brackets text = .ok next) : next.rest.length < text.length := by
  have blanks := length_skipBlanks_le text
  rw [Skip.value] at h
  split at h
  · cases h
  · rename_i c rest hskip
    rw [hskip] at blanks
    refine Nat.lt_of_lt_of_le ?_ blanks
    repeat' split at h
    · exact Skip.length_scalar h fun _ => length_of_readWord
    · exact Skip.length_scalar h fun _ => length_of_readWord
    · exact Skip.length_scalar h fun _ => length_of_readWord
    · exact Skip.length_scalar h fun _ hread => Nat.lt_succ_of_lt (length_of_readNumeral hread)
    · exact Skip.length_scalar h fun _ => length_of_readNumeral
    · exact Skip.length_scalar h fun _ hread => Nat.lt_succ_of_lt (length_skipString hread)
    · exact Nat.lt_succ_of_le (Skip.length_opened h)
    · exact Nat.lt_succ_of_le (Skip.length_opened h)
    · cases h

/-! ## Whole values -/

/-- Takes steps until a value has `ended` and none of the `brackets` is open, and gives the rest of
`text`. -/
def Skip.run (ended : Bool) (brackets : List Bracket) (text : List Char) :
    Except Fault (List Char) :=
  match ended, brackets with
  -- The value that has ended is the one that was to be skipped.
  | true, [] => .ok text
  | true, bracket :: outer =>
    match _h : Skip.mark bracket outer text with
    | .error fault => .error fault
    | .ok next => Skip.run next.ended next.brackets next.rest
  | false, brackets =>
    match _h : Skip.value brackets text with
    | .error fault => .error fault
    | .ok next => Skip.run next.ended next.brackets next.rest
termination_by text.length
decreasing_by
  · exact Skip.length_mark _h
  · exact Skip.length_value _h

/-- Reads a value that is not wanted, by `Skip.run`, and gives the rest of the text. -/
def skipValue (text : List Char) : Except Fault (List Char) := Skip.run false [] text

theorem Skip.length_run {ended : Bool} {brackets : List Bracket} {text rest : List Char}
    (h : Skip.run ended brackets text = .ok rest) : rest.length ≤ text.length := by
  fun_induction Skip.run ended brackets text with
  | case1 =>
    cases h
    exact Nat.le_refl _
  | case2 => cases h
  | case3 text bracket outer next hstep ih =>
    exact Nat.le_trans (ih h) (Nat.le_of_lt (Skip.length_mark hstep))
  | case4 => cases h
  | case5 text brackets next hstep ih =>
    exact Nat.le_trans (ih h) (Nat.le_of_lt (Skip.length_value hstep))

theorem length_skipValue {text rest : List Char} (h : skipValue text = .ok rest) :
    rest.length ≤ text.length :=
  Skip.length_run h

end Printout.Json
