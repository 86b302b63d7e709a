import Printout.Json.Skip
import Printout.Settings

/-!
# Reading settings

Settings are written in JSON in one of two forms: an object with a member for each choice, or a list
of the choices in order. What is not given keeps its default, and members with other keys are
skipped. A choice is given at most once: the second member of a key is a fault as soon as its key
has been read.
-/

set_option autoImplicit false

namespace Printout.Settings

open Json

/-! ## Values of a wanted type -/

/-- Reads as much of a value as `Found.describe` shows: a scalar, or nothing of a list or an
object. -/
def readFound : List Char → Reading Found
  | [] => .error (.here .endInValue [])
  | c :: rest =>
    if c = 'n' then (readWord ['u', 'l', 'l'] rest).map (Found.null, ·)
    else if c = 't' then (readWord ['r', 'u', 'e'] rest).map (Found.boolean true, ·)
    else if c = 'f' then (readWord ['a', 'l', 's', 'e'] rest).map (Found.boolean false, ·)
    else if c = '-' then readNumber true rest
    else if isDigit c then readNumber false (c :: rest)
    else if c = '"' then
      (readString rest).map fun (value, rest) => (.text (String.ofList value), rest)
    else if c = '[' then .ok (.list, c :: rest)
    else if c = '\x7b' then .ok (.object, c :: rest)
    else .error (.next .expectedValue (c :: rest))

/-- The fault of a value at the front of `text` that is not of the type `wanted`. A value that is no
JSON has a fault of its own. -/
def wrongType (wanted : Wanted) (text : List Char) : Fault :=
  match readFound text with
  | .error fault => fault
  | .ok (found, rest) => .here (.wrongType found wanted) rest

/-- Reads the value of `call`, a string. -/
def readText (text : List Char) : Reading String :=
  match skipBlanks text with
  | '"' :: rest => (readString rest).map fun (value, rest) => (String.ofList value, rest)
  | other => .error (wrongType .text other)

/-- Reads the value of `wait_input`, a truth value. -/
def readTruth (text : List Char) : Reading Bool :=
  match skipBlanks text with
  | 't' :: rest => (readWord ['r', 'u', 'e'] rest).map (true, ·)
  | 'f' :: rest => (readWord ['a', 'l', 's', 'e'] rest).map (false, ·)
  | other => .error (wrongType .truth other)

/-! ## Settings in the making -/

/-- The choices that were read so far. `Draft.settle` fills in the others. -/
structure Draft where
  call : Option String
  waitInput : Option Bool
deriving Repr, DecidableEq

/-- The draft before anything was read. -/
def Draft.empty : Draft := ⟨none, none⟩

/-- The settings that `draft` comes to, defaults filled in. -/
def Draft.settle (draft : Draft) : Settings :=
  let defaults : Settings := {}
  { call := draft.call.getD defaults.call
    waitInput := draft.waitInput.getD defaults.waitInput }

/-! ## The object form -/

/-- Reads the key of a member, which must be a string, from where `nextKey` has come to. -/
def readKey : List Char → Reading (Option String)
  | '"' :: rest => (readString rest).map fun (key, rest) => (some (String.ofList key), rest)
  | other => .error (.next .keyNotString other)

/-- Goes on to the next member of an object and reads its key, or past the end of the object. Every
member but the `first` has a comma before it. -/
def nextKey (first : Bool) (text : List Char) : Reading (Option String) :=
  match skipBlanks text with
  | [] => .error (.here .endInObject [])
  | '\x7d' :: rest => .ok (none, rest)
  | c :: rest =>
    if first then readKey (c :: rest)
    else if c = ',' then
      match skipBlanks rest with
      | [] => .error (.here .endInValue [])
      | '\x7d' :: after => .error (.next .trailingComma ('\x7d' :: after))
      | other => readKey other
    else .error (.next .expectedObjectEnd (c :: rest))

/-- The fault of a second member with the key `name`. If the object ends right behind the key, the
closing bracket counts as read. -/
def duplicate (name : String) (text : List Char) : Fault :=
  match skipBlanks text with
  | '\x7d' :: rest => .here (.duplicateField name) rest
  | other => .here (.duplicateField name) other

/-- Reads the colon and, by `read`, the value of a member, and puts the value into the draft by
`update`. -/
def readValue {α : Type} (read : List Char → Reading α) (update : α → Draft) (text : List Char) :
    Reading Draft :=
  ((readColon text).bind read).map fun (value, rest) => (update value, rest)

/-- Reads the rest of a member behind its `key`. A choice that `draft` has already is a fault. -/
def readMember (draft : Draft) (key : String) (text : List Char) : Reading Draft :=
  -- A key that occurs again is a fault before its colon is read.
  if key = "call" then
    if draft.call.isSome then .error (duplicate key text)
    else readValue readText (fun value => { draft with call := some value }) text
  else if key = "wait_input" then
    if draft.waitInput.isSome then .error (duplicate key text)
    else readValue readTruth (fun value => { draft with waitInput := some value }) text
  else ((readColon text).bind skipValue).map (draft, ·)

/-! ## The rest of an object is shorter -/

theorem length_readKey {text rest : List Char} {key : Option String}
    (h : readKey text = .ok (key, rest)) : rest.length < text.length := by
  rw [readKey.eq_def] at h
  split at h
  · obtain ⟨⟨value, behind⟩, hread, hpair⟩ := map_eq_ok.1 h
    cases hpair
    exact Nat.lt_succ_of_lt (length_readString hread)
  · cases h

theorem length_nextKey {first : Bool} {text rest : List Char} {key : Option String}
    (h : nextKey first text = .ok (key, rest)) : rest.length < text.length := by
  have blanks := length_skipBlanks_le text
  rw [nextKey] at h
  split at h
  · cases h
  · rename_i after hskip
    rw [hskip] at blanks
    cases h
    exact blanks
  · rename_i c after _ hskip
    rw [hskip] at blanks
    split at h
    · exact Nat.lt_of_lt_of_le (length_readKey h) blanks
    · split at h
      · have inner := length_skipBlanks_le after
        split at h
        · cases h
        · cases h
        · exact Nat.lt_trans (Nat.lt_of_lt_of_le (length_readKey h) inner) blanks
      · cases h

theorem length_readText {text rest : List Char} {value : String}
    (h : readText text = .ok (value, rest)) : rest.length ≤ text.length := by
  have blanks := length_skipBlanks_le text
  rw [readText] at h
  split at h
  · rename_i after hskip
    rw [hskip] at blanks
    obtain ⟨⟨chars, behind⟩, hread, hpair⟩ := map_eq_ok.1 h
    cases hpair
    exact Nat.le_of_lt (Nat.lt_trans (length_readString hread) blanks)
  · cases h

theorem length_mapWord {c : Char} {word text rest : List Char} {value result : Bool}
    (h : (readWord word text).map (value, ·) = .ok (result, rest)) :
    rest.length ≤ (c :: text).length := by
  obtain ⟨after, hread, hpair⟩ := map_eq_ok.1 h
  cases hpair
  exact Nat.le_of_lt (length_of_readWord hread)

theorem length_readTruth {text rest : List Char} {value : Bool}
    (h : readTruth text = .ok (value, rest)) : rest.length ≤ text.length := by
  have blanks := length_skipBlanks_le text
  rw [readTruth] at h
  split at h
  · rename_i after hskip
    rw [hskip] at blanks
    exact Nat.le_trans (length_mapWord h) blanks
  · rename_i after hskip
    rw [hskip] at blanks
    exact Nat.le_trans (length_mapWord h) blanks
  · cases h

theorem length_readValue {α : Type} {read : List Char → Reading α} {update : α → Draft}
    (shorter : ∀ {text value rest}, read text = .ok (value, rest) → rest.length ≤ text.length)
    {text rest : List Char} {result : Draft}
    (h : readValue read update text = .ok (result, rest)) : rest.length ≤ text.length := by
  obtain ⟨⟨value, behind⟩, hread, hpair⟩ := map_eq_ok.1 h
  obtain ⟨after, hcolon, hvalue⟩ := bind_eq_ok.1 hread
  cases hpair
  exact Nat.le_trans (shorter hvalue) (Nat.le_of_lt (length_readColon hcolon))

theorem length_readMember {draft result : Draft} {key : String} {text rest : List Char}
    (h : readMember draft key text = .ok (result, rest)) : rest.length ≤ text.length := by
  rw [readMember] at h
  split at h
  · split at h
    · cases h
    · exact length_readValue length_readText h
  · split at h
    · split at h
      · cases h
      · exact length_readValue length_readTruth h
    · obtain ⟨behind, hread, hpair⟩ := map_eq_ok.1 h
      obtain ⟨after, hcolon, hvalue⟩ := bind_eq_ok.1 hread
      cases hpair
      exact Nat.le_trans (length_skipValue hvalue) (Nat.le_of_lt (length_readColon hcolon))

/-- Reads the members of an object behind the opening bracket, and past its end. Each of them is put
into `draft`. -/
def readMembers (first : Bool) (draft : Draft) (text : List Char) : Reading Draft :=
  match _hkey : nextKey first text with
  | .error fault => .error fault
  | .ok (none, rest) => .ok (draft, rest)
  | .ok (some key, rest) =>
    match _hmember : readMember draft key rest with
    | .error fault => .error fault
    | .ok (draft, rest) => readMembers false draft rest
termination_by text.length
decreasing_by exact Nat.lt_of_le_of_lt (length_readMember _hmember) (length_nextKey _hkey)

/-! ## The list form -/

/-- Goes on to the next element of a list, or to its end, and says which. Every element but the
`first` has a comma before it. -/
def nextElement (first : Bool) (text : List Char) : Reading Bool :=
  match skipBlanks text with
  | [] => .error (.here .endInList [])
  | ']' :: rest => .ok (false, ']' :: rest)
  | c :: rest =>
    if first then .ok (true, c :: rest)
    else if c = ',' then
      match skipBlanks rest with
      | [] => .error (.here .endInValue [])
      | ']' :: after => .error (.next .trailingComma (']' :: after))
      | other => .ok (true, other)
    else .error (.next .expectedListEnd (c :: rest))

/-- Reads the end of a list that has all its elements. -/
def readListEnd (text : List Char) : Except Fault (List Char) :=
  match skipBlanks text with
  | [] => .error (.here .endInList [])
  | ']' :: rest => .ok rest
  | ',' :: rest =>
    match skipBlanks rest with
    | ']' :: after => .error (.next .trailingComma (']' :: after))
    | other => .error (.next .trailingCharacters other)
  | other => .error (.next .trailingCharacters other)

/-- Reads an element of a list by `read`, if there is one more. -/
def readElement {α : Type} (read : List Char → Reading α) (first : Bool) (text : List Char) :
    Reading (Option α) :=
  match nextElement first text with
  | .error fault => .error fault
  | .ok (false, rest) => .ok (none, rest)
  | .ok (true, rest) => (read rest).map fun (value, rest) => (some value, rest)

/-- Reads the elements of a list behind the opening bracket, and past its end. -/
def readElements (text : List Char) : Reading Draft :=
  (readElement readText true text).bind fun (call, rest) =>
    -- If the list ended before its first element, no comma is due before a second one.
    (readElement readTruth call.isNone rest).bind fun (waitInput, rest) =>
      (readListEnd rest).map (⟨call, waitInput⟩, ·)

/-! ## Whole texts -/

/-- Reads a draft in either form, by `readMembers` or `readElements`. -/
def readDraft (text : List Char) : Reading Draft :=
  match skipBlanks text with
  | '[' :: rest => readElements rest
  | '\x7b' :: rest => readMembers true .empty rest
  | other => .error (wrongType .settings other)

/-- Reads settings that make up the whole of `text`, apart from blanks. -/
def read (text : List Char) : Except Fault Settings :=
  match readDraft text with
  | .error fault => .error fault
  | .ok (draft, rest) =>
    match skipBlanks rest with
    | [] => .ok draft.settle
    | other => .error (.next .trailingCharacters other)

/-- The settings that `text` gives, or the report of its first fault. -/
def parse (text : String) : Except Report Settings :=
  match read text.toList with
  | .error fault => .error (fault.report text.toList)
  | .ok settings => .ok settings

end Printout.Settings
