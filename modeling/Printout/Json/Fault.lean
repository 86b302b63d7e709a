import Printout.Json.Found

/-!
# Faults of a JSON text

A reader stops at the first fault in reading order. A fault says what is wrong and where the reader
stood: the text that was not read yet, and how many bytes of it had been looked at already. Its
position counts lines from one and the bytes, not the characters, since the last line feed.
-/

set_option autoImplicit false

namespace Printout.Json

/-! ## Causes -/

/-- A type that a value may have to be of, as `Cause.wrongType` names it. -/
inductive Wanted where
  | settings
  | text
  | truth
deriving Repr, DecidableEq

/-- The name of a type behind `expected` in the message of `Cause.wrongType`. -/
def Wanted.describe : Wanted → String
  | .settings => "struct Config"
  | .text => "a string"
  | .truth => "a boolean"

/-- What is wrong with a text. -/
inductive Cause where
  | endInValue
  | endInList
  | endInObject
  | endInString
  | expectedValue
  | expectedWord
  | expectedColon
  | expectedListEnd
  | expectedObjectEnd
  | keyNotString
  | trailingComma
  | trailingCharacters
  | invalidNumber
  | numberOutOfRange
  | invalidEscape
  | unfinishedPair
  | loneSurrogate
  | controlCharacter
  /-- A value that is `found` where one of the type `wanted` is due. -/
  | wrongType (found : Found) (wanted : Wanted)
  /-- The key `name`, which may occur once, occurs again. -/
  | duplicateField (name : String)
deriving Repr, DecidableEq

/-- The three classes of causes: the text ends too early, it is no JSON, or it does not say what it
should. -/
inductive CauseClass where
  | incomplete
  | malformed
  | unsuitable
deriving Repr, DecidableEq

/-- The class of a cause. Only `wrongType` and `duplicateField` are about what a well-formed text
says. -/
def Cause.toClass : Cause → CauseClass
  | .endInValue | .endInList | .endInObject | .endInString => .incomplete
  | .wrongType _ _ | .duplicateField _ => .unsuitable
  | _ => .malformed

/-- The wording of a cause, without the place that `Report.message` adds. -/
def Cause.message : Cause → String
  | .endInValue => "EOF while parsing a value"
  | .endInList => "EOF while parsing a list"
  | .endInObject => "EOF while parsing an object"
  | .endInString => "EOF while parsing a string"
  | .expectedValue => "expected value"
  | .expectedWord => "expected ident"
  | .expectedColon => "expected `:`"
  | .expectedListEnd => "expected `,` or `]`"
  | .expectedObjectEnd => "expected `,` or `\x7d`"
  | .keyNotString => "key must be a string"
  | .trailingComma => "trailing comma"
  | .trailingCharacters => "trailing characters"
  | .invalidNumber => "invalid number"
  | .numberOutOfRange => "number out of range"
  | .invalidEscape => "invalid escape"
  | .unfinishedPair => "unexpected end of hex escape"
  | .loneSurrogate => "lone leading surrogate in hex escape"
  | .controlCharacter => "control character (\\u0000-\\u001F) found while parsing a string"
  | .wrongType found wanted =>
    "invalid type: " ++ found.describe ++ ", expected " ++ wanted.describe
  | .duplicateField name => "duplicate field `" ++ name ++ "`"

/-! ## Positions -/

/-- A place in a text, with the two numbers that `Report.message` shows. -/
structure Position where
  /-- The number of the line, from one. -/
  line : Nat
  /-- The number of bytes before the place on its line. -/
  column : Nat
deriving Repr, DecidableEq

/-- The bytes of `text` in UTF-8. -/
def bytes (text : List Char) : List UInt8 := text.flatMap String.utf8EncodeChar

/-- The place behind the bytes `read`. -/
def Position.after (read : List UInt8) : Position :=
  { line := 1 + read.count 10
    column := (read.reverse.takeWhile (· != 10)).length }

/-! ## Faults -/

/-- A fault while a text is being read, of which `rest` is left. -/
structure Fault where
  cause : Cause
  /-- The text that was not read yet. -/
  rest : List Char
  /-- How many bytes of `rest` count as read. -/
  seen : Nat
deriving Repr, DecidableEq

/-- A fault right here: none of `rest` counts as read. -/
def Fault.here (cause : Cause) (rest : List Char) : Fault := ⟨cause, rest, 0⟩

/-- A fault at the first byte of `rest`, which counts as read. -/
def Fault.next (cause : Cause) (rest : List Char) : Fault := ⟨cause, rest, 1⟩

/-- The place of `fault` in the whole `text`. -/
def Fault.position (fault : Fault) (text : List Char) : Position :=
  let all := bytes text
  .after (all.take (all.length - (bytes fault.rest).length + fault.seen))

/-- A fault as a user sees it, its `position` counted from the start of the text. -/
structure Report where
  cause : Cause
  position : Position
deriving Repr, DecidableEq

/-- The report of a fault in `text`, of which `fault.rest` is the end. -/
def Fault.report (fault : Fault) (text : List Char) : Report :=
  ⟨fault.cause, fault.position text⟩

/-- The message of `report`: that of its `cause`, then the `line` and the `column` of its
`position`. -/
def Report.message (report : Report) : String :=
  report.cause.message ++ " at line " ++ Nat.repr report.position.line ++ " column " ++
    Nat.repr report.position.column

/-! ## Readings -/

/-- What a reader of an `α` comes to: a value and the rest of the text, or the first `Fault`. -/
abbrev Reading (α : Type) := Except Fault (α × List Char)

/-- `outcome.map f` is a success just where `outcome` is one. -/
theorem map_eq_ok {α β : Type} {outcome : Except Fault α} {f : α → β} {b : β} :
    outcome.map f = .ok b ↔ ∃ a, outcome = .ok a ∧ f a = b := by
  cases outcome with
  | error fault => simp [Except.map]
  | ok a => simp [Except.map]

/-- `outcome.bind f` is a success just where both parts are. -/
theorem bind_eq_ok {α β : Type} {outcome : Except Fault α} {f : α → Except Fault β} {b : β} :
    outcome.bind f = .ok b ↔ ∃ a, outcome = .ok a ∧ f a = .ok b := by
  cases outcome with
  | error fault => simp [Except.bind]
  | ok a => simp [Except.bind]

end Printout.Json
