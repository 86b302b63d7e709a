/-!
# Texts without terminal control

A text can hold sequences that a terminal obeys instead of showing them. A stream that leads to no
terminal is given the text without them. `strip` walks through the text with the state of such a
sequence at hand and keeps what would be shown: visible characters, and line ends, tabs and form
feeds.

A blank control inside a short sequence is kept, and the text that follows it is shown up to the
next control that is not; only then does the sequence that was begun go on. So the walk has a second
state, whether it is showing.
-/

set_option autoImplicit false

namespace Printout.Text.Terminal

/-! ## Sequences -/

/-- Where in a sequence `strip` is. -/
inductive Phase where
  /-- In no sequence. -/
  | text
  /-- Behind the escape character. -/
  | escape
  /-- Behind the escape character and a mark that asks for one more. -/
  | escapeMore
  /-- In a control sequence, which a letter ends. -/
  | control
  /-- At the start of a device string. -/
  | device
  /-- In the parameters of a device string. -/
  | deviceParameters
  /-- Behind the marks that come before the body of a device string. -/
  | deviceMarks
  /-- In a body that is passed over until the byte that ends a string. -/
  | body
  /-- In a command to the system, which the bell ends. -/
  | command
deriving Repr, DecidableEq

/-- Whether `c` lies between `low` and `high`, both included. -/
def between (low high c : Char) : Bool := low ≤ c && c ≤ high

/-- Whether the byte that ends a string is among the bytes of `c`. -/
def endsString (c : Char) : Bool := (String.utf8EncodeChar c).contains 0x9C

/-- The phase behind the escape character and `c`. -/
def Phase.afterEscape (c : Char) : Phase :=
  if c = '[' then .control
  else if c = ']' then .command
  else if c = 'P' then .device
  else if c = 'X' ∨ c = '^' ∨ c = '_' then .body
  else if between '0' '~' c then .text
  else if between ' ' '/' c then .escapeMore
  else .escape

/-- The phase behind `c` where `Phase.shows` does not hold of it. The escape character begins a new
sequence in every phase, and two controls break any sequence off. -/
def Phase.next (phase : Phase) (c : Char) : Phase :=
  if c = '\x1b' then .escape
  else if c = '\x18' ∨ c = '\x1a' then .text
  else
    match phase with
    | .text => .text
    | .escape => .afterEscape c
    | .escapeMore => if between '0' '~' c then .text else .escapeMore
    | .control => if between '@' '~' c then .text else .control
    | .device =>
      if between '@' '~' c then .body
      else if between ' ' '/' c then .deviceMarks
      else if between '0' '?' c then .deviceParameters
      else .device
    | .deviceParameters =>
      if between '<' '~' c then .body
      else if between ' ' '/' c then .deviceMarks
      else .deviceParameters
    | .deviceMarks => if between '0' '~' c then .body else .deviceMarks
    | .body => if endsString c then .text else .body
    | .command => if c = '\x07' then .text else .command

/-! ## Shown characters -/

/-- Whether `c` is a control that moves on in the text: tab, line feed, form feed or carriage
return. -/
def isBlankControl (c : Char) : Bool := c == '\t' || c == '\n' || c == '\x0c' || c == '\r'

/-- Whether `c` is shown outside of a sequence. -/
def isShown (c : Char) : Bool := (' ' ≤ c && c != '\x7f') || isBlankControl c

/-- Whether `c` is shown in a phase. Strings and commands show nothing. -/
def Phase.shows (phase : Phase) (c : Char) : Bool :=
  match phase with
  | .text => isShown c
  | .escape | .escapeMore | .control => isBlankControl c
  | _ => false

/-- The phase behind `c` where it is shown: a character of more than one byte ends what was
begun. -/
def Phase.behind (phase : Phase) (c : Char) : Phase := if c < '\x80' then phase else .text

/-- The characters of a text that are shown, from `phase` on. Once `showing`, the walk goes on until
a character is not shown. -/
def strip (showing : Bool) (phase : Phase) : List Char → List Char
  | [] => []
  | c :: rest =>
    -- A walk that is showing goes by the character alone, whatever sequence it is in.
    if (if showing then isShown c else phase.shows c) then
      c :: strip true (phase.behind c) rest
    else strip false (phase.next c) rest

/-- The `text` without the sequences that a terminal obeys. -/
def plain (text : String) : String := String.ofList (strip false .text text.toList)

/-! ## Small facts -/

/-- A text whose characters all satisfy `isShown` loses nothing. -/
theorem strip_text_of_shown {text : List Char} (h : ∀ c ∈ text, isShown c = true)
    (showing : Bool) : strip showing .text text = text := by
  induction text generalizing showing with
  | nil => rfl
  | cons c rest ih =>
    have hc : isShown c = true := h c List.mem_cons_self
    have hrest := ih (fun d hd => h d (List.mem_cons_of_mem c hd)) true
    have hphase : Phase.behind .text c = .text := by
      rw [Phase.behind]
      split <;> rfl
    cases showing <;> simp [strip, Phase.shows, hc, hphase, hrest]

end Printout.Text.Terminal
