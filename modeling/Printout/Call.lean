/-!
# Calls in a text

A call is its name, an opening parenthesis, an argument and a closing parenthesis. The argument
ends at the first closing parenthesis and stays on one line, so parentheses inside it are not
counted and a quote does not protect one. The name is plain text and may be any text at all.

`arguments` lists the arguments of the calls found from left to right. After a call the search goes
on behind its closing parenthesis; where no call starts it moves on by one character. This one
search stands for every name: the default one has no pattern of its own, and no character of a name
has a meaning in the pattern made from it. A limit on the size of a pattern is left out, so that no
name is too long to look for.
-/

set_option autoImplicit false

namespace Printout.Call

/-- Whether an argument may hold `c`: all but the closing parenthesis and a line feed. -/
def isArgumentChar (c : Char) : Bool := c != ')' && c != '\n'

/-- The argument at the start of `text`, where `text` stands behind an opening parenthesis, and the
text behind the parenthesis that closes it. There is none if the line or `text` ends first. -/
def argument? (text : List Char) : Option (List Char × List Char) :=
  match text.dropWhile isArgumentChar with
  | ')' :: rest => some (text.takeWhile isArgumentChar, rest)
  | _ => none

/-- The call at the very start of `text`, which `opening` opens: its argument and the text behind
it. -/
def atStart? (opening text : List Char) : Option (List Char × List Char) :=
  (opening.isPrefixOf? text).bind argument?

/-- What opens a call of `name`. -/
def opening (name : List Char) : List Char := name ++ ['(']

/-! ## The rest is shorter -/

/-- Taking `front` off `text` leaves `rest` exactly if `text` is `front` with `rest` behind it. -/
theorem isPrefixOf?_eq_some {front text rest : List Char} :
    front.isPrefixOf? text = some rest ↔ text = front ++ rest := by
  induction front generalizing text with
  | nil =>
    change some text = some rest ↔ text = rest
    rw [Option.some.injEq]
  | cons a front ih =>
    cases text with
    | nil =>
      change none = some rest ↔ [] = a :: front ++ rest
      simp
    | cons b text =>
      change (if (a == b) = true then front.isPrefixOf? text else none) = some rest ↔
        b :: text = a :: front ++ rest
      by_cases h : a = b
      · subst h
        simp [ih]
      · simp [h, Ne.symm h]

/-- The `argument`, the parenthesis that closes it and the `rest` make up `text`. -/
theorem eq_append_of_argument? {text argument rest : List Char}
    (h : argument? text = some (argument, rest)) : text = argument ++ ')' :: rest := by
  have split := List.takeWhile_append_dropWhile (p := isArgumentChar) (l := text)
  rw [argument?] at h
  split at h
  · rename_i after hdrop
    simp only [Option.some.injEq, Prod.mk.injEq] at h
    rw [hdrop] at split
    rw [← h.1, ← h.2, split]
  · simp at h

/-- A call at the start of `text` leaves a shorter `rest`, by which `scan` terminates. -/
theorem length_lt_of_atStart? {start text argument rest : List Char}
    (h : atStart? start text = some (argument, rest)) : rest.length < text.length := by
  simp only [atStart?, Option.bind_eq_some_iff] at h
  obtain ⟨after, hstart, harg⟩ := h
  rw [isPrefixOf?_eq_some.1 hstart, eq_append_of_argument? harg]
  simp
  omega

/-! ## The search -/

/-- The arguments of the calls in `text`, from left to right, where `start` is what opens a call. -/
def scan (start : List Char) (text : List Char) : List (List Char) :=
  match _h : atStart? start text with
  | some (argument, rest) => argument :: scan start rest
  | none =>
    match text with
    | [] => []
    | _ :: rest => scan start rest
termination_by text.length
decreasing_by
  · exact length_lt_of_atStart? _h
  · simp

/-- The arguments of the calls of `name` in `text`, from left to right and without overlap. -/
def arguments (name text : List Char) : List (List Char) := scan (opening name) text

end Printout.Call
