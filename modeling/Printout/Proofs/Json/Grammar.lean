import Mathlib.Data.List.Basic
import Printout.Json.Skip

/-!
# The grammar of JSON texts

What a text of JSON may look like, said without a reader: blanks, strings, numbers and values. A
string is a row of spellings, one for each of its characters, and most characters have several. The
grammar knows two kinds of strings. Where the value counts, a character beyond the first plane that
is escaped is written as a pair of surrogates, and no surrogate stands alone. Where the value is not
wanted, any four hexadecimal digits make an escape.

A value in brackets is a list of items, and the items hold values again. So `Value` is one inductive
predicate, and an induction over it meets the values of all items at once.
-/

set_option autoImplicit false

namespace Printout.Json

/-! ## Blanks -/

/-- Blanks between tokens. -/
def Blanks (text : List Char) : Prop := ∀ c ∈ text, c = ' ' ∨ c = '\t' ∨ c = '\n' ∨ c = '\r'

/-! ## Strings -/

/-- The character `c` is the hexadecimal digit `n`. A letter may be written in either case. -/
def HexDigit (c : Char) (n : Nat) : Prop :=
  n < 16 ∧ (c = Nat.digitChar n ∨ c = (Nat.digitChar n).toUpper)

/-- Four hexadecimal digits, each a `HexDigit`, and the unit that they write. -/
inductive HexUnit : List Char → Nat → Prop where
  | mk {a b c d : Char} {i j k l : Nat} : HexDigit a i → HexDigit b j → HexDigit c k →
      HexDigit d l → HexUnit [a, b, c, d] (((i * 16 + j) * 16 + k) * 16 + l)

/-- The letters behind a backslash in `Escape.letter`, and the characters they stand for. -/
def letterEscapes : List (Char × Char) :=
  [('"', '"'), ('\\', '\\'), ('/', '/'), ('b', '\x08'), ('f', '\x0c'), ('n', '\n'), ('r', '\r'),
    ('t', '\t')]

/-- The character `c` may stand in a string as it is. -/
def IsPlain (c : Char) : Prop := c ≠ '"' ∧ c ≠ '\\' ∧ 0x20 ≤ c.toNat

/-- The ways to write a character by its code point, behind a backslash and the letter `u`. -/
inductive CodePoint : List Char → Char → Prop where
  | unit {digits : List Char} {c : Char} : HexUnit digits c.toNat → CodePoint digits c
  /-- A character beyond the first plane is written as its two surrogates. -/
  | pair {high low : List Char} {c : Char} : 0x10000 ≤ c.toNat →
      HexUnit high (0xD800 + (c.toNat - 0x10000) / 0x400) →
      HexUnit low (0xDC00 + (c.toNat - 0x10000) % 0x400) →
      CodePoint (high ++ '\\' :: 'u' :: low) c

/-- The ways to write a character behind a backslash. -/
inductive Escape : List Char → Char → Prop where
  | letter {letter c : Char} : (letter, c) ∈ letterEscapes → Escape [letter] c
  | codePoint {digits : List Char} {c : Char} : CodePoint digits c → Escape ('u' :: digits) c

/-- The ways to write a character of a string. -/
inductive Spelling : List Char → Char → Prop where
  | plain {c : Char} : IsPlain c → Spelling [c] c
  | escape {text : List Char} {c : Char} : Escape text c → Spelling ('\\' :: text) c

/-- The inside of a string, and its value. -/
inductive Spelled : List Char → List Char → Prop where
  | nil : Spelled [] []
  | cons {front text value : List Char} {c : Char} : Spelling front c → Spelled text value →
      Spelled (front ++ text) (c :: value)

/-- What may stand behind a backslash where the character is not wanted. -/
inductive LooseEscape : List Char → Prop where
  | letter {letter c : Char} : (letter, c) ∈ letterEscapes → LooseEscape [letter]
  | unit {digits : List Char} {n : Nat} : HexUnit digits n → LooseEscape ('u' :: digits)

/-- What may stand for a character where it is not wanted. -/
inductive LooseSpelling : List Char → Prop where
  | plain {c : Char} : IsPlain c → LooseSpelling [c]
  | escape {text : List Char} : LooseEscape text → LooseSpelling ('\\' :: text)

/-- The inside of a string whose value is not wanted. -/
inductive LooselySpelled : List Char → Prop where
  | nil : LooselySpelled []
  | cons {front text : List Char} : LooseSpelling front → LooselySpelled text →
      LooselySpelled (front ++ text)

/-- A string in its quotes, and its value. -/
def StringText (text : List Char) (value : String) : Prop :=
  ∃ inside, text = '"' :: (inside ++ ['"']) ∧ Spelled inside value.toList

/-! ## Numbers -/

/-- One or more decimal digits. -/
def DigitRun (text : List Char) : Prop := text ≠ [] ∧ ∀ c ∈ text, isDigit c = true

/-- The whole part of a number, which has no leading zero. -/
inductive WholeText : List Char → Prop where
  | zero : WholeText ['0']
  | digits {d : Char} {digits : List Char} : d ≠ '0' → DigitRun (d :: digits) →
      WholeText (d :: digits)

/-- The fraction of a number, if it has one. -/
inductive FractionText : List Char → Prop where
  | none : FractionText []
  | some {digits : List Char} : DigitRun digits → FractionText ('.' :: digits)

/-- The exponent of a number, if it has one. -/
inductive ExponentText : List Char → Prop where
  | none : ExponentText []
  | some {letter : Char} {sign digits : List Char} : letter = 'e' ∨ letter = 'E' →
      sign ∈ [[], ['+'], ['-']] → DigitRun digits → ExponentText (letter :: (sign ++ digits))

/-- A number behind its sign. It may be of any magnitude. -/
inductive NumeralText : List Char → Prop where
  | mk {whole fraction exponent : List Char} : WholeText whole → FractionText fraction →
      ExponentText exponent → NumeralText (whole ++ (fraction ++ exponent))

/-! ## Values -/

/-- The character that opens a bracket. -/
def Bracket.opening : Bracket → Char
  | .list => '['
  | .object => '\x7b'

/-- What stands in a bracket for one value, up to the comma or the closing bracket behind it. -/
structure Item where
  /-- The key and its colon, if the bracket is an object. -/
  label : List Char
  front : List Char
  value : List Char
  back : List Char
deriving Repr, DecidableEq

/-- The text of an item. -/
def Item.text (item : Item) : List Char := item.label ++ (item.front ++ (item.value ++ item.back))

/-- What stands before a value in a bracket: nothing in a list, a key with its colon in an
object. -/
inductive Label : Bracket → List Char → Prop where
  | list : Label .list []
  | object {front key back : List Char} : Blanks front → LooselySpelled key → Blanks back →
      Label .object (front ++ '"' :: (key ++ '"' :: (back ++ [':'])))

/-- The value of an item is set off by what its bracket asks for. -/
structure Item.Fits (bracket : Bracket) (item : Item) : Prop where
  label : Label bracket item.label
  front : Blanks item.front
  back : Blanks item.back

/-- A value, of any depth. -/
inductive Value : List Char → Prop where
  | null : Value ['n', 'u', 'l', 'l']
  | true : Value ['t', 'r', 'u', 'e']
  | false : Value ['f', 'a', 'l', 's', 'e']
  | number {text : List Char} : NumeralText text → Value text
  | negative {text : List Char} : NumeralText text → Value ('-' :: text)
  | string {inside : List Char} : LooselySpelled inside → Value ('"' :: (inside ++ ['"']))
  | empty {bracket : Bracket} {blanks : List Char} : Blanks blanks →
      Value (bracket.opening :: (blanks ++ [bracket.closing]))
  | bracketed {bracket : Bracket} {items : List Item} : items ≠ [] →
      (∀ item ∈ items, item.Fits bracket) → (∀ item ∈ items, Value item.value) →
      Value (bracket.opening :: ([','].intercalate (items.map Item.text) ++ [bracket.closing]))

end Printout.Json
