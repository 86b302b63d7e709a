import Printout.Text.Visible

/-!
# Quoted texts

Messages show a text between double quotes. A reader must be able to tell every character, so what
cannot be seen by itself is written as an escape: by a letter where there is one, else by its code
point in braces. A single quote needs no escape inside double quotes.
-/

set_option autoImplicit false

namespace Printout.Text

/-- The escape of `c` by its code point in hexadecimal digits. -/
def codePointEscape (c : Char) : List Char :=
  ['\\', 'u', '\x7b'] ++ Nat.toDigits 16 c.toNat ++ ['\x7d']

/-- What stands for `c` between double quotes. -/
def quotedChar (c : Char) : List Char :=
  if c = '\x00' then ['\\', '0']
  else if c = '\t' then ['\\', 't']
  else if c = '\r' then ['\\', 'r']
  else if c = '\n' then ['\\', 'n']
  else if c = '"' then ['\\', '"']
  else if c = '\\' then ['\\', '\\']
  else if isVisible c then [c]
  else codePointEscape c

/-- The `text` between double quotes, character by character as `quotedChar` has it. -/
def quote (text : String) : String :=
  "\"" ++ String.ofList (text.toList.flatMap quotedChar) ++ "\""

end Printout.Text
