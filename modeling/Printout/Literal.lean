import Printout.Text.Blank

/-!
# String literals among arguments

An argument counts as a string literal by its ends alone: after trimming it starts with a double
quote and ends with one. What lies between is kept as it stands, so an escape is not decoded and
`"a" + "b"` passes as one literal.
-/

set_option autoImplicit false

namespace Printout

/-- The text between the outer quotes of `argument` after trimming, if it has both. A quote that
stands alone is the start and the end at once, and its inside is empty. -/
def unquote? (argument : List Char) : Option (List Char) :=
  match Text.trimBoth Text.isBlank argument with
  | '"' :: body =>
    if body = [] then some []
    else if body.getLast? = some '"' then some body.dropLast
    else none
  | _ => none

end Printout
