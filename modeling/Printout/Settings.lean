/-!
# Settings

The two choices a user has: which call's arguments are taken, and whether the program ends by
waiting for input.
-/

set_option autoImplicit false

namespace Printout

/-- What to look for and how to end. The defaults are those of a file that leaves out a member. -/
structure Settings where
  /-- The name of the call whose arguments are taken. -/
  call : String := "Println"
  /-- Whether the program ends by waiting for input. -/
  waitInput : Bool := true
deriving Repr, DecidableEq

end Printout
