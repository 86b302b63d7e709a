import Printout.Decimal.Layout
import Printout.Text.Quoted

/-!
# What a reader found

When a value has the wrong type, the message names what stands there. Scalars are shown, lists and
objects only named.
-/

set_option autoImplicit false

namespace Printout.Json

/-- A value as far as `Cause.wrongType` tells it: scalars with their value, lists and objects by
kind. -/
inductive Found where
  | null
  | boolean (value : Bool)
  | integer (value : Int)
  | float (value : Decimal.Binary)
  | text (value : String)
  | list
  | object
deriving Repr, DecidableEq

/-- Floating point numbers have a point or an exponent and are written with all places from
`10 ^ -5` to below `10 ^ 16`. -/
def floatLayout : Decimal.Layout := ⟨-5, 15, 1⟩

/-- The name of a value behind `invalid type` in the message of `Cause.wrongType`. -/
def Found.describe : Found → String
  | .null => "null"
  | .boolean value => "boolean `" ++ (if value then "true" else "false") ++ "`"
  | .integer value => "integer `" ++ Int.repr value ++ "`"
  | .float value => "floating point `" ++ floatLayout.write value ++ "`"
  | .text value => "string " ++ Text.quote value
  | .list => "sequence"
  | .object => "map"

end Printout.Json
