/-!
# Line endings

A text may end its lines with a line feed, a carriage return, or a carriage return followed by a
line feed. The rest of the library knows the line feed only. `normalize` gets there by two
replacements in turn: every pair becomes one line feed, then every carriage return that is left
becomes one.
-/

set_option autoImplicit false

namespace Printout.Text

/-- The text with every carriage return that a line feed follows taken out, so that each pair
becomes the line feed alone. -/
def mergePairs : List Char → List Char
  | '\r' :: '\n' :: rest => '\n' :: mergePairs rest
  | c :: rest => c :: mergePairs rest
  | [] => []

/-- The character `c`, or a line feed where `c` is a carriage return that ends a line. -/
def endLine (c : Char) : Char := if c = '\r' then '\n' else c

/-- The `text` with every line ended by a line feed: pairs are merged before the other carriage
returns are read by `endLine`. -/
def normalize (text : List Char) : List Char := (mergePairs text).map endLine

/-! ## Small facts -/

@[simp] theorem mergePairs_pair (rest : List Char) :
    mergePairs ('\r' :: '\n' :: rest) = '\n' :: mergePairs rest := by
  simp [mergePairs]

@[simp] theorem normalize_nil : normalize [] = [] := rfl

/-- No carriage return is left, so a text that went through `normalize` has one kind of line end. -/
theorem return_notMem_normalize (text : List Char) : '\r' ∉ normalize text := by
  simp only [normalize, List.mem_map, not_exists, not_and]
  intro c _ h
  by_cases hc : c = '\r' <;> simp_all [endLine]

end Printout.Text
