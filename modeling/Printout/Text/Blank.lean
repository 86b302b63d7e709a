/-!
# Blank characters

Two classes of blanks are in use. `isSpace` is the White_Space property; `isBlank` adds the four
information separators, which stand for the gaps between units of data and are trimmed off an
argument together with the spaces around it.
-/

set_option autoImplicit false

namespace Printout.Text

/-- The code points with the White_Space property, as closed ranges. -/
def spaceRanges : List (Nat × Nat) :=
  [(0x09, 0x0D), (0x20, 0x20), (0x85, 0x85), (0xA0, 0xA0), (0x1680, 0x1680), (0x2000, 0x200A),
    (0x2028, 0x2029), (0x202F, 0x202F), (0x205F, 0x205F), (0x3000, 0x3000)]

/-- Whether the code point of `c` lies in one of the closed `ranges`. -/
def inRanges (ranges : List (Nat × Nat)) (c : Char) : Bool :=
  ranges.any fun (low, high) => low ≤ c.toNat && c.toNat ≤ high

/-- Whether `c` has the White_Space property. -/
def isSpace (c : Char) : Bool := inRanges spaceRanges c

/-- Whether `c` is an information separator: file, group, record or unit. -/
def isSeparator (c : Char) : Bool := 0x1C ≤ c.toNat && c.toNat ≤ 0x1F

/-- Whether `c` is trimmed off both ends of an argument. -/
def isBlank (c : Char) : Bool := isSpace c || isSeparator c

/-- The `text` without the characters at either end that `drop` holds of. -/
def trimBoth (drop : Char → Bool) (text : List Char) : List Char :=
  ((text.dropWhile drop).reverse.dropWhile drop).reverse

/-! ## Small facts -/

@[simp] theorem isBlank_quote : isBlank '"' = false := by decide

end Printout.Text
