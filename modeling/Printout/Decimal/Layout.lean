import Printout.Decimal.Shortest

/-!
# Writing a decimal

A layout says between which powers of ten a decimal is written with all its places; outside of them
it is written with one digit before the point and an exponent. A place after the point is always
written in the first form, so that the number cannot be taken for an integer.
-/

set_option autoImplicit false

namespace Printout.Decimal

/-- Where decimals are written with all places, and how wide an exponent is: what `Layout.write`
goes by. -/
structure Layout where
  /-- The lowest power of ten of a first digit that is written with all places. -/
  leastPlain : Int
  /-- The highest such power of ten. -/
  greatestPlain : Int
  /-- The least number of digits of an exponent. -/
  exponentWidth : Nat
deriving Repr, DecidableEq

/-- The exponent `e` of ten behind a decimal, always with a sign and at least `exponentWidth`
digits. -/
def Layout.exponent (layout : Layout) (e : Int) : String :=
  let digits := (Nat.repr e.natAbs).toList
  let zeros := List.replicate (layout.exponentWidth - digits.length) '0'
  (if e < 0 then "e-" else "e+") ++ String.ofList (zeros ++ digits)

/-- The decimal of `digits` with all its places, where `lead` is the power of ten of the first
digit. -/
def plain (digits : List Char) (lead : Int) : List Char :=
  if lead < 0 then
    ['0', '.'] ++ List.replicate (-lead - 1).toNat '0' ++ digits
  else
    let whole := lead.toNat + 1
    let before := digits.take whole
    let after := digits.drop whole
    before ++ List.replicate (whole - before.length) '0' ++
      '.' :: if after = [] then ['0'] else after

/-- A decimal with one digit before the point, without its `Layout.exponent`. -/
def scaled : List Char → List Char
  | [] => []
  | [d] => [d]
  | d :: ds => d :: '.' :: ds

/-- The digits that count: all up to the last that is not zero, and at least the first. -/
def significant : List Char → List Char
  | [] => []
  | d :: ds => d :: (ds.reverse.dropWhile (· == '0')).reverse

/-- The text of `b`, as short as reading it back allows. -/
def Layout.write (layout : Layout) (b : Binary) : String :=
  let decimal := b.shortest
  let all := Nat.toDigits 10 decimal.digits
  let lead := decimal.exponent + all.length - 1
  let digits := significant all
  let body :=
    if layout.leastPlain ≤ lead ∧ lead ≤ layout.greatestPlain then
      String.ofList (plain digits lead)
    else
      String.ofList (scaled digits) ++ layout.exponent lead
  (if b.negative then "-" else "") ++ body

end Printout.Decimal
