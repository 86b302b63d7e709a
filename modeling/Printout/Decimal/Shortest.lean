/-!
# The shortest decimal of a binary number

A finite binary number stands for every real that rounds to it. Of the decimals among those reals
`shortest` takes one with the fewest digits, and of these the one nearest to the number itself. All
work is exact: numerators and denominators are natural numbers.
-/

set_option autoImplicit false

namespace Printout.Decimal

/-! ## Binary numbers -/

/-- The number `mantissa · 2 ^ exponent`, with the sign apart. -/
structure Binary where
  negative : Bool
  mantissa : Nat
  exponent : Int
deriving Repr, DecidableEq

/-- Where the mantissa field of a 64-bit pattern ends: `2 ^ 52`. -/
def mantissaBound : Nat := Nat.pow 2 52

/-- The finite number that the 64-bit pattern `bits` stands for. A zero exponent field has no hidden
bit. -/
def Binary.ofBits (bits : UInt64) : Binary :=
  let field := bits.toNat / mantissaBound % 2048
  let low := bits.toNat % mantissaBound
  { negative := bits.toNat / Nat.pow 2 63 = 1
    mantissa := if field = 0 then low else low + mantissaBound
    exponent := (max field 1 : Nat) - 1075 }

/-! ## The reals that round to a number -/

/-- Three points over one denominator: the number and the ends of the interval of the reals that
round to it. The ends belong to the interval if `closed` holds. -/
structure Interval where
  low : Nat
  value : Nat
  high : Nat
  denominator : Nat
  closed : Bool
deriving Repr, DecidableEq

/-- The interval of numbers that round to `b`, which is positive. Each end lies half way to the
neighbour on that side. Below a power of two the neighbours lie half as far apart. A tie rounds to
the even mantissa. -/
def Binary.interval (b : Binary) : Interval :=
  let unit := Nat.pow 2 (b.exponent - 2).toNat
  -- At the least exponent the numbers below a power of two lie as far apart as those above it.
  let below := if b.mantissa = mantissaBound ∧ -1074 < b.exponent then 1 else 2
  { low := (4 * b.mantissa - below) * unit
    value := 4 * b.mantissa * unit
    high := (4 * b.mantissa + 2) * unit
    denominator := Nat.pow 2 (2 - b.exponent).toNat
    closed := b.mantissa % 2 = 0 }

/-- Whether `n / m` lies in the interval. -/
def Interval.holds (i : Interval) (n m : Nat) : Bool :=
  let point := n * i.denominator
  if i.closed then i.low * m ≤ point && point ≤ i.high * m
  else i.low * m < point && point < i.high * m

/-! ## Decimals -/

/-- The number `digits · 10 ^ exponent`. -/
structure Digits where
  digits : Nat
  exponent : Int
deriving Repr, DecidableEq

/-- How many decimal digits `n` is written with. -/
def digitCount (n : Nat) : Nat := (Nat.toDigits 10 n).length

/-- The power of ten of the first digit of `n / m`, for a quotient of at least `10 ^ -400`. -/
def leadingExponent (n m : Nat) : Int :=
  if m ≤ n then digitCount (n / m) - 1
  else -(((List.range 400).find? fun k => m ≤ n * Nat.pow 10 k).getD 400 : Nat)

/-- The multiple of `10 ^ exponent` in the interval that is nearest to its value, if one of the two
multiples beside the value lies in it. Of two at the same distance the even one is taken. -/
def Interval.onGrid? (i : Interval) (exponent : Int) : Option Nat :=
  let up := Nat.pow 10 exponent.toNat
  let down := Nat.pow 10 (-exponent).toNat
  let grid := i.denominator * up
  let below := i.value * down / grid
  let above := below + 1
  let gap := i.value * down - below * grid
  let lower := i.holds (below * up) down
  let upper := i.holds (above * up) down
  match lower, upper with
  | true, true =>
    if 2 * gap < grid then some below
    else if grid < 2 * gap then some above
    else some (if below % 2 = 0 then below else above)
  | true, false => some below
  | false, true => some above
  | false, false => none

/-- The decimal with the fewest digits that lies in the interval `i`. Seventeen digits are always
enough. A value just below a power of ten can give that power, whose zeros at the end are no digits
that count. -/
def Interval.shortest (i : Interval) : Digits :=
  -- The grids are tried from the coarsest on, one more digit at a time.
  let lead := leadingExponent i.value i.denominator
  let found := (List.range 17).findSome? fun (more : Nat) =>
    let exponent : Int := lead - (more : Nat)
    (i.onGrid? exponent).map fun digits => (⟨digits, exponent⟩ : Digits)
  found.getD ⟨0, 0⟩

/-- The shortest decimal that rounds to `b`; zero has no digits to choose from. -/
def Binary.shortest (b : Binary) : Digits :=
  if b.mantissa = 0 then ⟨0, 0⟩ else b.interval.shortest

end Printout.Decimal
