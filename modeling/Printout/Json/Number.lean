import Printout.Json.Scalar

/-!
# Numbers

`readNumeral` reads the written form of a number: a whole part without leading zeros, then perhaps a
fraction, then perhaps an exponent. A skipped number is only read; where a number is reported it
also gets a value, which is an integer if the numeral has a whole part only and fits a machine word,
and a floating point number otherwise.
-/

set_option autoImplicit false

namespace Printout.Json

/-! ## Written forms -/

/-- The written form of a number, with its digits in order. `Numeral.value` is what it stands for.
-/
structure Numeral where
  negative : Bool
  whole : List Char
  /-- The digits behind the point, if there is a point. -/
  fraction : Option (List Char)
  /-- Whether the exponent is negative, and its digits, if there is an exponent. -/
  exponent : Option (Bool × List Char)
deriving Repr, DecidableEq

/-- A decimal digit. -/
def isDigit (c : Char) : Bool := '0' ≤ c && c ≤ '9'

/-- Reads the whole part: a zero alone, or digits of which the first is not zero. Where the text
ends first, the cause is `atEnd`. -/
def readWhole (atEnd : Cause) : List Char → Reading (List Char)
  | [] => .error (.here atEnd [])
  | c :: rest =>
    if c = '0' then
      match rest with
      | d :: _ => if isDigit d then .error (.next .invalidNumber rest) else .ok ([c], rest)
      | [] => .ok ([c], rest)
    else if isDigit c then .ok (c :: rest.takeWhile isDigit, rest.dropWhile isDigit)
    else .error (.next .invalidNumber (c :: rest))

/-- Reads the fraction, if there is a point, and at least one digit of it. Where the text ends
first, the cause is `atEnd`. -/
def readFraction (atEnd : Cause) : List Char → Reading (Option (List Char))
  | '.' :: rest =>
    match rest with
    | [] => .error (.here atEnd [])
    | d :: _ =>
      if isDigit d then .ok (some (rest.takeWhile isDigit), rest.dropWhile isDigit)
      else .error (.next .invalidNumber rest)
  | rest => .ok (none, rest)

/-- Reads the digits of an exponent, of which there is at least one. Its sign is `negative`. -/
def readExponentDigits (atEnd : Cause) (negative : Bool) :
    List Char → Reading (Option (Bool × List Char))
  | [] => .error (.here atEnd [])
  | d :: rest =>
    if isDigit d then
      .ok (some (negative, d :: rest.takeWhile isDigit), rest.dropWhile isDigit)
    else .error (.next .invalidNumber (d :: rest))

/-- Reads the exponent, if there is an `e` or an `E`, with its sign. -/
def readExponent (atEnd : Cause) : List Char → Reading (Option (Bool × List Char))
  | [] => .ok (none, [])
  | c :: rest =>
    if c = 'e' ∨ c = 'E' then
      match rest with
      | '+' :: digits => readExponentDigits atEnd false digits
      | '-' :: digits => readExponentDigits atEnd true digits
      | digits => readExponentDigits atEnd false digits
    else .ok (none, c :: rest)

/-- Reads the written form of a number behind its sign, which `negative` tells. Where the text ends
too early the cause is `atEnd`. -/
def readNumeral (atEnd : Cause) (negative : Bool) (text : List Char) :
    Reading Numeral :=
  (readWhole atEnd text).bind fun (whole, rest) =>
    (readFraction atEnd rest).bind fun (fraction, rest) =>
      (readExponent atEnd rest).map fun (exponent, rest) =>
        (⟨negative, whole, fraction, exponent⟩, rest)

/-! ## A numeral makes the text shorter -/

theorem length_readWhole {atEnd : Cause} {text rest digits : List Char}
    (h : readWhole atEnd text = .ok (digits, rest)) : rest.length < text.length := by
  rw [readWhole.eq_def] at h
  split at h
  · cases h
  · rename_i c after
    split at h
    · split at h
      · split at h
        · cases h
        · cases h
          exact Nat.lt_succ_self _
      · cases h
        exact Nat.lt_succ_self _
    · split at h
      · cases h
        exact Nat.lt_succ_of_le (length_dropWhile_le isDigit after)
      · cases h

theorem length_readFraction {atEnd : Cause} {text rest : List Char} {digits : Option (List Char)}
    (h : readFraction atEnd text = .ok (digits, rest)) : rest.length ≤ text.length := by
  rw [readFraction.eq_def] at h
  split at h
  · split at h
    · cases h
    · rename_i d after
      split at h
      · cases h
        exact Nat.le_succ_of_le (length_dropWhile_le isDigit (d :: after))
      · cases h
  · cases h
    exact Nat.le_refl _

theorem length_readExponentDigits {atEnd : Cause} {negative : Bool} {text rest : List Char}
    {digits : Option (Bool × List Char)}
    (h : readExponentDigits atEnd negative text = .ok (digits, rest)) :
    rest.length ≤ text.length := by
  rw [readExponentDigits.eq_def] at h
  split at h
  · cases h
  · rename_i d after
    split at h
    · cases h
      exact Nat.le_succ_of_le (length_dropWhile_le isDigit after)
    · cases h

theorem length_readExponent {atEnd : Cause} {text rest : List Char}
    {digits : Option (Bool × List Char)} (h : readExponent atEnd text = .ok (digits, rest)) :
    rest.length ≤ text.length := by
  rw [readExponent.eq_def] at h
  split at h
  · cases h
    exact Nat.le_refl _
  · split at h
    · split at h
      · exact Nat.le_succ_of_le (Nat.le_succ_of_le (length_readExponentDigits h))
      · exact Nat.le_succ_of_le (Nat.le_succ_of_le (length_readExponentDigits h))
      · exact Nat.le_succ_of_le (length_readExponentDigits h)
    · cases h
      exact Nat.le_refl _

theorem length_readNumeral {atEnd : Cause} {negative : Bool} {text rest : List Char}
    {numeral : Numeral} (h : readNumeral atEnd negative text = .ok (numeral, rest)) :
    rest.length < text.length := by
  obtain ⟨⟨whole, first⟩, hwhole, h⟩ := bind_eq_ok.1 h
  obtain ⟨⟨fraction, second⟩, hfraction, h⟩ := bind_eq_ok.1 h
  obtain ⟨⟨exponent, third⟩, hexponent, h⟩ := map_eq_ok.1 h
  cases h
  have := length_readWhole hwhole
  have := length_readFraction hfraction
  have := length_readExponent hexponent
  omega

/-! ## Values -/

/-- The value of a decimal digit. -/
def digitValue (c : Char) : Nat := c.toNat - 48

/-- Adds digits at the end of `n` as long as it stays within `limit`, and gives the digits that are
left. -/
def appendDigits (limit : Nat) (n : Nat) : List Char → Nat × List Char
  | [] => (n, [])
  | d :: digits =>
    let next := n * 10 + digitValue d
    if next ≤ limit then appendDigits limit next digits else (n, d :: digits)

/-- The greatest unsigned machine word. -/
def maxUnsigned : Nat := Nat.pow 2 64 - 1

/-- The greatest signed machine word. -/
def maxSigned : Nat := Nat.pow 2 63 - 1

/-- The greatest exponent that `Numeral.value` works with. -/
def maxExponent : Nat := Nat.pow 2 31 - 1

/-- The power `10 ^ n` as a floating point number. -/
def tenToThe (n : Nat) : Float := Float.ofScientific 1 false n

/-- Divides `f` by `10 ^ n`, in steps of the greatest power there is. -/
def divideByTens (f : Float) (n : Nat) : Float :=
  if n ≤ 308 then f / tenToThe n
  else if f == 0 then f
  else divideByTens (f / tenToThe 308) (n - 308)
termination_by n

/-- Multiplies `f` by `10 ^ n`. There is no product if it is not finite. -/
def multiplyByTens? (f : Float) (n : Nat) : Option Float :=
  if n ≤ 308 then
    let product := f * tenToThe n
    if product.isInf then none else some product
  else if f == 0 then some f
  else none

/-- The floating point number `significand · 10 ^ exponent`, each factor rounded before the product
is. -/
def scale? (significand : Nat) (exponent : Int) : Option Float :=
  let f := significand.toUInt64.toFloat
  if 0 ≤ exponent then multiplyByTens? f exponent.toNat
  else some (divideByTens f exponent.natAbs)

/-- The floating point number `f` with its sign set apart as `negative`. -/
def Found.ofFloat (negative : Bool) (f : Float) : Found :=
  .float { Decimal.Binary.ofBits f.toBits with negative := negative }

/-- What a numeral without fraction and exponent is found to be, where its digits `n` fit a machine
word. No integer is the negative zero, and a negative number beyond the signed words is a floating
point number. -/
def Found.ofInteger (negative : Bool) (n : Nat) : Found :=
  if negative then
    if n = 0 ∨ maxSigned + 1 < n then .ofFloat true n.toUInt64.toFloat
    else .integer (-n)
  else .integer n

/-- The value of `numeral`. The digits of the whole part and the fraction together are a significand
that stays within a machine word; digits of the whole part beyond it only count, those of the
fraction are ignored. The text `rest` behind the numeral is there for the place of a fault. -/
def Numeral.value (numeral : Numeral) (rest : List Char) : Except Fault Found :=
  -- Digits of the whole part that do not fit any more raise the scale of those that do.
  let (whole, uncounted) := appendDigits maxUnsigned 0 numeral.whole
  let fraction := numeral.fraction.getD []
  let (significand, ignored) := appendDigits maxUnsigned whole fraction
  let scale : Int := uncounted.length - (fraction.length - ignored.length : Nat)
  let finish (exponent : Int) : Except Fault Found :=
    match scale? significand exponent with
    | some f => .ok (.ofFloat numeral.negative f)
    | none => .error (.here .numberOutOfRange rest)
  match numeral.exponent with
  | some (negative, digits) =>
    match appendDigits maxExponent 0 digits with
    | (exponent, []) => finish (if negative then scale - exponent else scale + exponent)
    -- An exponent beyond all bounds is no fault of a zero, nor of a number that it makes vanish.
    | (_, _ :: unread) =>
      if significand ≠ 0 ∧ negative = false then
        .error (.here .numberOutOfRange (unread ++ rest))
      else .ok (.ofFloat numeral.negative 0)
  | none =>
    if numeral.fraction = none ∧ uncounted = [] then .ok (.ofInteger numeral.negative whole)
    else finish scale

/-- Reads a number behind its sign, which `negative` tells, and gives its value. -/
def readNumber (negative : Bool) (text : List Char) : Reading Found :=
  (readNumeral .endInValue negative text).bind fun (numeral, rest) =>
    (numeral.value rest).map (·, rest)

end Printout.Json
