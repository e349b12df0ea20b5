/-!
# Binary floating-point numbers

A finite number of the 64-bit binary format, held as the exact value
`± significand * 2 ^ exponent`.  Rounding is done on exact ratios of natural
numbers: `nearest` gives the number of the format that is closest to a ratio,
a tie going to the even significand.
-/

namespace DmlReport

/-- A finite number `± significand * 2 ^ exponent` of the 64-bit binary format.
Its significand has at most 53 bits and its exponent is at least `-1074`. -/
structure Binary64 where
  negative : Bool
  significand : Nat
  exponent : Int
deriving DecidableEq, Repr

namespace Binary64

/-- The least exponent of the format, that of the subnormal numbers. -/
def minExponent : Int := -1074

/-- The greatest exponent of the format. -/
def maxExponent : Int := 971

/-- The least significand that uses all 53 bits, `2 ^ 52`. -/
def leastFull : Nat := 1 <<< 52

/-- The quotient rounded to the nearest integer, a tie going to the even one. -/
def divideToEven (num den : Nat) : Nat :=
  let q := num / den
  let twice := 2 * (num % den)
  if twice < den then q
  else if den < twice then q + 1
  else q + q % 2

/-- The exponent at which the quotient of a positive ratio has 53 bits, or the
least exponent if that is greater. -/
def exponentFor (num den : Nat) : Int :=
  let guess : Int := (num.log2 : Int) - den.log2 - 52
  let short :=
    if 0 ≤ guess then num < (den <<< guess.toNat) * leastFull
    else num <<< (-guess).toNat < den * leastFull
  max minExponent (if short then guess - 1 else guess)

/-- The nonnegative number closest to `num / den`; none if it is too large for
the format. -/
def nearest (num den : Nat) : Option Binary64 :=
  if num = 0 then some ⟨false, 0, minExponent⟩
  else
    let e := exponentFor num den
    let q :=
      if 0 ≤ e then divideToEven num (den <<< e.toNat)
      else divideToEven (num <<< (-e).toNat) den
    let (q, e) := if q = 2 * leastFull then (leastFull, e + 1) else (q, e)
    if maxExponent < e then none else some ⟨false, q, e⟩

/-- The numerator of the magnitude as an exact ratio. -/
def numerator (x : Binary64) : Nat :=
  x.significand <<< x.exponent.toNat

/-- The denominator of the magnitude as an exact ratio. -/
def denominator (x : Binary64) : Nat :=
  1 <<< (-x.exponent).toNat

/-- The number of the format closest to `10 ^ k`. -/
def powerOfTen (k : Nat) : Binary64 :=
  (nearest (Nat.pow 10 k) 1).getD ⟨false, 0, minExponent⟩

/-- The rounded product of two magnitudes. -/
def times (x y : Binary64) : Option Binary64 :=
  nearest (x.numerator * y.numerator) (x.denominator * y.denominator)

/-- The rounded quotient of two magnitudes. -/
def dividedBy (x y : Binary64) : Option Binary64 :=
  nearest (x.numerator * y.denominator) (x.denominator * y.numerator)

/-- The largest power of ten that scaling uses in one step. -/
def greatestPower : Nat := 308

/-- Divides a magnitude a number of times by the largest power that one step
uses, rounding after each division and stopping early at zero. -/
def divideRepeatedly (x : Binary64) : Nat → Option Binary64
  | 0 => some x
  | steps + 1 =>
    if x.significand = 0 then some x
    else
      match x.dividedBy (powerOfTen greatestPower) with
      | some y => y.divideRepeatedly steps
      | none => none

/-- Divides a magnitude by `10 ^ k`, in steps of at most `greatestPower`. -/
def scaleDown (x : Binary64) (k : Nat) : Option Binary64 :=
  let steps := (k - 1) / greatestPower
  match x.divideRepeatedly steps with
  | some y => y.dividedBy (powerOfTen (k - steps * greatestPower))
  | none => none

/-- Multiplies a magnitude by `10 ^ k`; none if the product is too large. -/
def scaleUp (x : Binary64) (k : Nat) : Option Binary64 :=
  if k ≤ greatestPower then x.times (powerOfTen k)
  else if x.significand = 0 then some x
  else none

/-- The number a significand and a decimal exponent stand for.  The significand
is rounded first and then scaled, so the result can differ from the closest
number in its last bit. -/
def ofDecimal (negative : Bool) (significand : Nat) (exponent : Int) : Option Binary64 := do
  let x ← nearest significand 1
  let y ← if 0 ≤ exponent then x.scaleUp exponent.toNat else x.scaleDown (-exponent).toNat
  return { y with negative }

end Binary64

end DmlReport
