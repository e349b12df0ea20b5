import DmlReport.Number.Binary64

/-!
# Shortest decimal digits

The decimal text of a binary number has as few digits as tell it apart from
its neighbours, and among those the digits closest to its exact value.  The
reals that round to a number form an interval around it; for one digit, two
digits and so on the value's two neighbours on that decimal grid are tested
against the interval, and the first grid with a hit gives the digits.
-/

namespace DmlReport

/-- Digits and the place of the decimal point: `0.d₁d₂… * 10 ^ point`. -/
structure DecimalDigits where
  digits : List Char
  point : Int
deriving DecidableEq, Repr

namespace Binary64

/-- The first `t ≥ k` with `den ≤ num * 10 ^ t`, looking at most `fuel` places
ahead. -/
def firstReaching (num den : Nat) : Nat → Nat → Nat
  | 0, k => k
  | fuel + 1, k => if den ≤ num * Nat.pow 10 k then k else firstReaching num den fuel (k + 1)

/-- The place `k` with `10 ^ (k - 1) ≤ num / den < 10 ^ k`.  No positive number
of the format needs more than 324 places after the point. -/
def pointOf (num den : Nat) : Int :=
  if den ≤ num then (Nat.toDigits 10 (num / den)).length
  else 1 - (firstReaching num den 324 1 : Int)

/-- Whether `count * 10 ^ place` lies in the interval of reals that round to
the magnitude of `x`.  The ends belong to it if the significand is even; below
a power of two the neighbour is half as far away. -/
def roundsFrom (x : Binary64) (count : Nat) (place : Int) : Bool :=
  let value := 4 * count * Nat.pow 10 place.toNat * x.denominator
  let unit := Nat.pow 10 (-place).toNat <<< x.exponent.toNat
  let below := if x.significand = leastFull ∧ minExponent < x.exponent then 1 else 2
  let least := (4 * x.significand - below) * unit
  let greatest := (4 * x.significand + 2) * unit
  if x.significand % 2 = 0 then least ≤ value && value ≤ greatest
  else least < value && value < greatest

/-- The multiple of `10 ^ place` that is next to the magnitude of `x` and rounds
to it: the nearer one if both neighbours do, the even one if they are equally
near, none if neither does. -/
def onGrid (x : Binary64) (place : Int) : Option Nat :=
  let num := x.numerator * Nat.pow 10 (-place).toNat
  let den := x.denominator * Nat.pow 10 place.toNat
  let lower := num / den
  match x.roundsFrom lower place, x.roundsFrom (lower + 1) place with
  | true, true => some (divideToEven num den)
  | true, false => some lower
  | false, true => some (lower + 1)
  | false, false => none

/-- The digits on the first grid with a hit, trying `fuel` grids from the one
with `used` digits; the point is after `point` places. -/
def firstHit (x : Binary64) (point : Int) : Nat → Nat → DecimalDigits
  | 0, _ => ⟨['0'], 1⟩
  | fuel + 1, used =>
    let place := point - used
    match x.onGrid place with
    | some count =>
      let digits := Nat.toDigits 10 count
      ⟨(digits.reverse.dropWhile (· == '0')).reverse, digits.length + place⟩
    | none => firstHit x point fuel (used + 1)

/-- The shortest digits that read back as the magnitude of `x`.  Seventeen
digits always do. -/
def shortest (x : Binary64) : DecimalDigits :=
  if x.significand = 0 then ⟨['0'], 1⟩
  else firstHit x (pointOf x.numerator x.denominator) 17 1

end Binary64

end DmlReport
