import DmlReport.Number.Shortest

/-!
# Numbers of JSON texts

A literal is kept as it was spelled until its value is asked for: a member that
nobody reads may hold a number too large to represent.  An integer literal that
fits 64 bits, signed or unsigned, is an integer; every other literal, and `-0`,
is a binary floating-point number.
-/

namespace DmlReport.Json

/-- A number literal: its sign, the digits before the point, those after it,
and the sign and digits of the exponent. -/
structure Literal where
  negative : Bool
  whole : List Char
  fraction : Option (List Char)
  exponent : Option (Bool × List Char)
deriving DecidableEq, Repr

/-- A number that a JSON value holds. -/
inductive Number where
  | integer (n : Int)
  | binary (x : Binary64)
deriving DecidableEq, Repr

namespace Literal

/-- The largest significand that is collected exactly: that of 64 bits. -/
def maxSignificand : Nat := 18446744073709551615

/-- The magnitude of the least integer that fits 64 bits with a sign. -/
def maxNegated : Nat := 9223372036854775808

/-- The largest exponent that is collected exactly: that of 31 bits. -/
def maxExponent : Nat := 2147483647

/-- Appends digits to a significand while it stays within the limit; gives the
significand and the digits left over. -/
def collect (significand : Nat) : List Char → Nat × List Char
  | [] => (significand, [])
  | d :: rest =>
    let next := 10 * significand + (d.toNat - '0'.toNat)
    if maxSignificand < next then (significand, d :: rest) else collect next rest

/-- The floating-point number of a literal.  Digits of the whole part that do
not fit the significand count as zeros, such digits of the fraction are ignored,
and an exponent past its limit gives zero or nothing. -/
def binary? (l : Literal) : Option Binary64 :=
  let (significand, dropped) := collect 0 l.whole
  let fraction := l.fraction.getD []
  let (significand, ignored) := collect significand fraction
  let place : Int := dropped.length - (fraction.length - ignored.length : Nat)
  match l.exponent with
  | none => Binary64.ofDecimal l.negative significand place
  | some (down, digits) =>
    let e := Nat.ofDigitChars 10 digits 0
    if maxExponent < e then
      if significand = 0 || down then some ⟨l.negative, 0, Binary64.minExponent⟩ else none
    else Binary64.ofDecimal l.negative significand (if down then place - e else place + e)

/-- The number of a literal; none if it is too large for any. -/
def value? (l : Literal) : Option Number :=
  match l.fraction, l.exponent with
  | none, none =>
    let n := Nat.ofDigitChars 10 l.whole 0
    if l.negative then
      if 0 < n ∧ n ≤ maxNegated then some (.integer (-n)) else .binary <$> l.binary?
    else if n ≤ maxSignificand then some (.integer n) else .binary <$> l.binary?
  | _, _ => .binary <$> l.binary?

end Literal

namespace Number

/-- Decimal exponents for which a number is written in plain notation. -/
def plainExponents : Int × Int := (-5, 15)

/-- The text of digits with a decimal point: plain notation with at least one
place after the point if the decimal exponent is in `plainExponents`, and
otherwise one digit, the rest after a point, and a signed exponent. -/
def layout (d : DecimalDigits) : List Char :=
  let e := d.point - 1
  if plainExponents.1 ≤ e ∧ e ≤ plainExponents.2 then
    if d.point ≤ 0 then
      '0' :: '.' :: (List.replicate (-d.point).toNat '0' ++ d.digits)
    else
      let point := d.point.toNat
      if d.digits.length ≤ point then
        d.digits ++ List.replicate (point - d.digits.length) '0' ++ ['.', '0']
      else d.digits.take point ++ '.' :: d.digits.drop point
  else
    let mantissa := match d.digits with
      | [] => []
      | [c] => [c]
      | c :: rest => c :: '.' :: rest
    mantissa ++ 'e' :: (if e < 0 then '-' else '+') :: Nat.toDigits 10 e.natAbs

def binaryChars (x : Binary64) : List Char :=
  let magnitude := layout x.shortest
  if x.negative then '-' :: magnitude else magnitude

def integerChars (n : Int) : List Char :=
  if n < 0 then '-' :: Nat.toDigits 10 n.natAbs else Nat.toDigits 10 n.natAbs

def chars : Number → List Char
  | .integer n => integerChars n
  | .binary x => binaryChars x

end Number

end DmlReport.Json
