import DmlReport.Number.Binary64
import DmlReport.Toml.Text

/-!
# Numbers and dates in TOML documents

A number may have underscores between its digits and no leading zero.  Integers
are those of 64 bits with a sign.  A number with a fraction or an exponent must
not exceed the finite binary numbers.  Dates and times are checked against the
calendar and the clock.
-/

namespace DmlReport.Toml

/-- Further digits, each perhaps after an underscore; `digits` holds those read,
latest first. -/
def moreDigits (isDigit : Char → Bool) (digits : List Char) :
    List Char → Option (List Char × List Char)
  | [] => some (digits.reverse, [])
  | ['_'] => none
  | '_' :: d :: rest => if isDigit d then moreDigits isDigit (d :: digits) rest else none
  | c :: rest =>
    if isDigit c then moreDigits isDigit (c :: digits) rest else some (digits.reverse, c :: rest)

/-- At least one digit. -/
def digits? (isDigit : Char → Bool) : List Char → Option (List Char × List Char)
  | c :: rest => if isDigit c then moreDigits isDigit [c] rest else none
  | [] => none

/-- A sign, if there is one; tells whether it is a minus. -/
def sign : List Char → Bool × List Char
  | '-' :: rest => (true, rest)
  | '+' :: rest => (false, rest)
  | cs => (false, cs)

/-- Digits without a leading zero, or a zero. -/
def wholePart? : List Char → Option (List Char × List Char)
  | '0' :: rest => some (['0'], rest)
  | cs => digits? Char.isDigit cs

/-- The exponent of a number after its mark. -/
def exponent? (cs : List Char) : Option (Bool × Nat × List Char) := do
  let (down, cs) := sign cs
  let (digits, rest) ← digits? Char.isDigit cs
  return (down, Nat.ofDigitChars 10 digits 0, rest)

/-- Whether `significand * 10 ^ place` exceeds the finite binary numbers when
rounded to the nearest. -/
def isTooLarge (significand : Nat) (place : Int) : Bool :=
  if significand = 0 then false
  else
    let size := (Nat.toDigits 10 significand).length + place
    if size ≤ 308 then false
    else if 310 ≤ size then true
    else
      (Binary64.nearest (significand * Nat.pow 10 place.toNat) (Nat.pow 10 (-place).toNat)).isNone

/-- A number with a fraction or an exponent.  Only a positive one is too large. -/
def float? (cs : List Char) : Option (List Char) := do
  let (negative, unsigned) := sign cs
  let (whole, rest) ← wholePart? unsigned
  let (fraction, rest) ← match rest with
    | '.' :: rest => digits? Char.isDigit rest
    | 'e' :: _ | 'E' :: _ => some ([], rest)
    | _ => none
  let (down, e, rest) ← match rest with
    | 'e' :: rest | 'E' :: rest => exponent? rest
    | _ => some (false, 0, rest)
  let place : Int := (if down then -(e : Int) else e) - fraction.length
  if !negative && isTooLarge (Nat.ofDigitChars 10 (whole ++ fraction) 0) place then none
  else some rest

/-- Infinity or no number at all, perhaps with a sign. -/
def specialFloat? (cs : List Char) : Option (List Char) :=
  match (sign cs).2 with
  | 'i' :: 'n' :: 'f' :: rest => some rest
  | 'n' :: 'a' :: 'n' :: rest => some rest
  | _ => none

/-- The greatest integer, that of 64 bits with a sign. -/
def maxInteger : Int := 9223372036854775807

/-- The least integer, that of 64 bits with a sign. -/
def minInteger : Int := -9223372036854775808

/-- An integer in a base other than ten, after the letter of the base. -/
def integerInBase? (base : Nat) (cs : List Char) : Option (Int × List Char) := do
  let (digits, rest) ← digits? (fun c => (hexValue? c).any (· < base)) cs
  let n := digits.foldl (fun n c => base * n + (hexValue? c).getD 0) 0
  if (n : Int) ≤ maxInteger then some (n, rest) else none

/-- An integer. -/
def integer? : List Char → Option (Int × List Char)
  | '0' :: 'x' :: rest => integerInBase? 16 rest
  | '0' :: 'o' :: rest => integerInBase? 8 rest
  | '0' :: 'b' :: rest => integerInBase? 2 rest
  | cs => do
    let (negative, unsigned) := sign cs
    let (digits, rest) ← wholePart? unsigned
    let n : Int := Nat.ofDigitChars 10 digits 0
    let n := if negative then -n else n
    if minInteger ≤ n ∧ n ≤ maxInteger then some (n, rest) else none

/-- A number of a given count of digits. -/
def fixedDigits? (count : Nat) (cs : List Char) : Option (Nat × List Char) :=
  let digits := cs.take count
  if digits.length = count ∧ digits.all Char.isDigit then
    some (Nat.ofDigitChars 10 digits 0, cs.drop count)
  else none

/-- A number of two digits in a range. -/
def twoDigits? (least greatest : Nat) (cs : List Char) : Option (Nat × List Char) := do
  let (n, rest) ← fixedDigits? 2 cs
  if least ≤ n ∧ n ≤ greatest then some (n, rest) else none

/-- What follows a character. -/
def after? (c : Char) : List Char → Option (List Char)
  | d :: rest => if c = d then some rest else none
  | [] => none

/-- The number of days in a month. -/
def daysIn (year month : Nat) : Nat :=
  if month = 2 then
    if year % 4 = 0 ∧ (year % 100 ≠ 0 ∨ year % 400 = 0) then 29 else 28
  else if month = 4 ∨ month = 6 ∨ month = 9 ∨ month = 11 then 30
  else 31

/-- What follows a date. -/
def date? (cs : List Char) : Option (List Char) := do
  let (year, cs) ← fixedDigits? 4 cs
  let cs ← after? '-' cs
  let (month, cs) ← twoDigits? 1 12 cs
  let cs ← after? '-' cs
  let (_, cs) ← twoDigits? 1 (daysIn year month) cs
  return cs

/-- What follows the hours and minutes of a time. -/
def hourMinute? (cs : List Char) : Option (List Char) := do
  let (_, cs) ← twoDigits? 0 23 cs
  let cs ← after? ':' cs
  let (_, cs) ← twoDigits? 0 59 cs
  return cs

/-- What follows a time.  The second 60 is a leap second. -/
def time? (cs : List Char) : Option (List Char) := do
  let cs ← hourMinute? cs
  let cs ← after? ':' cs
  let (_, cs) ← twoDigits? 0 60 cs
  match cs with
  | '.' :: rest =>
    match rest.takeWhile Char.isDigit with
    | [] => none
    | _ => return rest.dropWhile Char.isDigit
  | cs => return cs

/-- What follows the offset from universal time, if there is one. -/
def skipOffset? : List Char → Option (List Char)
  | 'Z' :: rest | 'z' :: rest => some rest
  | '+' :: rest | '-' :: rest => hourMinute? rest
  | cs => some cs

/-- What follows a time and an offset. -/
def timeOffset? (cs : List Char) : Option (List Char) :=
  (time? cs).bind skipOffset?

/-- What follows a date, a time, or both. -/
def dateTime? (cs : List Char) : Option (List Char) :=
  match date? cs with
  | none => time? cs
  | some rest =>
    match rest with
    | c :: more =>
      if c = 'T' ∨ c = 't' ∨ c = ' ' then some ((timeOffset? more).getD rest) else some rest
    | [] => some []

end DmlReport.Toml
