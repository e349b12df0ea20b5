import DmlReport.Json.Decode
import DmlReport.Text.Blank

/-!
# Dialect versions

A version of the DML language, such as `1.2` or `1.4`.  It is written as two
numbers with a point between them.  A reader is more lenient: it skips white
space around the text, and allows a plus sign and leading zeros in each number.
-/

namespace DmlReport

open Json (Value Decoder Record Field)

/-- A version of the DML language. -/
structure Dialect where
  major : UInt16
  minor : UInt16
deriving DecidableEq, Repr

/-- A text that names no dialect version, without the white space around it. -/
structure InvalidDialect where
  input : String
deriving DecidableEq, Repr

def InvalidDialect.message (e : InvalidDialect) : String :=
  s!"invalid dialect version: '{e.input}'"

namespace Dialect

/-- A version as it is written. -/
def display (v : Dialect) : String :=
  s!"{v.major.toNat}.{v.minor.toNat}"

/-- The number that digits after an optional plus sign give, if it is a 16-bit
number. -/
def parseNumber? (cs : List Char) : Option UInt16 :=
  let digits := match cs with
    | '+' :: rest => rest
    | cs => cs
  let n := Nat.ofDigitChars 10 digits 0
  if digits.isEmpty || !digits.all Char.isDigit || UInt16.size ≤ n then none
  else some (UInt16.ofNat n)

/-- The version that two numbers around the first point give. -/
def parseChars? (cs : List Char) : Option Dialect :=
  match cs.dropWhile (· != '.') with
  | [] => none
  | _ :: minor => do
    let major ← parseNumber? (cs.takeWhile (· != '.'))
    let minor ← parseNumber? minor
    return ⟨major, minor⟩

/-- The version that a text names. -/
def parse (s : String) : Except InvalidDialect Dialect :=
  match parseChars? (Text.trimChars s.toList) with
  | some v => .ok v
  | none => .error ⟨Text.trim s⟩

/-- Whether one version is at most another: majors first, then minors. -/
def le (a b : Dialect) : Bool :=
  a.major < b.major || (a.major == b.major && a.minor ≤ b.minor)

def toValue (v : Dialect) : Value :=
  .object [("major", .nat v.major.toNat), ("minor", .nat v.minor.toNat)]

def record : Record where
  title := "DialectVersion"
  fields := [.of "major" false Json.uint16, .of "minor" false Json.uint16]

def decode : Decoder Dialect := fun depth n => do
  let fields ← record.fieldsOf depth n
  return {
    major := ← fields.get "major" Json.uint16
    minor := ← fields.get "minor" Json.uint16 }

end Dialect

end DmlReport
