import DmlReport.Json.Value
import DmlReport.Text.Quoted

/-!
# Faults of decoding

Why a JSON text does not give the value that was wanted: either it is no JSON,
or a part of it does not fit.  A fault of the second sort has a message.
-/

namespace DmlReport.Json

/-- What stands where something else was wanted. -/
inductive Found where
  | null
  | bool (b : Bool)
  | number (n : Number)
  | string (s : String)
  | sequence
  | map
deriving DecidableEq, Repr

/-- What is found, in the words of a message. -/
def Found.describe : Found → String
  | .null => "null"
  | .bool b => s!"boolean `{b}`"
  | .number (.integer n) => s!"integer `{n}`"
  | .number (.binary x) => s!"floating point `{String.ofList (Number.binaryChars x)}`"
  | .string s => s!"string {Text.quoted s}"
  | .sequence => "sequence"
  | .map => "map"

/-- Why a text cannot be decoded. -/
inductive Fault where
  /-- The text is no JSON, ends too early or is nested too deeply. -/
  | malformed
  /-- Something of another type stands where `wanted` belongs. -/
  | mismatch (found : Found) (wanted : String)
  /-- An integer does not fit the type `wanted`. -/
  | outOfRange (found : Int) (wanted : String)
  /-- A name is none of those allowed. -/
  | unknownName (name : String) (allowed : List String)
  /-- A field of a record is given twice. -/
  | duplicateField (name : String)
  /-- A field that a record must have is not given. -/
  | missingField (name : String)
  /-- A record in list form ends before the field of the given number. -/
  | tooShort (count : Nat) (title : String) (size : Nat)
deriving DecidableEq, Repr

namespace Fault

/-- A name as messages show it. -/
def ticked (name : String) : String := s!"`{name}`"

/-- The message of a fault; a malformed text has none of its own. -/
def message? : Fault → Option String
  | .malformed => none
  | .mismatch found wanted => some s!"invalid type: {found.describe}, expected {wanted}"
  | .outOfRange found wanted => some s!"invalid value: integer `{found}`, expected {wanted}"
  | .unknownName name allowed =>
    let names := ", ".intercalate (allowed.map ticked)
    some s!"unknown variant `{name}`, expected one of {names}"
  | .duplicateField name => some s!"duplicate field `{name}`"
  | .missingField name => some s!"missing field `{name}`"
  | .tooShort count title size =>
    some s!"invalid length {count}, expected struct {title} with {size} elements"

/-- The message of a fault, in general words for a malformed text. -/
def message (f : Fault) : String :=
  f.message?.getD "not a JSON text"

end Fault

end DmlReport.Json
