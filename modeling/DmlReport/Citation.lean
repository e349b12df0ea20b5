import DmlReport.Location

/-!
# Citations

How the exported document refers to a source location: the file and line, if
they are known, and a text for people, with a placeholder when nothing is known.
-/

namespace DmlReport

open Json (Value Decoder Record Field)

/-- A reference to a source location in the exported document. -/
structure Citation where
  file : Option String
  line : Option UInt32
  text : String
deriving DecidableEq, Repr

namespace Citation

/-- The citation of a diagnostic without a location. -/
def unknown : Citation := ⟨none, none, "<unknown location>"⟩

/-- The citation of a location.  No location and one with nothing known about it
have the same. -/
def ofLocation? : Option Location → Citation
  | none => unknown
  | some l => if l.isUnknown then unknown else ⟨l.file, l.line, l.describe⟩

def toValue (c : Citation) : Value :=
  .object [
    ("file", .ofOption .string c.file),
    ("line", .ofOption (fun n => .nat n.toNat) c.line),
    ("location_string", .string c.text)]

def record : Record where
  title := "LocationEntry"
  fields := [
    .of "file" false (Json.optional Json.text),
    .of "line" false (Json.optional Json.uint32),
    .of "location_string" false Json.text]

/-- Decodes a citation.  A file or a line may be left out of an object. -/
def decode : Decoder Citation := fun depth n => do
  let fields ← record.fieldsOf depth n
  return {
    file := ← fields.getD "file" (Json.optional Json.text) none
    line := ← fields.getD "line" (Json.optional Json.uint32) none
    text := ← fields.get "location_string" Json.text }

end Citation

end DmlReport
