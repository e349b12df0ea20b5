import DmlReport.Dialect

/-!
# Source locations

Where in DML source code a diagnostic points.  Every part may be missing: some
stages of the compiler know only the file, some nothing at all.  Lines and
columns count from one.  A stage that has rendered the location itself gives
that text, and it is used as it is unless it is blank.
-/

namespace DmlReport

open Json (Value Decoder Record Field)

/-- A location in DML source code, as far as it is known. -/
structure Location where
  file : Option String
  line : Option UInt32
  column : Option UInt32
  /-- The location as the reporting stage rendered it. -/
  display : Option String
  /-- The dialect of the file. -/
  dialect : Option Dialect
deriving DecidableEq, Repr

namespace Location

/-- Nothing is known. -/
def unknown : Location := ⟨none, none, none, none, none⟩

/-- A place in a file. -/
def inFileAt (file : String) (line column : UInt32) : Location :=
  ⟨some file, some line, some column, none, none⟩

/-- A file without a place in it. -/
def inFile (file : String) : Location :=
  { unknown with file := some file }

def withDisplay (l : Location) (display : String) : Location :=
  { l with display := some display }

def withDialect (l : Location) (dialect : Dialect) : Location :=
  { l with dialect := some dialect }

/-- The text rendered beforehand, unless it is blank. -/
def shownAs? (l : Location) : Option String :=
  l.display.filter fun s => !Text.allBlank s

/-- Whether neither a file nor a line nor a usable text is known. -/
def isUnknown (l : Location) : Bool :=
  l.file.isNone && l.line.isNone && l.shownAs?.isNone

/-- The line and column, each after a colon; a column counts only with a line. -/
def position (l : Location) : String :=
  match l.line, l.column with
  | none, _ => ""
  | some line, none => s!":{line.toNat}"
  | some line, some column => s!":{line.toNat}:{column.toNat}"

/-- The location as a text, with a stand-in for an unknown file. -/
def describe (l : Location) : String :=
  match l.shownAs? with
  | some s => s
  | none => l.file.getD "<unknown>" ++ l.position

/-- The location as a text, if anything is known. -/
def render? (l : Location) : Option String :=
  if l.isUnknown then none else some l.describe

def toValue (l : Location) : Value :=
  .object [
    ("file", .ofOption .string l.file),
    ("line", .ofOption (fun n => .nat n.toNat) l.line),
    ("column", .ofOption (fun n => .nat n.toNat) l.column),
    ("display", .ofOption .string l.display),
    ("dialect", .ofOption Dialect.toValue l.dialect)]

def record : Record where
  title := "SourceLocation"
  fields := [
    .of "file" true (Json.optional Json.text),
    .of "line" true (Json.optional Json.uint32),
    .of "column" true (Json.optional Json.uint32),
    .of "display" true (Json.optional Json.text),
    .of "dialect" true (Json.optional Dialect.decode)]

def decode : Decoder Location := fun depth n => do
  let fields ← record.fieldsOf depth n
  return {
    file := ← fields.getD "file" (Json.optional Json.text) none
    line := ← fields.getD "line" (Json.optional Json.uint32) none
    column := ← fields.getD "column" (Json.optional Json.uint32) none
    display := ← fields.getD "display" (Json.optional Json.text) none
    dialect := ← fields.getD "dialect" (Json.optional Dialect.decode) none }

end Location

end DmlReport
