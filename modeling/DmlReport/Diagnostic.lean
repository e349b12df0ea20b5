import DmlReport.Event
import DmlReport.Location

/-!
# Diagnostics

A diagnostic as the compiler raised it.  Everything but its kind may be missing,
and parts of it may be unusable: a line or column 0, or a context that is no
object.  `faults` lists what cannot be used, in the order in which the parts are
looked at; `journal` adds that the code is missing.
-/

namespace DmlReport

open Json (Value Members Decoder Record Field)

/-- A location that helps to explain a diagnostic, and why it does. -/
structure Related where
  location : Option Location
  message : String
deriving DecidableEq, Repr

namespace Related

/-- Why an ordinary related location is given. -/
def plainMessage : String := "related location"

/-- Why a candidate for a default method is given. -/
def candidateMessage : String := "default method candidate"

/-- A related location, such as a conflicting declaration. -/
def plain (location : Location) : Related := ⟨some location, plainMessage⟩

/-- A candidate for the default implementation of a method. -/
def candidate (location : Location) : Related := ⟨some location, candidateMessage⟩

def toValue (r : Related) : Value :=
  .object [
    ("location", .ofOption Location.toValue r.location),
    ("message", .string r.message)]

def record : Record where
  title := "RelatedSite"
  fields := [
    .of "location" true (Json.optional Location.decode),
    .of "message" true Json.text]

def decode : Decoder Related := fun depth n => do
  let fields ← record.fieldsOf depth n
  return {
    location := ← fields.getD "location" (Json.optional Location.decode) none
    message := ← fields.getD "message" Json.text plainMessage }

end Related

/-- A diagnostic as the compiler raised it. -/
structure Diagnostic where
  kind : Kind
  code : Option String
  message : Option String
  location : Option Location
  /-- Further locations, in the order in which the compiler gave them. -/
  related : List Related
  /-- Data of the rule that raised the diagnostic, normally an object. -/
  context : Option Value
deriving Repr

namespace Diagnostic

def raise (kind : Kind) (code message : String) : Diagnostic :=
  ⟨kind, some code, some message, none, [], none⟩

def withLocation (d : Diagnostic) (location : Location) : Diagnostic :=
  { d with location := some location }

def withRelated (d : Diagnostic) (r : Related) : Diagnostic :=
  { d with related := d.related ++ [r] }

def withContext (d : Diagnostic) (context : Value) : Diagnostic :=
  { d with context := some context }

def toValue (d : Diagnostic) : Value :=
  .object [
    ("kind", .string d.kind.name),
    ("code", .ofOption .string d.code),
    ("message", .ofOption .string d.message),
    ("location", .ofOption Location.toValue d.location),
    ("related", .array (d.related.map Related.toValue)),
    ("context", d.context.getD .null)]

def record : Record where
  title := "RawDiagnostic"
  fields := [
    .of "kind" false Kind.decode,
    .of "code" true (Json.optional Json.text),
    .of "message" true (Json.optional Json.text),
    .of "location" true (Json.optional Location.decode),
    .of "related" true (Json.list Related.decode),
    .of "context" true (Json.optional Value.decode)]

def decode : Decoder Diagnostic := fun depth n => do
  let fields ← record.fieldsOf depth n
  return {
    kind := ← fields.get "kind" Kind.decode
    code := ← fields.getD "code" (Json.optional Json.text) none
    message := ← fields.getD "message" (Json.optional Json.text) none
    location := ← fields.getD "location" (Json.optional Location.decode) none
    related := ← fields.getD "related" (Json.list Related.decode) []
    context := ← fields.getD "context" (Json.optional Value.decode) none }

/-- The context, if it is an object. -/
def members (d : Diagnostic) : Option Members :=
  match d.context with
  | some (.object members) => some members
  | _ => none

/-- The fault of a context that is neither an object nor null. -/
def contextFaults (d : Diagnostic) : List FieldFault :=
  match d.context with
  | none | some .null | some (.object _) => []
  | some v => [.notAnObject v]

end Diagnostic

/-- A number that counts from one; 0 is none. -/
def oneIndexed (n : Option UInt32) : Option UInt32 :=
  n.filter (· != 0)

/-- The fault of a number that should count from one and is 0. -/
def zeroFaults (field : String) (n : Option UInt32) : List FieldFault :=
  if n = some 0 then [.zeroNumber field] else []

namespace Location

/-- The location without a line or column 0. -/
def normalized (l : Location) : Location :=
  { l with line := oneIndexed l.line, column := oneIndexed l.column }

/-- The faults of the line and the column. -/
def faults (l : Location) : List FieldFault :=
  zeroFaults "location.line" l.line ++ zeroFaults "location.column" l.column

end Location

namespace Diagnostic

/-- The parts that cannot be used: of the location, the context, and each
related location. -/
def faults (d : Diagnostic) : List FieldFault :=
  (d.location.map Location.faults).getD [] ++ d.contextFaults ++
    d.related.flatMap fun r => (r.location.map Location.faults).getD []

/-- The events of looking at a diagnostic. -/
def journal (d : Diagnostic) : List Event :=
  (if d.code.isNone then [.uncoded d.kind] else []) ++ d.faults.map .dropped

end Diagnostic

end DmlReport
