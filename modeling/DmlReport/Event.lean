import DmlReport.Category
import DmlReport.Json.Writer
import DmlReport.Kind

/-!
# Events

What the library reports on its log channel while it works.  An event is a
value: functions that cause events give them back, in order, and only the
outermost layer prints them.
-/

namespace DmlReport

/-- A part of a diagnostic that cannot be used.  It is reported, and left out of
what is exported. -/
structure FieldFault where
  field : String
  message : String
deriving DecidableEq, Repr

namespace FieldFault

/-- The fault of a line or column that does not count from one. -/
def zeroNumber (field : String) : FieldFault :=
  ⟨field, "expected a 1-indexed number, got 0"⟩

/-- The fault of a context that is no object. -/
def notAnObject (context : Json.Value) : FieldFault :=
  ⟨"context", s!"expected a JSON object, found {context.compact}"⟩

/-- A fault as it is reported. -/
def display (f : FieldFault) : String :=
  s!"capture fault in {f.field}: {f.message}"

end FieldFault

/-- How important an event is. -/
inductive Level where
  | debug
  | info
  | warn
  | error
deriving DecidableEq, Repr

def Level.name : Level → String
  | .debug => "DEBUG"
  | .info => "INFO"
  | .warn => "WARN"
  | .error => "ERROR"

/-- Something that happened. -/
inductive Event where
  | uncoded (kind : Kind)
  /-- A part of a diagnostic was left out. -/
  | dropped (fault : FieldFault)
  /-- A diagnostic was added to a collection, at an index. -/
  | captured (code : Option String) (category : Category) (index : Nat)
  | exported (path : String) (diagnostics : Nat)
  /-- A document could not be written, and nobody waits for the result. -/
  | exportFailed (reason : String)
  | unwound
  /-- A file of diagnostics was replayed to its end. -/
  | replayed (errors : Nat)
deriving DecidableEq, Repr

namespace Event

def level : Event → Level
  | .uncoded _ | .dropped _ | .captured .. | .replayed _ => .debug
  | .exported .. => .info
  | .unwound => .warn
  | .exportFailed _ => .error

def message : Event → String
  | .uncoded _ => "diagnostic raised without a code"
  | .dropped _ => "dropping unusable field"
  | .captured .. => "captured diagnostic"
  | .exported .. => "wrote diagnostics export"
  | .exportFailed _ => "diagnostics export failed during cleanup"
  | .unwound => "compilation unwound; exporting captured diagnostics"
  | .replayed _ => "replay finished"

/-- A piece of data that goes with an event. -/
inductive Datum where
  | text (s : String)
  | count (n : Nat)
deriving DecidableEq, Repr

/-- The data of an event, by name. -/
def data : Event → List (String × Datum)
  | .uncoded kind => [("kind", .text kind.name)]
  | .dropped fault => [("fault", .text fault.display)]
  | .captured code category index =>
    [("code", .text (code.getD "<none>")), ("category", .text category.name),
      ("index", .count index)]
  | .exported path diagnostics =>
    [("path", .text path), ("diagnostics", .count diagnostics)]
  | .exportFailed reason => [("error", .text reason)]
  | .unwound => []
  | .replayed errors => [("errors", .count errors)]

end Event

end DmlReport
