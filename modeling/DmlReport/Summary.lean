import DmlReport.Collection
import DmlReport.Json.Writer

/-!
# Summaries

What a document says about a compilation as a whole: counts by kind and by
category, the context, and whether the compilation was free of errors.
-/

namespace DmlReport

open Json (Value WriteFault)

structure Summary where
  inputFile : Option String
  dialect : Option Dialect
  total : Nat
  errors : Nat
  warnings : Nat
  /-- The categories that occur, in their order, with the number of findings. -/
  categories : List (Category × Nat)
deriving DecidableEq, Repr

namespace Summary

def success (s : Summary) : Bool :=
  s.errors == 0

/-- Changes the count of a category in counts that are in the order of the
categories.  A category that has none yet gets its place, with zero to change. -/
def modifyCount (change : Nat → Nat) (category : Category) :
    List (Category × Nat) → List (Category × Nat)
  | [] => [(category, change 0)]
  | (c, n) :: rest =>
    if category.index < c.index then (category, change 0) :: (c, n) :: rest
    else if category = c then (c, change n) :: rest
    else (c, n) :: modifyCount change category rest

/-- The number of findings in each category that has any, counted one by one. -/
def countCategories (findings : List Finding) : List (Category × Nat) :=
  findings.foldl (fun counts f => modifyCount (· + 1) f.category counts) []

/-- The summary of a collection.  A dialect that was not reported is that of the
first finding whose location has one. -/
def ofCollection (c : Collection) : Summary where
  inputFile := c.context.inputFile
  dialect := c.context.dialect.or (c.findings.findSome? (·.dialect))
  total := c.size
  errors := c.findings.countP (·.kind.countsAsError)
  warnings := c.findings.countP (·.kind == .warning)
  categories := countCategories c.findings

/-- A summary as a JSON object, given what stands for its counts. -/
def withCounts (s : Summary) (counts : Value) : Value :=
  .object [
    ("input_file", .ofOption .string s.inputFile),
    ("dml_version", .ofOption (fun v => .string v.display) s.dialect),
    ("total_diagnostics", .nat s.total),
    ("total_errors", .nat s.errors),
    ("total_warnings", .nat s.warnings),
    ("error_categories", counts),
    ("success", .bool s.success)]

def toValue (s : Summary) : Value :=
  s.withCounts (.object (s.categories.map fun (c, n) => (c.name, .nat n)))

/-- Encodes a summary.  Its counts are a map with categories as keys. -/
def encode (s : Summary) : Except WriteFault Value := do
  return s.withCounts (← Value.ofMap (s.categories.map fun (c, n) => (c.toValue, .nat n)))

end Summary

end DmlReport
