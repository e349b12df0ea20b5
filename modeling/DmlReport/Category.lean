import DmlReport.Json.Decode

/-!
# Categories

A coarse grouping of diagnostics that hints at how to fix them.  The set is
closed, and its order is the order of the counts in a summary.
-/

namespace DmlReport

open Json (Value Decoder)

/-- A group of diagnostics that are fixed in a similar way. -/
inductive Category where
  /-- Malformed source text. -/
  | grammar
  /-- Types that do not fit. -/
  | typeMismatch
  /-- Templates that cannot be instantiated, or overrides that cannot be ordered. -/
  | templateResolution
  /-- Names that are not in scope. -/
  | undefinedSymbol
  /-- Conflicting declarations of one name. -/
  | duplicateDefinition
  /-- Files that cannot be found or ordered. -/
  | importError
  | semantic
  /-- Constructs that differ between dialects. -/
  | compatibility
  /-- Deprecated or experimental features. -/
  | deprecation
  | other
deriving DecidableEq, Repr

namespace Category

def name : Category → String
  | .grammar => "syntax"
  | .typeMismatch => "type_mismatch"
  | .templateResolution => "template_resolution"
  | .undefinedSymbol => "undefined_symbol"
  | .duplicateDefinition => "duplicate_definition"
  | .importError => "import_error"
  | .semantic => "semantic"
  | .compatibility => "compatibility"
  | .deprecation => "deprecation"
  | .other => "other"

def all : List Category :=
  [.grammar, .typeMismatch, .templateResolution, .undefinedSymbol, .duplicateDefinition,
    .importError, .semantic, .compatibility, .deprecation, .other]

/-- The place of a category in the order. -/
def index (c : Category) : Nat :=
  all.idxOf c

def names : List (String × Category) :=
  all.map fun c => (c.name, c)

theorem lookup_name (c : Category) : names.lookup c.name = some c := by
  cases c <;> rfl

def sort (categories : List Category) : List Category :=
  categories.mergeSort fun a b => a.index ≤ b.index

def toValue (c : Category) : Value := .string c.name

def decode : Decoder Category := Json.oneOf names

end Category

end DmlReport
