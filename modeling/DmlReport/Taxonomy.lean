import DmlReport.Category
import DmlReport.Kind

/-!
# The taxonomy of diagnostic codes

A code such as `EUNDEF` tells by its letters what a diagnostic is about.  The
taxonomy is a table of rows, each with a category and the patterns of the codes
that belong to it.  A code belongs to the first row that accepts it.  A code
without a row, and a missing code, is `semantic` if it makes the compilation
fail and `other` if it does not.
-/

namespace DmlReport

/-- A pattern of diagnostic codes. -/
inductive CodePattern where
  /-- The code is this text. -/
  | exactly (s : String)
  /-- The code starts with this text. -/
  | startsWith (s : String)
  /-- This text occurs in the code. -/
  | contains (s : String)
deriving DecidableEq, Repr

namespace CodePattern

/-- Whether a text occurs in another one. -/
def occursIn (p : List Char) : List Char → Bool
  | [] => p.isEmpty
  | c :: rest => p.isPrefixOf (c :: rest) || occursIn p rest

def accepts (code : String) : CodePattern → Bool
  | .exactly s => code == s
  | .startsWith s => s.toList.isPrefixOf code.toList
  | .contains s => occursIn s.toList code.toList

end CodePattern

namespace Taxonomy

/-- A category and the patterns of the codes that belong to it. -/
structure Row where
  category : Category
  patterns : List CodePattern
deriving Repr

def Row.accepts (r : Row) (code : String) : Bool :=
  r.patterns.any (·.accepts code)

/-- The rows, in order of precedence. -/
def rows : List Row := [
  ⟨.grammar, [.startsWith "ESYNTAX", .contains "PARSE"]⟩,
  ⟨.typeMismatch,
    [.contains "TYPE", .contains "ECAST", .contains "EBITSLICE", .contains "EINT"]⟩,
  ⟨.templateResolution,
    [.contains "TEMPLATE", .contains "EAMBINH", .contains "ECYCLICTEMPLATE",
      .contains "EABSTEMPLATE", .contains "ETMETH"]⟩,
  ⟨.undefinedSymbol,
    [.contains "EUNDEF", .contains "EREF", .contains "ENVAR", .contains "ENOSYM"]⟩,
  ⟨.duplicateDefinition, [.contains "EDUP", .contains "EREDEF", .contains "EAMBIG"]⟩,
  ⟨.importError, [.contains "IMPORT", .contains "ECYCLICIMP"]⟩,
  ⟨.compatibility, [.contains "ECOMPAT", .contains "EDML12"]⟩,
  ⟨.deprecation, [.contains "WDEPRECATED", .contains "WEXPERIMENTAL"]⟩]

/-- The category of a diagnostic that no row accepts. -/
def fallback : Kind → Category
  | .error => .semantic
  | _ => .other

/-- The category of a diagnostic.  A missing code is like an empty one. -/
def classify (code : Option String) (kind : Kind) : Category :=
  match rows.find? (·.accepts (code.getD "")) with
  | some row => row.category
  | none => fallback kind

end Taxonomy

end DmlReport
