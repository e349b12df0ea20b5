import DmlReport.Taxonomy

/-!
# The handbook

What to advise about a diagnostic, and where in the language's documentation to
read on.  Advice for a code comes from the first code row that accepts it, and
advice for a category is the fallback.  The two kinds of row also name pages of
the documentation, in the same precedence: a code row without a page leaves the
page to the category.  If the context of a diagnostic names a method, the last
piece of advice points to it.

A handbook knows the root of the documentation, without slashes at its end.
-/

namespace DmlReport

open Json (Members)

/-- Advice about a diagnostic: hints without repetition, and a link. -/
structure Advice where
  fixes : List String
  link : Option String
deriving DecidableEq, Repr

/-- A handbook whose documentation has the given root. -/
structure Handbook where
  root : String
deriving DecidableEq, Repr

namespace Handbook

def publishedRoot : String := "https://intel.github.io/device-modeling-language"

/-- A text without the slashes at its end. -/
def withoutSlashes (s : String) : String :=
  String.ofList (s.toList.reverse.dropWhile (· == '/')).reverse

/-- The handbook whose documentation is found under a URL. -/
def under (url : String) : Handbook := ⟨withoutSlashes url⟩

def published : Handbook := under publishedRoot

structure CodeRow where
  patterns : List CodePattern
  hints : List String
  page : Option String
deriving Repr

def CodeRow.accepts (r : CodeRow) (code : String) : Bool :=
  r.patterns.any (·.accepts code)

structure CategoryRow where
  category : Category
  hints : List String
  page : Option String
deriving Repr

/-- The rows for codes, in order of precedence. -/
def codeRows : List CodeRow := [
  { patterns := [.exactly "EAMBINH"]
    hints := [
      "Add an 'is <template>' statement to specify template precedence",
      "Check template inheritance order in the object hierarchy"]
    page := some "language.html#resolution-of-overrides" },
  { patterns := [.contains "EUNDEF", .contains "ENOSYM"]
    hints := [
      "Check if the symbol is defined in imported files",
      "Verify the symbol name spelling",
      "Add necessary import statements if missing"]
    page := none },
  { patterns := [.contains "TYPE", .contains "ECAST"]
    hints := [
      "Check if type conversion is needed",
      "Verify the types of all operands match expected types",
      "Consider explicit type casting if appropriate"]
    page := none },
  { patterns := [.contains "CYCLIC"]
    hints := [
      "Review import chain to break circular dependency",
      "Consider refactoring shared code into a separate file"]
    page := none },
  { patterns := [.contains "EDUP", .contains "EREDEF"]
    hints := [
      "Remove or rename one of the duplicate definitions",
      "Check if definitions are unintentionally duplicated across templates"]
    page := none },
  { patterns := [.contains "SYNTAX"]
    hints := [
      "Check for missing semicolons, braces, or parentheses",
      "Verify DML syntax matches the version specified (1.2 vs 1.4)"]
    page := none }]

/-- The rows for categories.  Two categories have none: nothing general can be
said about them. -/
def categoryRows : List CategoryRow := [
  { category := .grammar
    hints := ["Check for missing semicolons, braces, or parentheses"]
    page := some "language.html#syntax" },
  { category := .typeMismatch
    hints := ["Verify the types of all operands match expected types"]
    page := some "language.html#types" },
  { category := .templateResolution
    hints := [
      "Check template inheritance order in the object hierarchy",
      "Verify that every abstract method or parameter of the template is provided"]
    page := some "language.html#templates" },
  { category := .undefinedSymbol
    hints := [
      "Check if the symbol is defined in imported files",
      "Verify the symbol name spelling"]
    page := some "language.html#scoping-and-name-resolution" },
  { category := .duplicateDefinition
    hints := ["Remove or rename one of the duplicate definitions"]
    page := none },
  { category := .importError
    hints := [
      "Check that the imported file exists on the import path",
      "Verify the import path spelling"]
    page := some "language.html#modules-and-imports" },
  { category := .compatibility
    hints := [
      "Verify DML syntax matches the version specified (1.2 vs 1.4)",
      "Consult the DML 1.2 to 1.4 porting guide"]
    page := some "port-dml.html" },
  { category := .deprecation
    hints := ["Replace the deprecated construct with its documented successor"]
    page := none }]

/-- The row for a code; a missing code has none. -/
def codeRow? (code : Option String) : Option CodeRow :=
  code.bind fun code => codeRows.find? (·.accepts code)

def categoryRow? (category : Category) : Option CategoryRow :=
  categoryRows.find? (·.category == category)

/-- The hints of the tables for a code and a category. -/
def tableHints (code : Option String) (category : Category) : List String :=
  match codeRow? code with
  | some row => row.hints
  | none => ((categoryRow? category).map (·.hints)).getD []

def page? (code : Option String) (category : Category) : Option String :=
  ((codeRow? code).bind (·.page)).or ((categoryRow? category).bind (·.page))

/-- The method that a context names. -/
def method? (context : Option Members) : Option String :=
  context.bind fun members => (members.get? "method").bind (·.asString?)

def methodHint (method : String) : String :=
  s!"Review the definition of method '{method}'"

/-- Adds a hint unless it is among those before. -/
def addHint (hints : List String) (hint : String) : List String :=
  if hints.contains hint then hints else hints ++ [hint]

def advise (h : Handbook) (code : Option String) (category : Category)
    (context : Option Members) : Advice where
  fixes := (tableHints code category ++ ((method? context).map methodHint).toList).foldl addHint []
  link := (page? code category).map fun page => s!"{h.root}/{page}"

end Handbook

end DmlReport
