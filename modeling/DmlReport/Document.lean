import DmlReport.Summary

/-!
# The exported document

One JSON object: the version of its format, the tool that made it, the summary
of the compilation, and the findings in order.  The layout says how the tool is
called and how wide a level is indented.
-/

namespace DmlReport

open Json (Value WriteFault)

/-- How documents are made. -/
structure Layout where
  generator : String
  indent : Nat
deriving DecidableEq, Repr

namespace Layout

def formatVersion : String := "1.0"

/-- A document as a JSON object, given what stands for its summary. -/
def withSummary (l : Layout) (c : Collection) (summary : Value) : Value :=
  .object [
    ("format_version", .string formatVersion),
    ("generator", .string l.generator),
    ("compilation_summary", summary),
    ("diagnostics", .array (c.findings.map Finding.toValue))]

def document (l : Layout) (c : Collection) : Value :=
  l.withSummary c (Summary.ofCollection c).toValue

/-- The text of the document, which `Layout.serialize` comes to. -/
def render (l : Layout) (c : Collection) : String :=
  (l.document c).indented l.indent

/-- Encodes the document of a collection. -/
def encode (l : Layout) (c : Collection) : Except WriteFault Value := do
  return l.withSummary c (← (Summary.ofCollection c).encode)

end Layout

end DmlReport
