import DmlReport.Citation
import DmlReport.Diagnostic
import DmlReport.Handbook

/-!
# Findings

A finding is a diagnostic after its unusable parts were left out, with its
category, the advice of a handbook and a citation of its location.  The
exported document holds the findings of a compilation in the order in which
their diagnostics were raised.
-/

namespace DmlReport

open Json (Value Members)

/-- A related location in the exported document. -/
structure RelatedCitation where
  file : Option String
  line : Option UInt32
  message : String
deriving DecidableEq, Repr

namespace RelatedCitation

/-- The citation of a related location; without a location there is none. -/
def ofRelated? (r : Related) : Option RelatedCitation :=
  r.location.map fun l => ⟨l.file, l.normalized.line, r.message⟩

def toValue (c : RelatedCitation) : Value :=
  .object [
    ("file", .ofOption .string c.file),
    ("line", .ofOption (fun n => .nat n.toNat) c.line),
    ("message", .string c.message)]

end RelatedCitation

/-- A diagnostic with what the library knows about it. -/
structure Finding where
  kind : Kind
  code : Option String
  message : Option String
  category : Category
  citation : Citation
  advice : Advice
  related : List RelatedCitation
  context : Option Members
  /-- The dialect of the file that the location lies in. -/
  dialect : Option Dialect
deriving Repr

namespace Finding

def severity (f : Finding) : Severity :=
  f.kind.severity

/-- What a handbook makes of a diagnostic. -/
def ofDiagnostic (h : Handbook) (d : Diagnostic) : Finding :=
  let category := Taxonomy.classify d.code d.kind
  { kind := d.kind
    code := d.code
    message := d.message
    category
    citation := .ofLocation? (d.location.map Location.normalized)
    advice := h.advise d.code category d.members
    related := d.related.filterMap RelatedCitation.ofRelated?
    context := d.members
    dialect := d.location.bind (·.dialect) }

/-- A finding as a JSON object.  The dialect is not part of it. -/
def toValue (f : Finding) : Value :=
  .object [
    ("type", .string f.kind.name),
    ("severity", .string f.severity.name),
    ("code", .ofOption .string f.code),
    ("message", .ofOption .string f.message),
    ("category", .string f.category.name),
    ("location", f.citation.toValue),
    ("fix_suggestions", .array (f.advice.fixes.map .string)),
    ("related_locations", .array (f.related.map RelatedCitation.toValue)),
    ("documentation_url", .ofOption .string f.advice.link),
    ("context", .ofOption .object f.context)]

end Finding

end DmlReport
