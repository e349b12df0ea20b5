import DmlReport.Document

/-!
# Looking into a document

A document is a JSON value, and who reads it asks for members by their keys.  Here
is what the parts of a document answer.
-/

namespace DmlReport

namespace Json.Value

/-- The value of a member of an object. -/
def member? (key : String) : Value → Option Value
  | .object members => Members.get? members key
  | _ => none

/-- The truth value of a value that is one. -/
def asBool? : Value → Option Bool
  | .bool b => some b
  | _ => none

/-- The text of a member of an object, if the member is a text. -/
def text? (key : String) (v : Value) : Option String :=
  (v.member? key).bind (·.asString?)

@[simp] theorem member?_object_cons (key k : String) (v : Value) (members : Members) :
    (object ((k, v) :: members)).member? key =
      if key = k then some v else (object members).member? key :=
  Members.get?_cons key k v members

end Json.Value

open Json (Value)

theorem Diagnostic.method?_members (d : Diagnostic) :
    Handbook.method? d.members = d.context.bind (·.text? "method") := by
  unfold Diagnostic.members
  split
  · rename_i members hcontext
    rw [hcontext]
    rfl
  · rename_i hcontext
    cases hvalue : d.context with
    | none => rfl
    | some v =>
      cases v with
      | object members => exact absurd hvalue (hcontext members)
      | _ => rfl

theorem Layout.member?_document (l : Layout) (c : Collection) :
    (l.document c).member? "compilation_summary" = some (Summary.ofCollection c).toValue := by
  simp [Layout.document, Layout.withSummary]

theorem Layout.member?_diagnostics (l : Layout) (c : Collection) :
    (l.document c).member? "diagnostics" = some (.array (c.findings.map Finding.toValue)) := by
  simp [Layout.document, Layout.withSummary]

namespace Finding

variable (f : Finding)

theorem text?_type : f.toValue.text? "type" = some f.kind.name := by
  simp [toValue, Value.text?, Value.asString?]

theorem text?_category : f.toValue.text? "category" = some f.category.name := by
  simp [toValue, Value.text?, Value.asString?]

theorem text?_documentation_url : f.toValue.text? "documentation_url" = f.advice.link := by
  cases hlink : f.advice.link <;> simp [toValue, Value.text?, Value.asString?, Value.ofOption, hlink]

end Finding

end DmlReport
