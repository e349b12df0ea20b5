import DmlReport.Export
import DmlReport.Proofs.Text.Encoded

/-!
# Rendering does not fail

A document is serialized in steps that can fail: a map is refused if one of its keys does
not become a text, and bytes are refused if they are no UTF-8.  The one map in a document has
the names of categories as its keys (`Summary.encode_eq`), and the bytes that are written are
those of characters, so neither happens (`Layout.serialize_eq`).  An export is then one
replacement (`Layout.exportTo_eq`).
-/

namespace DmlReport

open Json (Value Members WriteFault)

/-- A map whose keys are texts is an object. -/
theorem Json.Value.ofMap_string (members : Members) :
    ofMap (members.map fun m => (string m.1, m.2)) = .ok (object members) := by
  have hmembers : (members.map fun m => (string m.1, m.2)).mapM
      (fun m => do return (← m.1.asKey, m.2)) = (.ok members : Except WriteFault Members) := by
    induction members with
    | nil => rfl
    | cons m members ih =>
      rw [List.map_cons, List.mapM_cons, ih]
      rfl
  unfold ofMap
  rw [hmembers]
  rfl

theorem Summary.encode_eq (s : Summary) : s.encode = .ok s.toValue := by
  have hkeys : s.categories.map (fun m => (m.1.toValue, Value.nat m.2)) =
      (s.categories.map fun m => (m.1.name, Value.nat m.2)).map
        fun m => (Value.string m.1, m.2) := by
    rw [List.map_map]
    rfl
  unfold encode
  rw [hkeys, Value.ofMap_string]
  rfl

namespace Layout

variable (l : Layout) (c : Collection)

theorem encode_eq : l.encode c = .ok (l.document c) := by
  unfold encode
  rw [Summary.encode_eq]
  rfl

/-- Every document is serialized as its text. -/
theorem serialize_eq : l.serialize c = .ok (l.render c) := by
  have hdecode : Text.decode? ((l.document c).indentedBytes l.indent) = some (l.render c) :=
    Text.decode?_encode _
  unfold serialize
  simp only [encode_eq, hdecode]

/-- An export is one replacement of what is at the path by the text of the document. -/
theorem exportTo_eq {m : Type → Type} [Monad m] (store : Store m) (path : Path) :
    l.exportTo store c path = (do
      match ← store.replace path (l.render c) with
      | .ok () => pure (.ok (), [.exported path.text c.size])
      | .error e => pure (.error (.unwritable path e), [])) := by
  have hserialized := l.serialize_eq c
  unfold exportTo
  generalize l.serialize c = serialized at hserialized ⊢
  subst hserialized
  rfl

end Layout

end DmlReport
