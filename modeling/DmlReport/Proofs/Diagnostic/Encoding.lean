import DmlReport.Finding
import DmlReport.Proofs.Json.Records

/-!
# Encoded diagnostics

A diagnostic survives its encoding: decoding the compact text of one gives it back, with
every field of every part (`Diagnostic.decodeText_compact`).  Only the context may come
back in another form, since a null context means the same as none and a reader sorts the
members of objects (`Diagnostic.decoded`).
-/

namespace DmlReport

open Json (Value Literal Record maxDepth)

variable {opened : Nat}

/-- The compact text of a value is decoded as its tree is. -/
theorem Json.Value.decodeText_compact {α : Type} {decode : Json.Decoder α} {v : Value} {a : α}
    (hv : v.isIntegral = true) (h : decode 0 v.node = .ok a) :
    Json.decodeText decode v.compact = .ok a := by
  rw [compact, Json.decodeText_write decode Json.Style.compact_spaced hv, h]

/-! ## Parts of a diagnostic -/

theorem Dialect.decode_node (hroom : opened < maxDepth) (v : Dialect) :
    decode opened v.toValue.node = .ok v := by
  have hmajor : Json.uint16 (opened + 1) (Value.nat v.major.toNat).node = .ok v.major :=
    Json.uint16_node v.major
  have hminor : Json.uint16 (opened + 1) (Value.nat v.minor.toNat).node = .ok v.minor :=
    Json.uint16_node v.minor
  have hfields := record.fieldsOf_node (by decide) hroom
    (.cons (.of_decode hmajor) (.cons (.of_decode hminor) .nil))
  exact Except.bind_ok hfields (Except.bind_ok hmajor (Except.bind_ok hminor rfl))

theorem optional_text_node (opened : Nat) (o : Option String) :
    Json.optional Json.text opened (Value.ofOption .string o).node = .ok o :=
  Json.optional_node (by simp) Json.text_node o

theorem optional_uint32_node (opened : Nat) (o : Option UInt32) :
    Json.optional Json.uint32 opened (Value.ofOption (fun n => .nat n.toNat) o).node = .ok o :=
  Json.optional_node (by simp) Json.uint32_node o

theorem Location.decode_node (hroom : opened + 1 < maxDepth) (l : Location) :
    decode opened l.toValue.node = .ok l := by
  have htext := optional_text_node (opened + 1)
  have hnumber := optional_uint32_node (opened + 1)
  have hdialect : Json.optional Dialect.decode (opened + 1)
      (Value.ofOption Dialect.toValue l.dialect).node = .ok l.dialect :=
    Json.optional_node (by simp [Dialect.toValue]) (Dialect.decode_node hroom) l.dialect
  have hfields := record.fieldsOf_node (by decide) (Nat.lt_of_succ_lt hroom)
    (.cons (.of_decode (htext l.file)) (.cons (.of_decode (hnumber l.line))
      (.cons (.of_decode (hnumber l.column)) (.cons (.of_decode (htext l.display))
        (.cons (.of_decode hdialect) .nil)))))
  exact Except.bind_ok hfields (Except.bind_ok (htext l.file) (Except.bind_ok (hnumber l.line)
    (Except.bind_ok (hnumber l.column) (Except.bind_ok (htext l.display)
      (Except.bind_ok hdialect rfl)))))

theorem Citation.decode_node (hroom : opened < maxDepth) (c : Citation) :
    decode opened c.toValue.node = .ok c := by
  have hfile := optional_text_node (opened + 1) c.file
  have hline := optional_uint32_node (opened + 1) c.line
  have htext : Json.text (opened + 1) (Value.string c.text).node = .ok c.text :=
    Json.text_node c.text
  have hfields := record.fieldsOf_node (by decide) hroom
    (.cons (.of_decode hfile) (.cons (.of_decode hline) (.cons (.of_decode htext) .nil)))
  exact Except.bind_ok hfields (Except.bind_ok hfile (Except.bind_ok hline (Except.bind_ok htext rfl)))

theorem Related.decode_node (hroom : opened + 2 < maxDepth) (r : Related) :
    decode opened r.toValue.node = .ok r := by
  have hlocation : Json.optional Location.decode (opened + 1)
      (Value.ofOption Location.toValue r.location).node = .ok r.location :=
    Json.optional_node (by simp [Location.toValue]) (Location.decode_node hroom) r.location
  have hmessage : Json.text (opened + 1) (Value.string r.message).node = .ok r.message :=
    Json.text_node r.message
  have hfields := record.fieldsOf_node (by decide) (Nat.lt_of_succ_lt (Nat.lt_of_succ_lt hroom))
    (.cons (.of_decode hlocation) (.cons (.of_decode hmessage) .nil))
  exact Except.bind_ok hfields (Except.bind_ok hlocation (Except.bind_ok hmessage rfl))

theorem isIntegral_text (o : Option String) : (Value.ofOption .string o).isIntegral = true :=
  Value.isIntegral_ofOption (by simp)

theorem isIntegral_uint32 (o : Option UInt32) :
    (Value.ofOption (fun n => .nat n.toNat) o).isIntegral = true :=
  Value.isIntegral_ofOption fun n _ => Value.isIntegral_nat (by
    have := n.toNat_lt
    unfold Literal.maxSignificand
    omega)

theorem Dialect.isIntegral_toValue (v : Dialect) : v.toValue.isIntegral = true := by
  have hnumber (n : UInt16) : (Value.nat n.toNat).isIntegral = true := Value.isIntegral_nat (by
    have := n.toNat_lt
    unfold Literal.maxSignificand
    omega)
  simp [toValue, hnumber]

theorem Location.isIntegral_toValue (l : Location) : l.toValue.isIntegral = true := by
  have hdialect : (Value.ofOption Dialect.toValue l.dialect).isIntegral = true :=
    Value.isIntegral_ofOption fun v _ => v.isIntegral_toValue
  simp [toValue, isIntegral_text, isIntegral_uint32, hdialect]

theorem Citation.isIntegral_toValue (c : Citation) : c.toValue.isIntegral = true := by
  simp [toValue, isIntegral_text, isIntegral_uint32]

/-! ## Diagnostics -/

namespace Diagnostic

/-- A diagnostic as its encoding is decoded: a null context is none, and the members of a
context are sorted. -/
def decoded (d : Diagnostic) : Diagnostic :=
  { d with context :=
      match d.context with
      | none | some .null => none
      | some v => some v.canonical }

/-- The context of a diagnostic can be sent: its numbers are integers, and there is room
for it within the diagnostic. -/
def Sendable (d : Diagnostic) : Prop :=
  ∀ v, d.context = some v → v.isIntegral = true ∧ v.depth + 1 ≤ maxDepth

theorem optional_context_node {d : Diagnostic} (h : d.Sendable) :
    Json.optional Value.decode 1 (d.context.getD .null).node = .ok d.decoded.context := by
  unfold decoded
  cases hcontext : d.context with
  | none => rfl
  | some v =>
    obtain ⟨hv, hdepth⟩ := h v hcontext
    have hdecode : Value.decode 1 v.node = .ok v.canonical := by
      rw [Value.decode_node hv 1 (by decide), if_pos (by omega)]
    by_cases hnull : v = .null
    · rw [hnull]
      rfl
    · have hoptional : Json.optional Value.decode 1 v.node = .ok (some v.canonical) := by
        rw [Json.optional, hdecode]
        · rfl
        · exact Value.node_ne_null hnull
      rw [Option.getD_some, hoptional]
      cases v <;> first | rfl | exact absurd rfl hnull

theorem decode_node {d : Diagnostic} (h : d.Sendable) :
    decode 0 d.toValue.node = .ok d.decoded := by
  have hkind : Kind.decode 1 (Value.string d.kind.name).node = .ok d.kind :=
    Json.oneOf_node d.kind.lookup_name
  have htext := optional_text_node 1
  have hlocation : Json.optional Location.decode 1
      (Value.ofOption Location.toValue d.location).node = .ok d.location :=
    Json.optional_node (by simp [Location.toValue]) (Location.decode_node (by decide)) d.location
  have hrelated : Json.list Related.decode 1 (Value.array (d.related.map Related.toValue)).node =
      .ok d.related :=
    Json.list_node (by decide) fun r _ => Related.decode_node (by decide) r
  have hcontext := optional_context_node h
  have hfields := record.fieldsOf_node (by decide) (show 0 < maxDepth by decide)
    (.cons (.of_decode hkind) (.cons (.of_decode (htext d.code))
      (.cons (.of_decode (htext d.message)) (.cons (.of_decode hlocation)
        (.cons (.of_decode hrelated) (.cons (.of_decode hcontext) .nil))))))
  exact Except.bind_ok hfields (Except.bind_ok hkind (Except.bind_ok (htext d.code)
    (Except.bind_ok (htext d.message) (Except.bind_ok hlocation (Except.bind_ok hrelated
      (Except.bind_ok hcontext rfl))))))

theorem isIntegral_toValue {d : Diagnostic} (h : d.Sendable) : d.toValue.isIntegral = true := by
  have hlocation (o : Option Location) : (Value.ofOption Location.toValue o).isIntegral = true :=
    Value.isIntegral_ofOption fun l _ => l.isIntegral_toValue
  have hrelated (r : Related) : r.toValue.isIntegral = true := by
    simp [Related.toValue, hlocation]
  have hcontext : (d.context.getD .null).isIntegral = true := by
    cases hc : d.context with
    | none => rfl
    | some v => exact (h v hc).1
  simp [toValue, isIntegral_text, hlocation, hrelated, hcontext]

/-- The compact text of a diagnostic is decoded as the diagnostic. -/
theorem decodeText_compact {d : Diagnostic} (h : d.Sendable) :
    Json.decodeText decode d.toValue.compact = .ok d.decoded :=
  Value.decodeText_compact (isIntegral_toValue h) (decode_node h)

/-- Nothing that is used of a diagnostic depends on the form of its context. -/
theorem members_decoded {d : Diagnostic}
    (hsorted : ∀ v, d.context = some v → v.isSorted = true) : d.decoded.members = d.members := by
  unfold decoded members
  cases hc : d.context with
  | none => rfl
  | some v =>
    have hcanonical := Value.canonical_of_isSorted (hsorted v hc)
    cases v with
    | object members => simp [hcanonical]
    | _ => rfl

end Diagnostic

/-- A handbook makes the same of a diagnostic and of its encoding. -/
theorem Finding.ofDiagnostic_decoded (h : Handbook) {d : Diagnostic}
    (hsorted : ∀ v, d.context = some v → v.isSorted = true) :
    ofDiagnostic h d.decoded = ofDiagnostic h d := by
  have hmembers := Diagnostic.members_decoded hsorted
  unfold ofDiagnostic
  rw [hmembers]
  rfl

end DmlReport
