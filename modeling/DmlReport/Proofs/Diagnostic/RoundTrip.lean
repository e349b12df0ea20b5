import DmlReport.Proofs.Diagnostic.Encoding
import DmlReport.Proofs.Diagnostic.Schema

/-!
# Decoded diagnostics survive their encoding

What a location, a citation or a dialect is written as, is decoded as it
(`Location.decodeText_compact` and so on).  A diagnostic comes back as it was except for a
null context, which comes back as none; a handbook cannot tell the two apart.  A context
that was decoded is not null, has its members in order and fits into a diagnostic, so a
diagnostic that was decoded from any text, in whatever form, comes back as it is
(`Diagnostic.survives_encoding`).
-/

namespace DmlReport

open Json (Value)

theorem Location.decodeText_compact (l : Location) :
    Json.decodeText decode l.toValue.compact = .ok l :=
  Value.decodeText_compact l.isIntegral_toValue (decode_node (by decide) l)

theorem Citation.decodeText_compact (c : Citation) :
    Json.decodeText decode c.toValue.compact = .ok c :=
  Value.decodeText_compact c.isIntegral_toValue (decode_node (by decide) c)

theorem Dialect.decodeText_compact (v : Dialect) :
    Json.decodeText decode v.toValue.compact = .ok v :=
  Value.decodeText_compact v.isIntegral_toValue (decode_node (by decide) v)

namespace Diagnostic

/-- The diagnostic with no context instead of a null one. -/
def withoutNull (d : Diagnostic) : Diagnostic :=
  { d with context :=
      match d.context with
      | some .null => none
      | context => context }

/-- A diagnostic whose context has sorted members is only rid of a null context. -/
theorem decoded_eq_withoutNull {d : Diagnostic}
    (hsorted : ∀ v, d.context = some v → v.isSorted = true) : d.decoded = d.withoutNull := by
  unfold decoded withoutNull
  cases hcontext : d.context with
  | none => rfl
  | some v =>
    have hcanonical := Value.canonical_of_isSorted (hsorted v hcontext)
    cases v with
    | null => rfl
    | bool | number | string | array | object => simp only [hcanonical]

theorem withoutNull_eq_self {d : Diagnostic} (h : d.context ≠ some .null) :
    d.withoutNull = d := by
  obtain ⟨kind, code, message, location, related, context⟩ := d
  unfold withoutNull
  rcases context with _ | v
  · rfl
  · cases v with
    | null => exact absurd rfl h
    | bool | number | string | array | object => rfl

theorem sendable_of_depth_le {d : Diagnostic}
    (h : ∀ v, d.context = some v → v.isIntegral = true ∧ v.depth ≤ 126) : d.Sendable := by
  intro v hv
  obtain ⟨hintegral, hdepth⟩ := h v hv
  exact ⟨hintegral, Nat.succ_le_succ hdepth⟩

/-- A diagnostic survives its encoding.  Its context holds integers only, is at most 126
containers deep, and is a value as the compiler builds them, with the members of every object
in the order of their keys.  The diagnostic comes back as it was, with no context for a null
one, and makes the same finding with every handbook.  What was decoded from a text, in
whatever form it was written there, comes back as it is; so do all locations, citations and
dialects. -/
theorem survives_encoding :
    (∀ d : Diagnostic,
      (∀ v, d.context = some v → v.isSorted = true ∧ v.isIntegral = true ∧ v.depth ≤ 126) →
        Json.decodeText decode d.toValue.compact = .ok d.withoutNull ∧
          ∀ h, Finding.ofDiagnostic h d.withoutNull = Finding.ofDiagnostic h d) ∧
    (∀ text d, Json.decodeText decode text = .ok d →
      (∀ v, d.context = some v → v.isIntegral = true) →
        Json.decodeText decode d.toValue.compact = .ok d) ∧
    (∀ l : Location, Json.decodeText Location.decode l.toValue.compact = .ok l) ∧
    (∀ c : Citation, Json.decodeText Citation.decode c.toValue.compact = .ok c) ∧
    ∀ v : Dialect, Json.decodeText Dialect.decode v.toValue.compact = .ok v := by
  refine ⟨?_, ?_, Location.decodeText_compact, Citation.decodeText_compact,
    Dialect.decodeText_compact⟩
  · intro d hcontext
    have hsorted : ∀ v, d.context = some v → v.isSorted = true := fun v hv => (hcontext v hv).1
    have hsendable : d.Sendable := sendable_of_depth_le fun v hv => (hcontext v hv).2
    rw [← decoded_eq_withoutNull hsorted]
    exact ⟨decodeText_compact hsendable, fun h => Finding.ofDiagnostic_decoded h hsorted⟩
  · intro text d hdecode hintegral
    -- What the encoding could change, the reader has changed already.
    have hsendable : d.Sendable := sendable_of_depth_le fun v hv =>
      ⟨hintegral v hv, depth_context_of_text hdecode hv⟩
    have hsorted : ∀ v, d.context = some v → v.isSorted = true := fun v hv =>
      isSorted_context_of_text hdecode hv
    rw [decodeText_compact hsendable, decoded_eq_withoutNull hsorted,
      withoutNull_eq_self (context_ne_null_of_text hdecode)]

/-- A diagnostic as a list, with a member that no location has and a context that is out of
order. -/
def listForm : String :=
  "[\"error\", null, null, \x7b\"line\": 0, \"rank\": 1e999\x7d, [], \x7b\"b\": 1, \"a\": 2\x7d]"

/-- A context of 126 containers with the least and the greatest integer survives, a null one
does not, and a diagnostic that was written as a list comes back as it was decoded. -/
theorem survives_encoding_deepest :
    let nested : Value := Nat.repeat (fun v => .array [v]) 125 (.integer (-9223372036854775808))
    let context : Value := .object [("a", nested), ("é", .integer 18446744073709551615)]
    let plain := raise .error "EUNDEF" "\"\n"
    context.depth = 126 ∧
      Json.decodeText decode (plain.withContext context).toValue.compact =
        .ok (plain.withContext context) ∧
      Json.decodeText decode (plain.withContext .null).toValue.compact = .ok plain ∧
      ∃ listed, Json.decodeText decode listForm = .ok listed ∧
        listed.context.map Value.compact = some "\x7b\"a\":2,\"b\":1\x7d" ∧
        Json.decodeText decode listed.toValue.compact = .ok listed := by
  intro nested context plain
  have hsorted : context.isSorted = true := by decide +kernel
  have hintegral : context.isIntegral = true := by decide +kernel
  have hdepth : context.depth = 126 := by decide +kernel
  have hlistForm : ((Json.decodeText decode listForm).toOption.map fun d =>
      (d.context.map Value.compact, d.context.all Value.isIntegral)) =
        some (some "\x7b\"a\":2,\"b\":1\x7d", true) := by decide +kernel
  obtain ⟨listed, hlisted, hparts⟩ := Option.map_eq_some_iff.1 hlistForm
  obtain ⟨hcompact, hcontext⟩ := Prod.mk.inj hparts
  have hdecode : Json.decodeText decode listForm = .ok listed := by
    cases h : Json.decodeText decode listForm with
    | ok d =>
      rw [h] at hlisted
      exact congrArg Except.ok (Option.some.inj hlisted)
    | error e =>
      rw [h] at hlisted
      cases hlisted
  obtain ⟨hsurvives, hread, -⟩ := survives_encoding
  refine ⟨hdepth, ?_, ?_, listed, hdecode, hcompact, hread listForm listed hdecode ?_⟩
  · refine (hsurvives (plain.withContext context) fun v hv => ?_).1
    cases hv
    exact ⟨hsorted, hintegral, Nat.le_of_eq hdepth⟩
  · refine (hsurvives (plain.withContext .null) fun v hv => ?_).1
    cases hv
    exact ⟨rfl, rfl, by decide⟩
  · intro v hv
    rwa [hv] at hcontext

end Diagnostic

end DmlReport
