import DmlReport.Diagnostic
import DmlReport.Proofs.Json.Fields
import DmlReport.Proofs.Json.Ordered

/-!
# The layout of a diagnostic

A diagnostic, its location, the dialect in that, and its related locations are records; its
context is any value, all members of which count.  Each decoder respects the schema of what
it decodes, so alike texts are decoded as one diagnostic or refused both
(`Diagnostic.decodeText_alike`).
-/

namespace DmlReport

open Json (Value Schema Respects Agree Alike)

/-- A computation goes on with one result. -/
theorem Json.Agree.bind_eq {ε α β : Type} {x y : Except ε α} {f : α → Except ε β}
    {g : α → Except ε β} (hx : Agree Eq x y) (hf : ∀ a, Agree Eq (f a) (g a)) :
    Agree Eq (x >>= f) (y >>= g) :=
  hx.bind fun a _ heq => heq ▸ hf a

namespace Dialect

def fields : List (String × Schema) := [("major", .free), ("minor", .free)]

/-- The members of a dialect. -/
def schema : Schema := .record fields

theorem record_follows : record.Follows fields where
  names := by decide
  fields := .cons ⟨rfl, (Json.uint16_respects .free).check _ _⟩
    (.cons ⟨rfl, (Json.uint16_respects .free).check _ _⟩ .nil)

theorem decode_respects : Respects schema decode := by
  intro depth v w hkeys hstep
  refine (record_follows.fieldsOf_agree hkeys hstep depth).bind fun f g h => ?_
  refine (h.get (by simp [fields]) (Json.uint16_respects .free)).bind_eq fun major => ?_
  refine (h.get (by simp [fields]) (Json.uint16_respects .free)).bind_eq fun minor => ?_
  exact .rfl

end Dialect

namespace Location

def fields : List (String × Schema) :=
  [("file", .free), ("line", .free), ("column", .free), ("display", .free),
    ("dialect", Dialect.schema)]

/-- The members of a location. -/
def schema : Schema := .record fields

theorem record_follows : record.Follows fields where
  names := by decide
  fields := .cons ⟨rfl, (Json.text_respects .free).optional.check _ _⟩
    (.cons ⟨rfl, (Json.uint32_respects .free).optional.check _ _⟩
    (.cons ⟨rfl, (Json.uint32_respects .free).optional.check _ _⟩
    (.cons ⟨rfl, (Json.text_respects .free).optional.check _ _⟩
    (.cons ⟨rfl, Dialect.decode_respects.optional.check _ _⟩ .nil))))

theorem decode_respects : Respects schema decode := by
  intro depth v w hkeys hstep
  have htext := (Json.text_respects .free).optional
  have hnumber := (Json.uint32_respects .free).optional
  refine (record_follows.fieldsOf_agree hkeys hstep depth).bind fun f g h => ?_
  refine (h.getD (by simp [fields]) htext none).bind_eq fun file => ?_
  refine (h.getD (by simp [fields]) hnumber none).bind_eq fun line => ?_
  refine (h.getD (by simp [fields]) hnumber none).bind_eq fun column => ?_
  refine (h.getD (by simp [fields]) htext none).bind_eq fun display => ?_
  refine (h.getD (by simp [fields]) Dialect.decode_respects.optional none).bind_eq
    fun dialect => ?_
  exact .rfl

end Location

namespace Related

def fields : List (String × Schema) := [("location", Location.schema), ("message", .free)]

/-- The members of a related location. -/
def schema : Schema := .record fields

theorem record_follows : record.Follows fields where
  names := by decide
  fields := .cons ⟨rfl, Location.decode_respects.optional.check _ _⟩
    (.cons ⟨rfl, (Json.text_respects .free).check _ _⟩ .nil)

theorem decode_respects : Respects schema decode := by
  intro depth v w hkeys hstep
  refine (record_follows.fieldsOf_agree hkeys hstep depth).bind fun f g h => ?_
  refine (h.getD (by simp [fields]) Location.decode_respects.optional none).bind_eq
    fun location => ?_
  refine (h.getD (by simp [fields]) (Json.text_respects .free) _).bind_eq
    fun message => ?_
  exact .rfl

end Related

namespace Diagnostic

def fields : List (String × Schema) :=
  [("kind", .free), ("code", .free), ("message", .free), ("location", Location.schema),
    ("related", .list Related.schema), ("context", .free)]

/-- The members of a diagnostic. -/
def schema : Schema := .record fields

theorem record_follows : record.Follows fields where
  names := by decide
  fields := .cons ⟨rfl, (Json.oneOf_respects Kind.names).check _ _⟩
    (.cons ⟨rfl, (Json.text_respects .free).optional.check _ _⟩
    (.cons ⟨rfl, (Json.text_respects .free).optional.check _ _⟩
    (.cons ⟨rfl, Location.decode_respects.optional.check _ _⟩
    (.cons ⟨rfl, Related.decode_respects.list.check _ _⟩
    (.cons ⟨rfl, Value.decode_respects.optional.check _ _⟩ .nil)))))

theorem decode_respects : Respects schema decode := by
  intro depth v w hkeys hstep
  have htext := (Json.text_respects .free).optional
  refine (record_follows.fieldsOf_agree hkeys hstep depth).bind fun f g h => ?_
  refine (h.get (by simp [fields]) (Json.oneOf_respects Kind.names)).bind_eq fun kind => ?_
  refine (h.getD (by simp [fields]) htext none).bind_eq fun code => ?_
  refine (h.getD (by simp [fields]) htext none).bind_eq fun message => ?_
  refine (h.getD (by simp [fields]) Location.decode_respects.optional none).bind_eq
    fun location => ?_
  refine (h.getD (by simp [fields]) Related.decode_respects.list []).bind_eq
    fun related => ?_
  refine (h.getD (by simp [fields]) Value.decode_respects.optional none).bind_eq
    fun context => ?_
  exact .rfl

/-- Alike texts are decoded as one diagnostic, or refused both. -/
theorem decodeText_alike {v w : Value} (hkeys : v.hasDistinctKeys = true)
    (h : Alike schema v w) :
    (Json.decodeText decode v.compact).toOption = (Json.decodeText decode w.compact).toOption := by
  rw [Value.compact, Value.compact, Json.decodeText_tree decode Json.Style.compact_spaced,
    Json.decodeText_tree decode Json.Style.compact_spaced]
  exact decode_respects.of_alike 0 hkeys h

/-! ## Contexts -/

/-- The context of a decoded diagnostic was decoded within it, from something other than
null. -/
theorem context_of_decode {depth : Nat} {n : Json.Node} {d : Diagnostic} {v : Value}
    (h : decode depth n = .ok d) (hv : d.context = some v) :
    depth < Json.maxDepth ∧ ∃ m, m ≠ .null ∧ Value.decode (depth + 1) m = .ok v := by
  obtain ⟨fields, hfields, h⟩ := Except.bind_eq_ok h
  obtain ⟨kind, -, h⟩ := Except.bind_eq_ok h
  obtain ⟨code, -, h⟩ := Except.bind_eq_ok h
  obtain ⟨message, -, h⟩ := Except.bind_eq_ok h
  obtain ⟨location, -, h⟩ := Except.bind_eq_ok h
  obtain ⟨related, -, h⟩ := Except.bind_eq_ok h
  obtain ⟨context, hcontext, h⟩ := Except.bind_eq_ok h
  cases h
  obtain rfl : context = some v := hv
  obtain ⟨hroom, hdepth⟩ := Json.Record.depth_of_fieldsOf hfields
  refine ⟨hroom, ?_⟩
  rw [Json.Fields.getD, hdepth] at hcontext
  split at hcontext
  · rename_i m _
    unfold Json.optional at hcontext
    split at hcontext
    · cases hcontext
    · rename_i hnull
      cases hdecode : Value.decode (depth + 1) m with
      | error e =>
        rw [hdecode] at hcontext
        cases hcontext
      | ok u =>
        rw [hdecode] at hcontext
        cases hcontext
        exact ⟨m, hnull, hdecode⟩
  · cases hcontext

/-- The context of a decoded diagnostic has its members in order. -/
theorem isSorted_context_of_text {s : String} {d : Diagnostic} {v : Value}
    (h : Json.decodeText decode s = .ok d) (hv : d.context = some v) : v.isSorted = true := by
  obtain ⟨-, m, -, hm⟩ := context_of_decode (Json.decode_of_decodeText h) hv
  exact Value.isSorted_of_decode m _ _ hm

/-- The context of a decoded diagnostic has room within it. -/
theorem depth_context_of_text {s : String} {d : Diagnostic} {v : Value}
    (h : Json.decodeText decode s = .ok d) (hv : d.context = some v) : v.depth ≤ 126 := by
  obtain ⟨-, m, -, hm⟩ := context_of_decode (Json.decode_of_decodeText h) hv
  have hroom : 0 + 1 + v.depth ≤ Json.maxDepth := Value.add_depth_le_of_decode (by decide) hm
  unfold Json.maxDepth at hroom
  omega

/-- The context of a decoded diagnostic is not null. -/
theorem context_ne_null_of_text {s : String} {d : Diagnostic}
    (h : Json.decodeText decode s = .ok d) : d.context ≠ some .null := by
  intro hv
  obtain ⟨-, m, hnull, hm⟩ := context_of_decode (Json.decode_of_decodeText h) hv
  exact hnull (Value.eq_null_of_decode hm)

end Diagnostic

end DmlReport
