import DmlReport.Taxonomy
import Mathlib.Data.List.Infix

/-!
# Codes and their categories

A pattern can imply another one: every code that has the first has the second too
(`CodePattern.accepts_of_implies`).  The taxonomy leads from a code to the category of a
row, whatever kind of diagnostic has the code, or else to the fallback of the kind
(`Taxonomy.classify_cases`); no row leads to a category that only a fallback gives.
-/

namespace DmlReport

namespace CodePattern

theorem occursIn_iff {p cs : List Char} : occursIn p cs = true ↔ p <:+: cs := by
  induction cs with
  | nil => rw [occursIn, List.isEmpty_iff, List.infix_nil]
  | cons c cs ih =>
    rw [occursIn, Bool.or_eq_true, List.isPrefixOf_iff_prefix, ih, List.infix_cons_iff]

theorem accepts_contains_iff {code s : String} :
    (contains s).accepts code = true ↔ s.toList <:+: code.toList :=
  occursIn_iff

/-- Whether every code with the first pattern is known to have the second one. -/
def implies : CodePattern → CodePattern → Bool
  | .exactly s, q => q.accepts s
  | .startsWith s, .startsWith t => t.toList.isPrefixOf s.toList
  | .startsWith s, .contains t => occursIn t.toList s.toList
  | .contains s, .contains t => occursIn t.toList s.toList
  | _, _ => false

theorem accepts_of_implies {p q : CodePattern} {code : String} (h : p.implies q = true)
    (hp : p.accepts code = true) : q.accepts code = true := by
  cases p with
  | exactly s =>
    obtain rfl : code = s := eq_of_beq hp
    exact h
  | startsWith s =>
    have hs : s.toList <+: code.toList := List.isPrefixOf_iff_prefix.1 hp
    cases q with
    | exactly t => cases h
    | startsWith t =>
      have ht : t.toList <+: s.toList := List.isPrefixOf_iff_prefix.1 h
      exact List.isPrefixOf_iff_prefix.2 (ht.trans hs)
    | contains t => exact occursIn_iff.2 ((occursIn_iff.1 h).trans hs.isInfix)
  | contains s =>
    cases q with
    | contains t => exact occursIn_iff.2 ((occursIn_iff.1 h).trans (occursIn_iff.1 hp))
    | _ => cases h

end CodePattern

namespace Taxonomy

/-- No row is about a code.  A missing code is unlisted. -/
def Unlisted (code : Option String) : Prop :=
  ∀ c, code = some c → ∀ row ∈ rows, row.accepts c = false

/-- A code has the category of a row with every kind, or the fallback of each kind. -/
theorem classify_cases (code : Option String) :
    (∃ row ∈ rows, ∀ kind, classify code kind = row.category) ∨
      Unlisted code ∧ ∀ kind, classify code kind = fallback kind := by
  unfold classify
  cases hrow : rows.find? (·.accepts (code.getD "")) with
  | some row => exact Or.inl ⟨row, List.mem_of_find?_eq_some hrow, fun _ => rfl⟩
  | none =>
    refine Or.inr ⟨?_, fun _ => rfl⟩
    rintro c rfl row hmem
    simpa using List.find?_eq_none.1 hrow row hmem

theorem fallback_eq (kind : Kind) :
    fallback kind = if kind = .error then .semantic else .other := by
  cases kind <;> rfl

/-- No row leads to a category that only a fallback gives. -/
theorem row_category : ∀ row ∈ rows, row.category ≠ .semantic ∧ row.category ≠ .other := by
  decide

theorem kind_of_semantic {code : Option String} {kind : Kind}
    (h : classify code kind = .semantic) : kind = .error := by
  rcases classify_cases code with ⟨row, hrow, heq⟩ | ⟨-, heq⟩
  · exact absurd ((heq kind).symm.trans h) (row_category row hrow).1
  · rw [heq] at h
    cases kind <;> first | rfl | cases h

theorem kind_of_other {code : Option String} {kind : Kind}
    (h : classify code kind = .other) : kind ≠ .error := by
  rcases classify_cases code with ⟨row, hrow, heq⟩ | ⟨-, heq⟩
  · exact absurd ((heq kind).symm.trans h) (row_category row hrow).2
  · rintro rfl
    rw [heq] at h
    cases h

end Taxonomy

end DmlReport
