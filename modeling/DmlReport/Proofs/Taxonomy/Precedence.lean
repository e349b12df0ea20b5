import DmlReport.Proofs.Taxonomy.Categories

/-!
# The rank of a code

The rows of the taxonomy stand in order of precedence, and a code is ranked by the first row
that has one of its patterns (`Taxonomy.ranks_rank`).  The rank alone decides the category,
but for codes behind the last row.  Letters added at the end of a code can only raise it to a
row of higher precedence (`Taxonomy.rank_append_le`).  Letters in front of it do the same,
except that they hide the one pattern that looks at the start of a code; the codes that owe
their rank to that pattern are the only ones that can fall (`Taxonomy.classify_by_rank`).
-/

namespace String

theorem isPrefix_toList_iff {s code : String} : s.toList <+: code.toList ↔ ∃ b, code = s ++ b := by
  constructor
  · rintro ⟨b, hb⟩
    refine ⟨ofList b, toList_inj.1 ?_⟩
    rw [toList_append, toList_ofList, hb]
  · rintro ⟨b, rfl⟩
    exact ⟨b.toList, toList_append.symm⟩

theorem isInfix_toList_iff {s code : String} :
    s.toList <:+: code.toList ↔ ∃ a b, code = a ++ s ++ b := by
  constructor
  · rintro ⟨a, b, hab⟩
    refine ⟨ofList a, ofList b, toList_inj.1 ?_⟩
    rw [toList_append, toList_append, toList_ofList, toList_ofList, hab]
  · rintro ⟨a, b, rfl⟩
    refine ⟨a.toList, b.toList, ?_⟩
    rw [toList_append, toList_append]

end String

namespace DmlReport

namespace CodePattern

/-- What it is for a code to have a pattern, in terms of its pieces. -/
def Fits : CodePattern → String → Prop
  | .exactly s, code => code = s
  | .startsWith s, code => ∃ b, code = s ++ b
  | .contains s, code => ∃ a b, code = a ++ s ++ b

theorem accepts_iff_fits (p : CodePattern) (code : String) :
    p.accepts code = true ↔ p.Fits code := by
  cases p with
  | exactly s => exact beq_iff_eq
  | startsWith s => exact List.isPrefixOf_iff_prefix.trans String.isPrefix_toList_iff
  | contains s => exact accepts_contains_iff.trans String.isInfix_toList_iff

/-- What it is for a code to have one of several patterns. -/
def AnyFits (patterns : List CodePattern) (code : String) : Prop :=
  ∃ p ∈ patterns, p.Fits code

theorem any_accepts_iff {patterns : List CodePattern} {code : String} :
    patterns.any (·.accepts code) = true ↔ AnyFits patterns code := by
  unfold AnyFits
  rw [List.any_eq_true]
  simp only [accepts_iff_fits]

/-- Whether a pattern can stand anywhere in a code. -/
def isAnywhere : CodePattern → Bool
  | .contains _ => true
  | _ => false

theorem Fits.around {p : CodePattern} {code : String} (h : p.Fits code)
    (hp : p.isAnywhere = true) (a b : String) : p.Fits (a ++ code ++ b) := by
  cases p with
  | contains s =>
    obtain ⟨a', b', rfl⟩ := h
    exact ⟨a ++ a', b' ++ b, by simp only [String.append_assoc]⟩
  | _ => cases hp

theorem Fits.append {s code : String} (h : (startsWith s).Fits code) (b : String) :
    (startsWith s).Fits (code ++ b) := by
  obtain ⟨b', rfl⟩ := h
  exact ⟨b' ++ b, String.append_assoc⟩

end CodePattern

namespace Taxonomy

open CodePattern

/-! ## Ranks -/

theorem Row.accepts_iff (row : Row) (code : String) :
    row.accepts code = true ↔ AnyFits row.patterns code :=
  any_accepts_iff

/-- The place of the first row that accepts a code, or the number of rows. -/
def rank (code : String) : Nat :=
  rows.findIdx (·.accepts code)

/-- A number is the place of the first row that has a pattern of a code, or 8 if none has. -/
structure Ranks (code : String) (n : Nat) : Prop where
  le_eight : n ≤ 8
  listed : ∀ row, rows[n]? = some row → AnyFits row.patterns code
  first : ∀ i < n, ∀ row, rows[i]? = some row → ¬AnyFits row.patterns code

theorem ranks_rank (code : String) : Ranks code (rank code) where
  le_eight := List.findIdx_le_length
  listed := by
    intro row hrow
    have haccepts := List.findIdx_of_getElem?_eq_some hrow
    exact (row.accepts_iff code).1 haccepts
  first := by
    intro i hi row hrow hfits
    obtain ⟨hlt, rfl⟩ := List.getElem?_eq_some_iff.1 hrow
    have hrejects := List.not_of_lt_findIdx hi
    rw [(Row.accepts_iff _ code).2 hfits] at hrejects
    cases hrejects

theorem classify_eq (code : String) (kind : Kind) :
    classify (some code) kind =
      ((rows[rank code]?).map (·.category)).getD (fallback kind) := by
  unfold classify rank
  rw [Option.getD_some, List.find?_eq_getElem?_findIdx]
  cases rows[rows.findIdx (·.accepts code)]? <;> rfl

theorem classify_none (kind : Kind) : classify none kind = fallback kind := rfl

/-! ## Longer codes -/

/-- Every pattern can stand anywhere in a code, except one. -/
theorem pattern_cases : ∀ row ∈ rows, ∀ p ∈ row.patterns, p.isAnywhere = true ∨
    p = .startsWith "ESYNTAX" ∧ .contains "PARSE" ∈ row.patterns := by
  decide

theorem rank_le_rank {code code' : String}
    (h : ∀ row ∈ rows, AnyFits row.patterns code → AnyFits row.patterns code') :
    rank code' ≤ rank code := by
  refine List.findIdx_le_findIdx fun row hrow haccepts => ?_
  rw [Row.accepts_iff] at haccepts ⊢
  exact h row hrow haccepts

theorem rank_append_le (code b : String) : rank (code ++ b) ≤ rank code := by
  refine rank_le_rank fun row hrow ⟨p, hp, hfits⟩ => ⟨p, hp, ?_⟩
  rcases pattern_cases row hrow p hp with hanywhere | ⟨rfl, -⟩
  · have haround := hfits.around hanywhere "" b
    rwa [String.empty_append] at haround
  · exact hfits.append b

theorem rank_around_le {code : String}
    (h : (startsWith "ESYNTAX").Fits code → (contains "PARSE").Fits code) (a b : String) :
    rank (a ++ code ++ b) ≤ rank code := by
  -- The row of the pattern that `a` can hide has another one that the code has too.
  refine rank_le_rank fun row hrow ⟨p, hp, hfits⟩ => ?_
  rcases pattern_cases row hrow p hp with hanywhere | ⟨rfl, hparse⟩
  · exact ⟨p, hp, hfits.around hanywhere a b⟩
  · exact ⟨_, hparse, (h hfits).around rfl a b⟩

theorem rank_eq_zero_iff {code : String} :
    rank code = 0 ↔ (startsWith "ESYNTAX").Fits code ∨ (contains "PARSE").Fits code := by
  have hfits : AnyFits [startsWith "ESYNTAX", contains "PARSE"] code ↔
      (startsWith "ESYNTAX").Fits code ∨ (contains "PARSE").Fits code := by
    simp [AnyFits]
  rw [← hfits]
  constructor
  · intro hzero
    exact (ranks_rank code).listed _ (by rw [hzero]; rfl)
  · intro hlisted
    by_contra hne
    exact (ranks_rank code).first 0 (Nat.pos_of_ne_zero hne) _ rfl hlisted

theorem rank_prepend_ne_zero {code : String} (h : ¬(contains "PARSE").Fits code) :
    rank ("W" ++ code) ≠ 0 := by
  rw [Ne, rank_eq_zero_iff, not_or]
  constructor
  · intro hstart
    have hprefix := String.isPrefix_toList_iff.2 hstart
    simp at hprefix
  · intro hparse
    -- The letter is not the first one of `PARSE`, so all of it lies in the code.
    have hinfix := String.isInfix_toList_iff.2 hparse
    have hcons : ("W" ++ code).toList = 'W' :: code.toList := by simp
    rw [hcons, List.infix_cons_iff] at hinfix
    rcases hinfix with hprefix | hinfix
    · simp at hprefix
    · exact h (String.isInfix_toList_iff.1 hinfix)

/-- A pattern is accepted as its pieces say, and the rank is the first row with such a
pattern.  The category is that of the row of the rank, whatever the kind, and behind the last
row, or without a code, that of the kind.  Letters after a code never give it a later rank,
and letters around it do so only where the code owes its rank to its start. -/
theorem classify_by_rank (code : String) :
    (∀ p : CodePattern, p.accepts code = true ↔ p.Fits code) ∧
    Ranks code (rank code) ∧
    (∀ kind, classify (some code) kind = ((rows[rank code]?).map (·.category)).getD
      (if kind = .error then .semantic else .other)) ∧
    (∀ kind, classify none kind = if kind = .error then .semantic else .other) ∧
    (∀ b, rank (code ++ b) ≤ rank code) ∧
    ((∀ a b, rank (a ++ code ++ b) ≤ rank code) ↔
      ¬((startsWith "ESYNTAX").Fits code ∧ ¬(contains "PARSE").Fits code)) := by
  refine ⟨fun p => accepts_iff_fits p code, ranks_rank code, ?_, ?_, rank_append_le code, ?_, ?_⟩
  · intro kind
    rw [classify_eq, fallback_eq]
  · intro kind
    rw [classify_none, fallback_eq]
  · -- One letter in front of such a code hides its start.
    rintro hle ⟨hstart, hparse⟩
    have hzero : rank code = 0 := rank_eq_zero_iff.2 (Or.inl hstart)
    have hhidden := hle "W" ""
    rw [String.append_empty, hzero, Nat.le_zero] at hhidden
    exact rank_prepend_ne_zero hparse hhidden
  · intro hkept
    exact rank_around_le fun hstart => Classical.not_not.1 fun hparse => hkept ⟨hstart, hparse⟩

end Taxonomy

end DmlReport
