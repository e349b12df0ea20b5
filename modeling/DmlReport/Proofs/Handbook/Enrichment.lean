import DmlReport.Proofs.Document.Members
import DmlReport.Proofs.Handbook.Advice
import DmlReport.Proofs.Taxonomy.Categories

/-!
# Advice follows the code

The handbook and the taxonomy order the codes each in its own way.  A pattern of the
handbook implies one of the taxonomy, with two exceptions (`pattern_listed`), so a code that
the taxonomy does not list has no advice unless it has one of those two patterns; every other
code has some, and links follow the category (`advise_covers`).  The two categories that only
a fallback gives have no row in the handbook, so the kind of a diagnostic plays no part in
what is advised (`Finding.enrichment_eq`).
-/

namespace DmlReport

namespace Handbook

/-! ## Rows -/

theorem categoryRow?_eq_none_iff {category : Category} :
    categoryRow? category = none ↔ category = .semantic ∨ category = .other := by
  cases category <;> simp [categoryRow?, categoryRows]

theorem codeRow?_eq_none_iff {code : Option String} :
    codeRow? code = none ↔ ∀ c, code = some c → ∀ row ∈ codeRows, row.accepts c = false := by
  rw [codeRow?, Option.bind_eq_none_iff]
  simp only [List.find?_eq_none, Bool.not_eq_true]

/-- Codes with a pattern of the handbook are listed in the taxonomy, but for two patterns. -/
theorem pattern_listed : ∀ row ∈ codeRows, ∀ p ∈ row.patterns,
    p = .contains "CYCLIC" ∨ p = .contains "SYNTAX" ∨
      ∃ r ∈ Taxonomy.rows, ∃ q ∈ r.patterns, p.implies q = true := by
  decide

theorem exists_row_contains : ∀ s ∈ ["CYCLIC", "SYNTAX"],
    ∃ row ∈ codeRows, CodePattern.contains s ∈ row.patterns := by
  decide

theorem codeRow?_of_unlisted {code : Option String} (h : Taxonomy.Unlisted code) :
    codeRow? code = none ↔ ∀ c, code = some c →
      ¬"CYCLIC".toList <:+: c.toList ∧ ¬"SYNTAX".toList <:+: c.toList := by
  rw [codeRow?_eq_none_iff]
  constructor
  · intro hnone c hc
    have hlacks : ∀ s ∈ ["CYCLIC", "SYNTAX"], ¬s.toList <:+: c.toList := by
      intro s hs hinfix
      obtain ⟨row, hrow, hp⟩ := exists_row_contains s hs
      have haccepts : row.accepts c = true :=
        List.any_eq_true.2 ⟨_, hp, CodePattern.accepts_contains_iff.2 hinfix⟩
      rw [hnone c hc row hrow] at haccepts
      cases haccepts
    exact ⟨hlacks _ (by simp), hlacks _ (by simp)⟩
  · intro hlacks c hc row hrow
    obtain ⟨hcyclic, hgrammar⟩ := hlacks c hc
    rw [← Bool.not_eq_true]
    intro haccepts
    obtain ⟨p, hp, hpc⟩ := List.any_eq_true.1 haccepts
    rcases pattern_listed row hrow p hp with rfl | rfl | ⟨r, hr, q, hq, himplies⟩
    · exact hcyclic (CodePattern.accepts_contains_iff.1 hpc)
    · exact hgrammar (CodePattern.accepts_contains_iff.1 hpc)
    · have hlisted : r.accepts c = true :=
        List.any_eq_true.2 ⟨q, hq, CodePattern.accepts_of_implies himplies hpc⟩
      rw [h c hc r hr] at hlisted
      cases hlisted

/-! ## Hints -/

theorem fixes_eq_nil_iff {h : Handbook} {code : Option String} {category : Category}
    {context : Option Json.Members} :
    (h.advise code category context).fixes = [] ↔
      tableHints code category = [] ∧ method? context = none := by
  rw [fixes_eq, List.append_eq_nil_iff, Option.toList_eq_nil_iff, Option.map_eq_none_iff]

theorem code_hints_ne_nil : ∀ row ∈ codeRows, row.hints ≠ [] := by
  decide

theorem category_hints_ne_nil : ∀ row ∈ categoryRows, row.hints ≠ [] := by
  decide

theorem tableHints_eq_nil_iff {code : Option String} {category : Category} :
    tableHints code category = [] ↔ codeRow? code = none ∧ categoryRow? category = none := by
  unfold tableHints
  cases hcode : codeRow? code with
  | some row =>
    obtain ⟨c, -, hfind⟩ := Option.bind_eq_some_iff.1 hcode
    simpa using code_hints_ne_nil row (List.mem_of_find?_eq_some hfind)
  | none =>
    cases hcategory : categoryRow? category with
    | some row =>
      simpa using category_hints_ne_nil row (List.mem_of_find?_eq_some hcategory)
    | none => simp

/-! ## Pages -/

theorem code_page : ∀ row ∈ codeRows, row.page = none ∨
    row.patterns = [.exactly "EAMBINH"] ∧
      row.page = some "language.html#resolution-of-overrides" := by
  decide

/-- One code has a page of its own; all others have that of their category. -/
theorem page?_eq (code : Option String) (category : Category) :
    page? code category =
      if code = some "EAMBINH" then some "language.html#resolution-of-overrides"
      else (categoryRow? category).bind (·.page) := by
  unfold page?
  split
  · rename_i hcode
    subst hcode
    rfl
  · rename_i hcode
    cases hrow : codeRow? code with
    | none => rfl
    | some row =>
      obtain ⟨c, hc, hfind⟩ := Option.bind_eq_some_iff.1 hrow
      rcases code_page row (List.mem_of_find?_eq_some hfind) with hpage | ⟨hpatterns, -⟩
      · rw [Option.bind_some, hpage, Option.none_or]
      · have hfound := List.find?_some hfind
        have haccepts : row.accepts c = true := hfound
        rw [CodeRow.accepts, hpatterns, List.any_cons, List.any_nil, Bool.or_false] at haccepts
        exact absurd (hc.trans (congrArg some (eq_of_beq haccepts))) hcode

/-- The categories that have a page of the documentation. -/
def documented : List Category :=
  [.grammar, .typeMismatch, .templateResolution, .undefinedSymbol, .importError, .compatibility]

theorem isSome_categoryPage {category : Category} :
    ((categoryRow? category).bind (·.page)).isSome = true ↔ category ∈ documented := by
  cases category <;> decide

theorem classify_override (kind : Kind) :
    Taxonomy.classify (some "EAMBINH") kind = .templateResolution := by
  cases kind <;> rfl

/-- Without a method in the context, advice has no hints exactly if the category is a
fallback and the code has neither of the two patterns that the taxonomy does not list.  It
has a link exactly if the category is documented, and then to the page of the category or,
for one code, to its own. -/
theorem advise_covers (h : Handbook) (code : Option String) (kind : Kind)
    (context : Option Json.Members) :
    let category := Taxonomy.classify code kind
    let advice := h.advise code category context
    (advice.fixes = [] ↔ method? context = none ∧ (category = .semantic ∨ category = .other) ∧
      ∀ c, code = some c → ¬"CYCLIC".toList <:+: c.toList ∧ ¬"SYNTAX".toList <:+: c.toList) ∧
    (advice.link.isSome = true ↔ category ∈ documented) ∧
    ∀ url, advice.link = some url → ∃ page, url = h.root ++ "/" ++ page ∧
      if code = some "EAMBINH" then page = "language.html#resolution-of-overrides"
      else (categoryRow? category).bind (·.page) = some page := by
  intro category advice
  have hlink : advice.link = (page? code category).map fun page => s!"{h.root}/{page}" := rfl
  refine ⟨?_, ?_, ?_⟩
  · have hnone : codeRow? code = none ∧ categoryRow? category = none ↔
        (category = .semantic ∨ category = .other) ∧ ∀ c, code = some c →
          ¬"CYCLIC".toList <:+: c.toList ∧ ¬"SYNTAX".toList <:+: c.toList := by
      rw [categoryRow?_eq_none_iff, and_comm]
      refine and_congr_right fun hfallback => ?_
      rcases Taxonomy.classify_cases code with ⟨row, hrow, heq⟩ | ⟨hunlisted, -⟩
      · have hlisted := Taxonomy.row_category row hrow
        rw [← heq kind] at hlisted
        exact absurd hfallback (not_or.2 hlisted)
      · exact codeRow?_of_unlisted hunlisted
    rw [fixes_eq_nil_iff, tableHints_eq_nil_iff, hnone, and_comm]
  · rw [hlink, Option.isSome_map, page?_eq]
    split
    · rename_i hcode
      subst hcode
      have hcategory : category = .templateResolution := classify_override kind
      rw [hcategory]
      decide
    · exact isSome_categoryPage
  · intro url hurl
    rw [hlink, page?_eq] at hurl
    obtain ⟨page, hpage, rfl⟩ := Option.map_eq_some_iff.1 hurl
    refine ⟨page, by simp [toString], ?_⟩
    split at hpage
    · rename_i hcode
      rw [if_pos hcode]
      exact (Option.some.inj hpage).symm
    · rename_i hcode
      rw [if_neg hcode]
      exact hpage

/-! ## Two diagnostics -/

/-- A category matters to advice by its row only, and a context by the method that it
names. -/
theorem advise_congr {h : Handbook} {code : Option String} {category category' : Category}
    {context context' : Option Json.Members}
    (hcategory : categoryRow? category = categoryRow? category')
    (hmethod : method? context = method? context') :
    h.advise code category context = h.advise code category' context' := by
  unfold advise tableHints page?
  rw [hcategory, hmethod]

theorem categoryRow?_classify (code : Option String) (kind kind' : Kind) :
    categoryRow? (Taxonomy.classify code kind) = categoryRow? (Taxonomy.classify code kind') := by
  have hfallback : ∀ k, categoryRow? (Taxonomy.fallback k) = none := by
    intro k
    apply categoryRow?_eq_none_iff.2
    cases k <;> simp [Taxonomy.fallback]
  rcases Taxonomy.classify_cases code with ⟨row, -, heq⟩ | ⟨-, heq⟩
  · rw [heq, heq]
  · rw [heq, heq, hfallback, hfallback]

end Handbook

namespace Taxonomy

theorem classify_congr (code : Option String) {kind kind' : Kind}
    (h : kind = .error ↔ kind' = .error) : classify code kind = classify code kind' := by
  rcases classify_cases code with ⟨row, -, heq⟩ | ⟨-, heq⟩
  · rw [heq, heq]
  · rw [heq, heq, fallback_eq, fallback_eq]
    simp only [h]

/-- Two kinds give a code two categories only if it is unlisted. -/
theorem unlisted_of_classify_ne {code : Option String} {kind kind' : Kind}
    (h : classify code kind ≠ classify code kind') :
    Unlisted code ∧ ∀ k, classify code k = fallback k := by
  rcases classify_cases code with ⟨row, -, heq⟩ | hunlisted
  · exact absurd ((heq kind).trans (heq kind').symm) h
  · exact hunlisted

end Taxonomy

namespace Finding

/-- What a handbook adds to a diagnostic depends on the code and on the method that the
context names.  The kind can change no more than the category, and that only for a code that
the taxonomy does not list. -/
theorem enrichment_eq (h : Handbook) {d d' : Diagnostic} (hcode : d.code = d'.code)
    (hmethod : d.context.bind (·.text? "method") = d'.context.bind (·.text? "method")) :
    (ofDiagnostic h d).advice.fixes = (ofDiagnostic h d').advice.fixes ∧
    (ofDiagnostic h d).advice.link = (ofDiagnostic h d').advice.link ∧
    ((d.kind = .error ↔ d'.kind = .error) →
      (ofDiagnostic h d).category = (ofDiagnostic h d').category) ∧
    ((ofDiagnostic h d).category ≠ (ofDiagnostic h d').category →
      Taxonomy.Unlisted d.code ∧ ∀ e ∈ [d, d'],
        (ofDiagnostic h e).category = if e.kind = .error then .semantic else .other) := by
  have hadvice : (ofDiagnostic h d).advice = (ofDiagnostic h d').advice := by
    rw [← Diagnostic.method?_members, ← Diagnostic.method?_members] at hmethod
    unfold ofDiagnostic
    rw [hcode]
    exact Handbook.advise_congr (Handbook.categoryRow?_classify _ _ _) hmethod
  have hcategory : (ofDiagnostic h d').category = Taxonomy.classify d.code d'.kind := by
    rw [hcode]
    rfl
  refine ⟨congrArg Advice.fixes hadvice, congrArg Advice.link hadvice, ?_, ?_⟩
  · intro hkinds
    rw [hcategory]
    exact Taxonomy.classify_congr d.code hkinds
  · intro hne
    rw [hcategory] at hne
    obtain ⟨hunlisted, heq⟩ := Taxonomy.unlisted_of_classify_ne hne
    refine ⟨hunlisted, ?_⟩
    intro e he
    have hcode' : e.code = d.code := by
      rcases List.mem_pair.1 he with rfl | rfl
      · rfl
      · exact hcode.symm
    show Taxonomy.classify e.code e.kind = _
    rw [hcode', heq, Taxonomy.fallback_eq]

/-- An error with a code that the taxonomy does not list and the handbook knows. -/
def cyclicError : Diagnostic where
  kind := .error
  code := some "ECYCLIC"
  message := some "a.dml imports itself"
  location := some (.inFileAt "a.dml" 1 1)
  related := []
  context := some (.object [("method", .string "read"), ("path", .array [])])

/-- A warning with the same code, about the same method. -/
def cyclicWarning : Diagnostic where
  kind := .warning
  code := some "ECYCLIC"
  message := none
  location := none
  related := [.plain (.inFile "b.dml")]
  context := some (.object [("method", .string "read")])

theorem enrichment_eq_cyclic :
    cyclicError.code = cyclicWarning.code ∧
    cyclicError.context.bind (·.text? "method") = some "read" ∧
    cyclicWarning.context.bind (·.text? "method") = some "read" ∧
    (ofDiagnostic .published cyclicError).advice.fixes =
      (ofDiagnostic .published cyclicWarning).advice.fixes ∧
    (ofDiagnostic .published cyclicError).category = .semantic ∧
    (ofDiagnostic .published cyclicWarning).category = .other := by
  have hcode : cyclicError.code = cyclicWarning.code := rfl
  have hmethod : cyclicError.context.bind (·.text? "method") = some "read" := by decide
  have hmethod' : cyclicWarning.context.bind (·.text? "method") = some "read" := by decide
  have hne : (ofDiagnostic .published cyclicError).category ≠
      (ofDiagnostic .published cyclicWarning).category := by decide
  obtain ⟨hfixes, -, -, hcategories⟩ :=
    enrichment_eq .published hcode (hmethod.trans hmethod'.symm)
  have hfallbacks := (hcategories hne).2
  exact ⟨hcode, hmethod, hmethod', hfixes, hfallbacks _ (by simp), hfallbacks _ (by simp)⟩

end Finding

end DmlReport
