import DmlReport.Proofs.Collection.History
import DmlReport.Proofs.Document.Counts
import DmlReport.Proofs.Document.Members
import DmlReport.Proofs.Taxonomy.Categories

/-!
# Documents are consistent with themselves

The summary in a document says nothing that its entries do not: the counts are those
of the entries, and the compilation is called a success if no entry is an error
(`Layout.document_consistent`).  The counts are taken of the findings before they
become entries, and every finding is counted in one kind and in one category
(`List.sum_countP`).  What is counted as `semantic` are errors, and what is counted as
`other` are not, because no row of the taxonomy leads to either of the two.
-/

namespace DmlReport

open Json (Value)

/-! ## Names -/

theorem Kind.name_injective : Function.Injective Kind.name := by
  intro a b h
  have ha := lookup_name a
  rw [h, lookup_name] at ha
  exact (Option.some.inj ha).symm

theorem Category.name_injective : Function.Injective Category.name := by
  intro a b h
  have ha := lookup_name a
  rw [h, lookup_name] at ha
  exact (Option.some.inj ha).symm

/-! ## Entries -/

/-- How many entries have a text as a member. -/
def tally (key text : String) (entries : List Value) : Nat :=
  entries.countP fun e => e.text? key == some text

theorem tally_type (k : Kind) (findings : List Finding) :
    tally "type" k.name (findings.map Finding.toValue) = findings.countP (·.kind == k) := by
  unfold tally
  rw [List.countP_map]
  congr 1
  funext f
  rw [Function.comp_apply, Finding.text?_type, Bool.eq_iff_iff, beq_iff_eq, beq_iff_eq,
    Option.some_inj, Kind.name_injective.eq_iff]

theorem tally_category (c : Category) (findings : List Finding) :
    tally "category" c.name (findings.map Finding.toValue) =
      findings.countP (·.category == c) := by
  unfold tally
  rw [List.countP_map]
  congr 1
  funext f
  rw [Function.comp_apply, Finding.text?_category, Bool.eq_iff_iff, beq_iff_eq, beq_iff_eq,
    Option.some_inj, Category.name_injective.eq_iff]

/-- No entry is an error if none is counted. -/
theorem tally_eq_zero_iff {key text : String} {entries : List Value} :
    tally key text entries = 0 ↔ ∀ e ∈ entries, e.text? key ≠ some text := by
  simp [tally, List.countP_eq_zero]

theorem tally_le_tally {key key' text text' : String} {entries : List Value}
    (h : ∀ e ∈ entries, e.text? key = some text → e.text? key' = some text') :
    tally key text entries ≤ tally key' text' entries := by
  refine List.countP_mono_left fun e he hkey => ?_
  rw [beq_iff_eq] at hkey ⊢
  exact h e he hkey

theorem tally_add_tally_le {key key' text text' : String} {entries : List Value}
    (h : ∀ e ∈ entries, e.text? key = some text → e.text? key' ≠ some text') :
    tally key text entries + tally key' text' entries ≤ entries.length := by
  induction entries with
  | nil => exact Nat.le_refl 0
  | cons e entries ih =>
    obtain ⟨he, hentries⟩ := List.forall_mem_cons.1 h
    have hrest := ih hentries
    unfold tally at hrest ⊢
    rw [List.countP_cons, List.countP_cons, List.length_cons]
    by_cases hkey : e.text? key = some text
    · simp only [hkey, he hkey, beq_self_eq_true, beq_iff_eq, if_true, if_false]
      omega
    · simp only [hkey, beq_iff_eq, if_false]
      split <;> omega

theorem Finding.error_of_semantic (h : Handbook) (d : Diagnostic)
    (hcategory : (ofDiagnostic h d).toValue.text? "category" = some "semantic") :
    (ofDiagnostic h d).toValue.text? "type" = some "error" := by
  rw [text?_category, Option.some_inj] at hcategory
  have hsemantic : Taxonomy.classify d.code d.kind = .semantic := Category.name_injective hcategory
  rw [text?_type, Option.some_inj]
  exact congrArg Kind.name (Taxonomy.kind_of_semantic hsemantic)

theorem Finding.not_error_of_other (h : Handbook) (d : Diagnostic)
    (hcategory : (ofDiagnostic h d).toValue.text? "category" = some "other") :
    (ofDiagnostic h d).toValue.text? "type" ≠ some "error" := by
  rw [text?_category, Option.some_inj] at hcategory
  have hother : Taxonomy.classify d.code d.kind = .other := Category.name_injective hcategory
  rw [text?_type, Ne, Option.some_inj]
  intro hkind
  have herror : d.kind = .error := Kind.name_injective hkind
  exact Taxonomy.kind_of_other hother herror

/-- Every finding is of one of the four kinds. -/
theorem sum_tally_type (findings : List Finding) :
    let entries := findings.map Finding.toValue
    tally "type" "error" entries + tally "type" "warning" entries +
      tally "type" "internal_error" entries + tally "type" "info" entries = entries.length := by
  intro entries
  have hall : ∀ f : Finding, f.kind ∈ [.error, .warning, .internalError, .info] := by
    intro f
    cases f.kind <;> decide
  have hsum := List.sum_countP Finding.kind (by decide) hall findings
  have hkinds (k : Kind) : findings.countP (·.kind == k) = tally "type" k.name entries :=
    (tally_type k findings).symm
  simp only [hkinds, List.map_cons, List.map_nil, List.sum_cons, List.sum_nil, Kind.name] at hsum
  rw [List.length_map]
  omega

/-! ## Summaries -/

/-- A summary says of the entries of a document how many there are, how many are
errors and how many warnings; which categories occur, in their order, and how often;
and whether there is no error. -/
structure Summarizes (summary : Value) (entries : List Value) : Prop where
  total : summary.member? "total_diagnostics" = some (.nat entries.length)
  errors : summary.member? "total_errors" = some (.nat (tally "type" "error" entries))
  warnings : summary.member? "total_warnings" = some (.nat (tally "type" "warning" entries))
  kinds : tally "type" "error" entries + tally "type" "warning" entries +
    tally "type" "internal_error" entries + tally "type" "info" entries = entries.length
  categories : ∃ counts : List (Category × Nat),
    summary.member? "error_categories" =
      some (.object (counts.map fun (c, n) => (c.name, .nat n))) ∧
    (counts.map Prod.fst).Sublist Category.all ∧
    (∀ c n, (c, n) ∈ counts ↔ n = tally "category" c.name entries ∧ 0 < n) ∧
    (counts.map Prod.snd).sum = entries.length
  success : ∃ success, summary.member? "success" = some (.bool success) ∧
    (success = true ↔ ∀ e ∈ entries, e.text? "type" ≠ some "error")
  semantic : ∀ e ∈ entries, e.text? "category" = some "semantic" → e.text? "type" = some "error"
  other : ∀ e ∈ entries, e.text? "category" = some "other" → e.text? "type" ≠ some "error"
  semantic_le : tally "category" "semantic" entries ≤ tally "type" "error" entries
  other_le : tally "category" "other" entries ≤ entries.length - tally "type" "error" entries

theorem Summary.countCategories_eq (findings : List Finding) :
    countCategories findings =
      counted (fun c => tally "category" c.name (findings.map Finding.toValue)) Category.all := by
  simp only [countCategories_eq_counted, tally_category]

theorem Summary.errors_ofCollection (c : Collection) :
    (ofCollection c).errors = tally "type" "error" (c.findings.map Finding.toValue) :=
  (tally_type .error c.findings).symm

theorem Summary.warnings_ofCollection (c : Collection) :
    (ofCollection c).warnings = tally "type" "warning" (c.findings.map Finding.toValue) :=
  (tally_type .warning c.findings).symm

/-- Every collection of findings that were made from diagnostics is summarized. -/
theorem Summary.summarizes {c : Collection} (h : Handbook) (ds : List Diagnostic)
    (hfindings : c.findings = ds.map (Finding.ofDiagnostic h)) :
    Summarizes (ofCollection c).toValue (c.findings.map Finding.toValue) := by
  have hsemantic : ∀ e ∈ c.findings.map Finding.toValue,
      e.text? "category" = some "semantic" → e.text? "type" = some "error" := by
    rw [hfindings, List.forall_mem_map, List.forall_mem_map]
    exact fun d _ => Finding.error_of_semantic h d
  have hother : ∀ e ∈ c.findings.map Finding.toValue,
      e.text? "category" = some "other" → e.text? "type" ≠ some "error" := by
    rw [hfindings, List.forall_mem_map, List.forall_mem_map]
    exact fun d _ => Finding.not_error_of_other h d
  have hkinds := sum_tally_type c.findings
  refine ⟨?_, ?_, ?_, hkinds, ⟨countCategories c.findings, ?_, ?_, ?_, ?_⟩, ?_, hsemantic, hother,
    ?_, ?_⟩
  · simp [toValue, withCounts, ofCollection, Collection.size]
  · simp [toValue, withCounts, errors_ofCollection]
  · simp [toValue, withCounts, warnings_ofCollection]
  · simp [toValue, withCounts, ofCollection]
  · rw [countCategories_eq]
    exact map_fst_counted _ _
  · intro category n
    rw [countCategories_eq, mem_counted]
    simp [Category.mem_all]
  · rw [countCategories_eq, sum_counted]
    simp only [tally_category, List.length_map]
    exact List.sum_countP Finding.category (by decide) (fun f => f.category.mem_all) c.findings
  · refine ⟨(ofCollection c).success, by simp [toValue, withCounts], ?_⟩
    rw [success, beq_iff_eq, errors_ofCollection, tally_eq_zero_iff]
  · exact tally_le_tally hsemantic
  · have hdisjoint := tally_add_tally_le hother
    omega

/-- The document of a collection, whatever has been done to it, is consistent with
itself.  The dialect that it names is the one that was reported; otherwise it is that
of the first diagnostic whose own location has one. -/
theorem Layout.document_consistent (l : Layout) (h : Handbook)
    (changes : List Collection.Change) :
    let document := l.document (Collection.gather h changes)
    let ds := Collection.added changes
    ∃ summary, document.member? "compilation_summary" = some summary ∧
      document.member? "diagnostics" =
        some (.array (ds.map fun d => (Finding.ofDiagnostic h d).toValue)) ∧
      Summarizes summary (ds.map fun d => (Finding.ofDiagnostic h d).toValue) ∧
      summary.member? "dml_version" =
        some (.ofOption (fun v => .string v.display)
          ((Collection.reported changes).dialect.or
            (ds.findSome? fun d => d.location.bind (·.dialect)))) := by
  intro document ds
  have hgather := Collection.gather_eq h changes
  have hentries : (Collection.gather h changes).findings.map Finding.toValue =
      ds.map fun d => (Finding.ofDiagnostic h d).toValue := by
    rw [hgather, List.map_map]
    rfl
  refine ⟨_, Layout.member?_document l _, ?_, ?_, ?_⟩
  · rw [Layout.member?_diagnostics, hentries]
  · rw [← hentries]
    exact Summary.summarizes h ds (by rw [hgather])
  · have hdialect : (Summary.ofCollection (Collection.gather h changes)).dialect =
        (Collection.reported changes).dialect.or
          (ds.findSome? fun d => d.location.bind (·.dialect)) := by
      rw [hgather, Summary.ofCollection, List.findSome?_map]
      rfl
    simp [Summary.toValue, Summary.withCounts, hdialect]

end DmlReport
