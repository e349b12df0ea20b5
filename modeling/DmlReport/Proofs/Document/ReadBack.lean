import DmlReport.Proofs.Diagnostic.Encoding
import DmlReport.Proofs.Document.Counts
import DmlReport.Proofs.Document.Rendering

/-!
# Documents read back as what was captured

A rendered document is a whole JSON text, whatever the generator is called and however
wide a level is indented.  What is read from it is spelled out member by member
(`Layout.reading`), in the order of the keys, and is what the document comes to in that
order (`Layout.canonical_document`).  It is read exactly if no context is nested deeper than
124 containers (`Layout.depth_document_le_iff`); a deeper one makes the reader refuse the
text, and nothing else does (`Layout.render_readsBack`).  A diagnostic on its own leaves
room for two more levels.
-/

namespace DmlReport

open Json (Value Literal maxDepth)

theorem Citation.fits (c : Citation) : 3 + c.toValue.depth ≤ maxDepth := by
  rw [toValue, Value.add_depth_object_le_iff]
  simp [Value.add_depth_ofOption_le_iff, maxDepth]

theorem RelatedCitation.fits (c : RelatedCitation) : 4 + c.toValue.depth ≤ maxDepth := by
  rw [toValue, Value.add_depth_object_le_iff]
  simp [Value.add_depth_ofOption_le_iff, maxDepth]

theorem Finding.fits_iff (f : Finding) :
    2 + f.toValue.depth ≤ maxDepth ↔
      ∀ members, f.context = some members → (Value.object members).depth ≤ 124 := by
  have hcontext : 3 + (Value.ofOption .object f.context).depth ≤ maxDepth ↔
      ∀ members, f.context = some members → (Value.object members).depth ≤ 124 := by
    have hroom (n : Nat) : 3 + n ≤ maxDepth ↔ n ≤ 124 := by
      unfold maxDepth
      omega
    rw [Value.add_depth_ofOption_le_iff]
    simp only [hroom]
    exact and_iff_right (by decide)
  have hbelow : 2 < maxDepth ∧ 3 ≤ maxDepth ∧ 3 < maxDepth ∧ 4 ≤ maxDepth := by decide
  rw [← hcontext, toValue, Value.add_depth_object_le_iff]
  simp [f.citation.fits, RelatedCitation.fits, Value.add_depth_array_le_iff,
    Value.add_depth_ofOption_le_iff, hbelow]

theorem Summary.fits (s : Summary) : 1 + s.toValue.depth ≤ maxDepth := by
  have hbelow : 1 < maxDepth ∧ 2 ≤ maxDepth := by decide
  have hcategories :
      2 + (Value.object (s.categories.map fun m => (m.1.name, .nat m.2))).depth ≤ maxDepth := by
    rw [Value.add_depth_object_le_iff, List.forall_mem_map]
    exact ⟨by decide, fun _ _ => show 3 ≤ maxDepth by decide⟩
  rw [toValue, withCounts, Value.add_depth_object_le_iff]
  simp [hcategories, Value.add_depth_ofOption_le_iff, hbelow]

/-- A document can be read unless a context in it is nested too deeply.  The context is
inside the document, its list of findings, and the finding. -/
theorem Layout.depth_document_le_iff (l : Layout) (c : Collection) :
    (l.document c).depth ≤ maxDepth ↔ ∀ f ∈ c.findings, ∀ members,
      f.context = some members → (Value.object members).depth ≤ 124 := by
  have hbelow : 0 < maxDepth ∧ 1 ≤ maxDepth ∧ 1 < maxDepth := by decide
  rw [← Nat.zero_add (l.document c).depth, document, withSummary, Value.add_depth_object_le_iff]
  simp [Summary.fits, Value.add_depth_array_le_iff, hbelow, Finding.fits_iff]

/-! ## Integers in a document -/

theorem Finding.isIntegral_toValue {f : Finding} (hcontext : ∀ members,
    f.context = some members → (Value.object members).isIntegral = true) :
    f.toValue.isIntegral = true := by
  have hrelated (r : RelatedCitation) : r.toValue.isIntegral = true := by
    simp [RelatedCitation.toValue, isIntegral_text, isIntegral_uint32]
  have hmembers : (Value.ofOption .object f.context).isIntegral = true :=
    Value.isIntegral_ofOption fun members h => hcontext members h
  simp [toValue, isIntegral_text, Citation.isIntegral_toValue, hrelated, hmembers]

theorem Summary.isIntegral_toValue {c : Collection} (hcount : c.size ≤ Literal.maxSignificand) :
    (ofCollection c).toValue.isIntegral = true := by
  have htotal : (Value.nat c.size).isIntegral = true := Value.isIntegral_nat hcount
  have hnumber (p : Finding → Bool) : (Value.nat (c.findings.countP p)).isIntegral = true :=
    Value.isIntegral_nat (Nat.le_trans List.countP_le_length hcount)
  have hcategories : (Value.object ((countCategories c.findings).map
      fun m => (m.1.name, .nat m.2))).isIntegral = true := by
    rw [Value.isIntegral_object, List.forall_mem_map, countCategories_eq_counted]
    rintro ⟨category, n⟩ hmem
    obtain ⟨-, rfl, -⟩ := mem_counted.1 hmem
    exact hnumber _
  have hdialect (o : Option Dialect) :
      (Value.ofOption (fun v => .string v.display) o).isIntegral = true :=
    Value.isIntegral_ofOption (by simp)
  simp [toValue, withCounts, ofCollection, isIntegral_text, hdialect, hnumber, htotal, hcategories]

theorem Layout.isIntegral_document (l : Layout) {c : Collection}
    (hcontexts : ∀ f ∈ c.findings, ∀ members,
      f.context = some members → (Value.object members).isIntegral = true)
    (hcount : c.size ≤ Literal.maxSignificand) : (l.document c).isIntegral = true := by
  have hfindings : ∀ f ∈ c.findings, f.toValue.isIntegral = true := fun f hf =>
    Finding.isIntegral_toValue (hcontexts f hf)
  simpa [document, withSummary, Summary.isIntegral_toValue hcount] using hfindings

/-! ## What is read -/

/-- The categories in the order of their names. -/
def Category.byName : List Category :=
  [.compatibility, .deprecation, .duplicateDefinition, .importError, .other, .semantic, .grammar,
    .templateResolution, .typeMismatch, .undefinedSymbol]

/-- What a reader sees of a finding. -/
def Finding.reading (f : Finding) : Value :=
  .object [
    ("category", .string f.category.name),
    ("code", .ofOption .string f.code),
    ("context", .ofOption (fun members => (Value.object members).canonical) f.context),
    ("documentation_url", .ofOption .string f.advice.link),
    ("fix_suggestions", .array (f.advice.fixes.map .string)),
    ("location", .object [
      ("file", .ofOption .string f.citation.file),
      ("line", .ofOption (fun n => .nat n.toNat) f.citation.line),
      ("location_string", .string f.citation.text)]),
    ("message", .ofOption .string f.message),
    ("related_locations", .array (f.related.map fun r => .object [
      ("file", .ofOption .string r.file),
      ("line", .ofOption (fun n => .nat n.toNat) r.line),
      ("message", .string r.message)])),
    ("severity", .string f.kind.severity.name),
    ("type", .string f.kind.name)]

/-- What a reader sees of the summary of a collection. -/
def Collection.summaryReading (c : Collection) : Value :=
  .object [
    ("dml_version", .ofOption (fun v => .string v.display)
      (c.context.dialect.or (c.findings.findSome? (·.dialect)))),
    ("error_categories", .object <|
      (counted (fun k => c.findings.countP (·.category == k)) Category.byName).map
        fun (k, n) => (k.name, .nat n)),
    ("input_file", .ofOption .string c.context.inputFile),
    ("success", .bool (!c.findings.any (·.kind == .error))),
    ("total_diagnostics", .nat c.findings.length),
    ("total_errors", .nat (c.findings.countP (·.kind == .error))),
    ("total_warnings", .nat (c.findings.countP (·.kind == .warning)))]

/-- What a reader sees of the document of a collection. -/
def Layout.reading (l : Layout) (c : Collection) : Value :=
  .object [
    ("compilation_summary", c.summaryReading),
    ("diagnostics", .array (c.findings.map Finding.reading)),
    ("format_version", .string "1.0"),
    ("generator", .string l.generator)]

theorem Json.Value.canonical_ofOption {α : Type} (toValue : α → Value) (o : Option α) :
    (ofOption toValue o).canonical = ofOption (fun a => (toValue a).canonical) o := by
  cases o <;> rfl

theorem Json.Value.canonical_nat (n : Nat) : (nat n).canonical = nat n := rfl

theorem Citation.canonical_toValue (c : Citation) : c.toValue.canonical = c.toValue := by
  unfold toValue
  simp only [Value.canonical_object, List.map_cons, List.map_nil, Value.canonical_ofOption,
    Value.canonical_nat, Value.canonical_string, Json.Members.sorted, List.foldl_cons,
    List.foldl_nil, Json.Members.insert, String.reduceLT, String.reduceEq, if_false]

theorem RelatedCitation.canonical_toValue (c : RelatedCitation) :
    c.toValue.canonical = c.toValue := by
  unfold toValue
  simp only [Value.canonical_object, List.map_cons, List.map_nil, Value.canonical_ofOption,
    Value.canonical_nat, Value.canonical_string, Json.Members.sorted, List.foldl_cons,
    List.foldl_nil, Json.Members.insert, String.reduceLT, String.reduceEq, if_false]

theorem Finding.canonical_toValue (f : Finding) : f.toValue.canonical = f.reading := by
  have hrelated : (f.related.map RelatedCitation.toValue).map Value.canonical =
      f.related.map RelatedCitation.toValue := by
    rw [List.map_map]
    exact List.map_congr_left fun r _ => r.canonical_toValue
  have hfixes : (f.advice.fixes.map Value.string).map Value.canonical =
      f.advice.fixes.map Value.string := by
    rw [List.map_map]
    rfl
  -- Only the finding itself is put in order here: its context is left as it is.
  rw [toValue, Value.canonical_object]
  simp only [List.map_cons, List.map_nil, Value.canonical_ofOption, Value.canonical_array,
    Value.canonical_string, hrelated, hfixes, f.citation.canonical_toValue,
    Json.Members.sorted, List.foldl_cons, List.foldl_nil, Json.Members.insert, String.reduceLT,
    String.reduceEq, if_true, if_false]
  rfl

/-- Sorting the counts by the names of the categories puts them in the order of the names. -/
theorem sorted_counted (count : Category → Nat) :
    Json.Members.sorted ((counted count Category.all).map fun m => (m.1.name, .nat m.2)) =
      (counted count Category.byName).map fun m => (m.1.name, .nat m.2) := by
  have hperm : Category.all.Perm Category.byName := by decide
  have hnames : Category.byName.Pairwise (·.name < ·.name) := by decide +kernel
  have hcounted := hnames.sublist (map_fst_counted count Category.byName)
  rw [List.pairwise_map] at hcounted
  exact Json.Members.sorted_eq_of_perm ((hperm.filterMap _).map _) (List.pairwise_map.2 hcounted)

theorem Summary.canonical_toValue (c : Collection) :
    (ofCollection c).toValue.canonical = c.summaryReading := by
  have hcategories : (Value.object ((ofCollection c).categories.map
      fun m => (m.1.name, .nat m.2))).canonical =
        .object ((counted (fun k => c.findings.countP (·.category == k)) Category.byName).map
          fun m => (m.1.name, .nat m.2)) := by
    show (Value.object ((countCategories c.findings).map _)).canonical = _
    rw [Value.canonical_object, List.map_map, countCategories_eq_counted]
    exact congrArg _ (sorted_counted _)
  have hsuccess : (ofCollection c).success = !c.findings.any (·.kind == .error) := by
    rw [success, Bool.eq_iff_iff, beq_iff_eq, Bool.not_eq_true', List.any_eq_false]
    exact List.countP_eq_zero
  unfold toValue withCounts
  simp only [Value.canonical_object, List.map_cons, List.map_nil, Value.canonical_string,
    Value.canonical_ofOption, Value.canonical_nat, Value.canonical_bool, hcategories, hsuccess,
    Json.Members.sorted, List.foldl_cons, List.foldl_nil, Json.Members.insert, String.reduceLT,
    String.reduceEq, if_true, if_false]
  rfl

/-- The document of a collection, with the members of all objects in the order of their keys. -/
theorem Layout.canonical_document (l : Layout) (c : Collection) :
    (l.document c).canonical = l.reading c := by
  have hfindings : (c.findings.map Finding.toValue).map Value.canonical =
      c.findings.map Finding.reading := by
    rw [List.map_map]
    exact List.map_congr_left fun f _ => f.canonical_toValue
  unfold document withSummary
  simp only [Value.canonical_object, List.map_cons, List.map_nil, Value.canonical_string,
    Value.canonical_array, Summary.canonical_toValue, hfindings, Json.Members.sorted,
    List.foldl_cons, List.foldl_nil, Json.Members.insert, String.reduceLT, String.reduceEq,
    if_true, if_false]
  rfl

/-! ## Reading a document -/

/-- No context is nested deeper than a reader of the document allows. -/
def Collection.IsShallow (c : Collection) : Prop :=
  ∀ f ∈ c.findings, ∀ members, f.context = some members → (Value.object members).depth ≤ 124

/-- A text reads back as the document of a collection.  It is one whole JSON text, and the
reader gives what it is to see of the document if and only if the contexts are shallow;
otherwise it refuses the text, because it is nested too deeply.  A context with sorted
members is seen as it was captured. -/
structure ReadsBack (l : Layout) (c : Collection) (text : String) : Prop where
  whole : Json.Document.read text.toList = ⟨(l.document c).node, true⟩
  accepted : Json.decodeText Value.decode text = .ok (l.reading c) ↔ c.IsShallow
  refused : ¬c.IsShallow →
    Json.decodeText Value.decode text = .error .malformed ∧ maxDepth < (l.document c).depth
  context : ∀ f ∈ c.findings, ∀ members, f.context = some members →
    (Value.object members).isSorted = true → (Value.object members).canonical = .object members

theorem Layout.decodeText_render (l : Layout) {c : Collection}
    (hintegral : (l.document c).isIntegral = true) :
    Json.decodeText Value.decode (l.render c) =
      if (l.document c).depth ≤ maxDepth then .ok (l.reading c) else .error .malformed := by
  rw [← canonical_document]
  exact Value.decodeText_node (Json.Style.indented_spaced l.indent) hintegral

/-- Every collection is rendered, and its text reads back, unless a context is nested too
deeply; each diagnostic on its own reads back with two levels more.  The number of findings is
one that a 64-bit word can hold. -/
theorem Layout.render_readsBack (l : Layout) {c : Collection}
    (hcontexts : ∀ f ∈ c.findings, ∀ members,
      f.context = some members → (Value.object members).isIntegral = true)
    (hcount : c.size ≤ Literal.maxSignificand) :
    (∃ text, l.serialize c = .ok text ∧ ReadsBack l c text) ∧
      ∀ raw : Diagnostic, (∀ v, raw.context = some v → v.isIntegral = true ∧ v.depth ≤ 126) →
        Json.decodeText Diagnostic.decode raw.toValue.compact = .ok raw.decoded := by
  have hintegral := l.isIntegral_document hcontexts hcount
  have hdecode := l.decodeText_render hintegral
  have hdepth : (l.document c).depth ≤ maxDepth ↔ c.IsShallow := l.depth_document_le_iff c
  refine ⟨⟨l.render c, l.serialize_eq c, ?_, ?_, ?_, ?_⟩, fun raw hraw => ?_⟩
  · rw [render, Value.indented, String.toList_ofList]
    exact Json.Document.read_write (Json.Style.indented_spaced l.indent) hintegral
  · rw [hdecode, ← hdepth]
    by_cases hfits : (l.document c).depth ≤ maxDepth
    · rw [if_pos hfits]
      exact iff_of_true rfl hfits
    · rw [if_neg hfits]
      exact iff_of_false nofun hfits
  · intro hdeep
    rw [hdecode, if_neg (mt hdepth.1 hdeep)]
    exact ⟨rfl, Nat.lt_of_not_le (mt hdepth.1 hdeep)⟩
  · exact fun f _ members _ hsorted => Value.canonical_of_isSorted hsorted
  · refine Diagnostic.decodeText_compact fun v hv => ⟨(hraw v hv).1, ?_⟩
    have := (hraw v hv).2
    unfold maxDepth
    omega

/-- Objects inside of each other, so many in all, around the smallest integer. -/
def nestedContext (depth : Nat) : Value :=
  Nat.repeat (fun v => .object [("é", v)]) depth (.integer (-9223372036854775808))

/-- A context of 124 containers is read back from the document.  One of 125 makes the reader
refuse the text, and one of 126 is no trouble for a diagnostic on its own. -/
theorem Layout.render_readsBack_atLimit :
    let raw (depth : Nat) := (Diagnostic.raise .error "EUNDEF" "\"\n").withContext
      (nestedContext depth)
    let c (depth : Nat) := (Collection.empty .published).add (raw depth)
    let l : Layout := ⟨"\\", 0⟩
    (∃ text, l.serialize (c 124) = .ok text ∧
      Json.decodeText Value.decode text = .ok (l.reading (c 124))) ∧
    (∃ text, l.serialize (c 125) = .ok text ∧
      Json.decodeText Value.decode text = .error .malformed) ∧
    Json.decodeText Diagnostic.decode (raw 126).toValue.compact = .ok (raw 126).decoded := by
  intro raw c l
  have hcontexts (depth : Nat) (hintegral : (nestedContext (depth + 1)).isIntegral = true) :
      ∀ f ∈ (c (depth + 1)).findings, ∀ members,
        f.context = some members → (Value.object members).isIntegral = true := by
    intro f hf members hmembers
    rw [List.mem_singleton.1 hf] at hmembers
    cases hmembers
    exact hintegral
  have hcount : ∀ depth, (c depth).size ≤ Literal.maxSignificand := fun _ => show 1 ≤ _ by decide
  obtain ⟨⟨text, htext, hreads⟩, hraw⟩ :=
    render_readsBack l (hcontexts 123 (by decide +kernel)) (hcount 124)
  obtain ⟨⟨text', htext', hreads'⟩, -⟩ :=
    render_readsBack l (hcontexts 124 (by decide +kernel)) (hcount 125)
  refine ⟨⟨text, htext, hreads.accepted.2 ?_⟩, ⟨text', htext', (hreads'.refused ?_).1⟩,
    hraw (raw 126) fun v hv => ?_⟩
  · intro f hf members hmembers
    rw [List.mem_singleton.1 hf] at hmembers
    cases hmembers
    decide +kernel
  · intro hshallow
    have hfits : (nestedContext 125).depth ≤ 124 := hshallow _ List.mem_cons_self _ rfl
    exact absurd hfits (by decide +kernel)
  · cases hv
    decide +kernel

end DmlReport
