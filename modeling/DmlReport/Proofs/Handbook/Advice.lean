import DmlReport.Handbook

/-!
# Hints of an advice

The tables have no hint twice, and a context can name a method, about which one more hint is
given.  No hint of the tables speaks of a method, so that hint is never left out as a
repetition: what is advised is the hints of the tables and then that one (`fixes_eq`), and all
other advice is what it is without a context (`advise_eq`).
-/

namespace DmlReport.Handbook

/-! ## Repetitions -/

theorem foldl_addHint_of_nodup {acc hints : List String} (h : (acc ++ hints).Nodup) :
    hints.foldl addHint acc = acc ++ hints := by
  -- The hints so far and those to come stay the same list, so none is met for a second time.
  induction hints generalizing acc with
  | nil => exact (List.append_nil acc).symm
  | cons hint hints ih =>
    have hnew : hint ∉ acc := by
      intro hmem
      exact (List.nodup_append.1 h).2.2 hint hmem hint List.mem_cons_self rfl
    have hadd : addHint acc hint = acc ++ [hint] := if_neg (by simpa using hnew)
    have hsplit : acc ++ hint :: hints = acc ++ [hint] ++ hints := by
      rw [List.append_assoc, List.singleton_append]
    rw [hsplit] at h ⊢
    rw [List.foldl_cons, hadd, ih h]

theorem code_hints_nodup : ∀ row ∈ codeRows, row.hints.Nodup := by
  decide

theorem category_hints_nodup : ∀ row ∈ categoryRows, row.hints.Nodup := by
  decide

theorem tableHints_cases (code : Option String) (category : Category) :
    (∃ row ∈ codeRows, tableHints code category = row.hints) ∨
      (∃ row ∈ categoryRows, tableHints code category = row.hints) ∨
      tableHints code category = [] := by
  unfold tableHints
  cases hcode : codeRow? code with
  | some row =>
    obtain ⟨code, -, hfind⟩ := Option.bind_eq_some_iff.1 hcode
    exact Or.inl ⟨row, List.mem_of_find?_eq_some hfind, rfl⟩
  | none =>
    cases hcategory : categoryRow? category with
    | some row => exact Or.inr (Or.inl ⟨row, List.mem_of_find?_eq_some hcategory, rfl⟩)
    | none => exact Or.inr (Or.inr rfl)

theorem nodup_tableHints (code : Option String) (category : Category) :
    (tableHints code category).Nodup := by
  rcases tableHints_cases code category with ⟨row, hrow, heq⟩ | ⟨row, hrow, heq⟩ | heq
  · exact heq ▸ code_hints_nodup row hrow
  · exact heq ▸ category_hints_nodup row hrow
  · exact heq ▸ List.nodup_nil

/-! ## The hint about a method -/

/-- The hints of all tables. -/
def tables : List String :=
  codeRows.flatMap (·.hints) ++ categoryRows.flatMap (·.hints)

theorem mem_tables {code : Option String} {category : Category} {hint : String}
    (h : hint ∈ tableHints code category) : hint ∈ tables := by
  rcases tableHints_cases code category with ⟨row, hrow, heq⟩ | ⟨row, hrow, heq⟩ | heq
  · exact List.mem_append_left _ (List.mem_flatMap.2 ⟨row, hrow, heq ▸ h⟩)
  · exact List.mem_append_right _ (List.mem_flatMap.2 ⟨row, hrow, heq ▸ h⟩)
  · rw [heq] at h
    cases h

/-- The bytes that a hint about a method starts with.  Bytes compare faster than characters,
which have to be decoded. -/
def aboutMethod : List UInt8 :=
  "Review the definition of method '".toByteArray.data.toList

theorem not_aboutMethod : ∀ hint ∈ tables, ¬aboutMethod <+: hint.toByteArray.data.toList := by
  decide +kernel

theorem methodHint_aboutMethod (method : String) :
    aboutMethod <+: (methodHint method).toByteArray.data.toList := by
  have hhint : methodHint method = "Review the definition of method '" ++ (method ++ "'") :=
    String.append_assoc
  rw [hhint, String.toByteArray_append, ByteArray.data_append, Array.toList_append]
  exact List.prefix_append _ _

theorem methodHint_notMem_tables (method : String) : methodHint method ∉ tables := by
  intro hmem
  exact not_aboutMethod _ hmem (methodHint_aboutMethod method)

theorem nodup_hints (code : Option String) (category : Category)
    (context : Option Json.Members) :
    (tableHints code category ++ ((method? context).map methodHint).toList).Nodup := by
  refine List.nodup_append.2 ⟨nodup_tableHints code category, ?_, ?_⟩
  · cases method? context <;> simp
  · rintro hint hmem _ hmethod rfl
    obtain ⟨method, -, rfl⟩ := Option.map_eq_some_iff.1 (Option.mem_toList.1 hmethod)
    exact methodHint_notMem_tables method (mem_tables hmem)

/-! ## Advice -/

theorem fixes_eq (h : Handbook) (code : Option String) (category : Category)
    (context : Option Json.Members) :
    (h.advise code category context).fixes =
      tableHints code category ++ ((method? context).map methodHint).toList :=
  foldl_addHint_of_nodup (nodup_hints code category context)

/-- A context changes advice only by a hint at the end about the method that it names. -/
theorem advise_eq (h : Handbook) (code : Option String) (category : Category)
    (context : Option Json.Members) :
    h.advise code category context =
      { h.advise code category none with
        fixes := (h.advise code category none).fixes ++
          ((method? context).map methodHint).toList } := by
  have hnone : (h.advise code category none).fixes = tableHints code category := by
    rw [fixes_eq]
    exact List.append_nil _
  rw [hnone]
  exact congrArg (fun fixes => Advice.mk fixes _) (h.fixes_eq code category context)

end DmlReport.Handbook
