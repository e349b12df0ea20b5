import DmlReport.Summary
import Mathlib.Algebra.BigOperators.Group.List.Basic
import Mathlib.Algebra.GroupWithZero.Nat

/-!
# Counts by category

The findings of a compilation are counted one by one, and each of them changes one entry of
the counts.  Counts in the order of the categories stand for a number for each category,
with no entry for zero (`counted`).  One more finding adds one to the number of its category
and leaves the others (`modifyCount_counted`), so after all of them the counts stand for the
numbers of findings in the categories (`countCategories_eq_counted`).
-/

namespace List

variable {α β : Type} [DecidableEq β]

theorem sum_indicator {keys : List β} (hkeys : keys.Nodup) (b : β) :
    (keys.map fun k => if b == k then 1 else 0).sum = if b ∈ keys then 1 else 0 := by
  induction keys with
  | nil => rfl
  | cons k keys ih =>
    obtain ⟨hk, hkeys⟩ := nodup_cons.1 hkeys
    rw [map_cons, sum_cons, ih hkeys]
    by_cases hb : b = k
    · subst hb
      simp [hk]
    · simp [hb]

/-- The numbers of elements of each sort add up to the number of elements. -/
theorem sum_countP (sort : α → β) {keys : List β} (hkeys : keys.Nodup)
    (hall : ∀ a, sort a ∈ keys) (as : List α) :
    (keys.map fun k => as.countP (sort · == k)).sum = as.length := by
  induction as with
  | nil => simp
  | cons a as ih =>
    simp only [countP_cons, sum_map_add, ih, sum_indicator hkeys, hall, if_true, length_cons]

end List

namespace DmlReport

/-! ## Numbers for elements -/

section

variable {α : Type}

/-- The elements of a list that have a count, with their counts. -/
def counted (count : α → Nat) (as : List α) : List (α × Nat) :=
  as.filterMap fun a => if count a = 0 then none else some (a, count a)

theorem mem_counted {count : α → Nat} {as : List α} {a : α} {n : Nat} :
    (a, n) ∈ counted count as ↔ a ∈ as ∧ n = count a ∧ 0 < n := by
  unfold counted
  rw [List.mem_filterMap]
  constructor
  · rintro ⟨a', ha', heq⟩
    split at heq
    · cases heq
    · cases heq
      exact ⟨ha', rfl, by omega⟩
  · rintro ⟨ha, rfl, hn⟩
    exact ⟨a, ha, if_neg (by omega)⟩

theorem counted_cons_of_zero {count : α → Nat} {a : α} (as : List α) (ha : count a = 0) :
    counted count (a :: as) = counted count as := by
  rw [counted, List.filterMap_cons, if_pos ha]
  rfl

theorem counted_cons_of_ne {count : α → Nat} {a : α} (as : List α) (ha : count a ≠ 0) :
    counted count (a :: as) = (a, count a) :: counted count as := by
  rw [counted, List.filterMap_cons, if_neg ha]
  rfl

theorem counted_congr {count count' : α → Nat} {as : List α}
    (h : ∀ a ∈ as, count a = count' a) : counted count as = counted count' as := by
  refine List.filterMap_congr fun a ha => ?_
  rw [h a ha]

theorem map_fst_counted (count : α → Nat) (as : List α) :
    ((counted count as).map Prod.fst).Sublist as := by
  induction as with
  | nil => exact List.Sublist.slnil
  | cons a as ih =>
    by_cases ha : count a = 0
    · rw [counted_cons_of_zero as ha]
      exact ih.cons a
    · rw [counted_cons_of_ne as ha]
      exact ih.cons_cons a

theorem sum_counted (count : α → Nat) (as : List α) :
    ((counted count as).map Prod.snd).sum = (as.map count).sum := by
  induction as with
  | nil => rfl
  | cons a as ih =>
    rw [List.map_cons, List.sum_cons, ← ih]
    by_cases ha : count a = 0
    · rw [counted_cons_of_zero as ha, ha, Nat.zero_add]
    · rw [counted_cons_of_ne as ha, List.map_cons, List.sum_cons]

end

/-! ## Counting findings -/

theorem Category.mem_all (c : Category) : c ∈ all := by
  cases c <;> decide

namespace Summary

/-- A category before all others gets the first place. -/
theorem modifyCount_of_before {change : Nat → Nat} {category : Category}
    {counts : List (Category × Nat)} (h : ∀ m ∈ counts, category.index < m.1.index) :
    modifyCount change category counts = (category, change 0) :: counts := by
  cases counts with
  | nil => rfl
  | cons m counts => rw [modifyCount, if_pos (h m List.mem_cons_self)]

/-- One more finding adds one to the number of its category, and leaves the others. -/
theorem modifyCount_counted {count count' : Category → Nat} {category : Category}
    (hcount : ∀ c, count' c = count c + if category = c then 1 else 0)
    {keys : List Category} (hkeys : keys.Pairwise fun c c' => c.index < c'.index)
    (hcategory : category ∈ keys) :
    modifyCount (· + 1) category (counted count keys) = counted count' keys := by
  have hone : count' category = count category + 1 := by rw [hcount, if_pos rfl]
  have hsame {c : Category} (hne : category ≠ c) : count' c = count c := by
    rw [hcount, if_neg hne, Nat.add_zero]
  induction keys with
  | nil => cases hcategory
  | cons k keys ih =>
    obtain ⟨hk, hkeys⟩ := List.pairwise_cons.1 hkeys
    by_cases heq : category = k
    · subst heq
      -- The other categories come later, so they are others.
      have hrest : counted count' keys = counted count keys := by
        refine counted_congr fun c hc => hsame fun h => ?_
        exact Nat.lt_irrefl _ (h ▸ hk c hc)
      rw [counted_cons_of_ne keys (by omega : count' category ≠ 0), hrest, hone]
      by_cases hzero : count category = 0
      · rw [counted_cons_of_zero keys hzero, modifyCount_of_before, hzero]
        rintro ⟨c, n⟩ hmem
        exact hk c (mem_counted.1 hmem).1
      · rw [counted_cons_of_ne keys hzero, modifyCount, if_neg (Nat.lt_irrefl _), if_pos rfl]
    · have hmem : category ∈ keys := (List.mem_cons.1 hcategory).resolve_left heq
      by_cases hzero : count k = 0
      · rw [counted_cons_of_zero keys hzero,
          counted_cons_of_zero keys ((hsame heq).trans hzero), ih hkeys hmem]
      · rw [counted_cons_of_ne keys hzero, counted_cons_of_ne keys (by rwa [hsame heq]),
          hsame heq, modifyCount, if_neg (Nat.lt_asymm (hk category hmem)), if_neg heq,
          ih hkeys hmem]

/-- Counting on adds to the numbers that were there the numbers of further findings. -/
theorem foldl_modifyCount (findings : List Finding) (count : Category → Nat) :
    findings.foldl (fun counts f => modifyCount (· + 1) f.category counts)
        (counted count Category.all) =
      counted (fun c => count c + findings.countP (·.category == c)) Category.all := by
  induction findings generalizing count with
  | nil => rfl
  | cons f findings ih =>
    rw [List.foldl_cons, modifyCount_counted (fun c => rfl) (by decide) f.category.mem_all, ih]
    refine counted_congr fun c _ => ?_
    simp only [List.countP_cons, beq_iff_eq]
    omega

/-- The counts have, in the order of the categories, each category that occurs among the
findings with the number of its findings. -/
theorem countCategories_eq_counted (findings : List Finding) :
    countCategories findings =
      counted (fun c => findings.countP (·.category == c)) Category.all := by
  have hfold := foldl_modifyCount findings fun _ => 0
  simp only [Nat.zero_add] at hfold
  exact hfold

end Summary

end DmlReport
