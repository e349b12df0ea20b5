import DmlReport.Proofs.Handbook.Enrichment
import DmlReport.Proofs.Handbook.Links
import DmlReport.Proofs.Taxonomy.Precedence
import Mathlib.Data.List.DropRight

/-!
# Layers of advice

The tables of the handbook stand in two layers: the first row for a code comes before the row
for a category, and a lower layer gives no hints where a higher one does (`Layered`).  The
hints of a layer are kept as they stand, since none is there twice, and the hint about a
method follows them.  The root of the documentation has no part in that and is only put in
front of the page (`advise_layered`).  It is the given URL without the slashes at its end
(`rootOf_withoutSlashes`), so URLs that differ in such slashes make the same handbook
(`under_eq_iff`).
-/

namespace DmlReport.Handbook

open Json (Members)
open CodePattern (AnyFits)

/-! ## Layers -/

/-- No row is about a code.  A missing code is unlisted. -/
def Unlisted (code : Option String) : Prop :=
  ∀ c, code = some c → ∀ row ∈ codeRows, ¬AnyFits row.patterns c

/-- The hints of the tables for a code and a category: those of the first row for the code,
else those of the row for the category, else none. -/
inductive Layered (code : Option String) (category : Category) : List String → Prop
  | code {c : String} {row : CodeRow} {before after : List CodeRow} (hcode : code = some c)
      (hrows : codeRows = before ++ row :: after) (hrow : AnyFits row.patterns c)
      (hbefore : ∀ r ∈ before, ¬AnyFits r.patterns c) : Layered code category row.hints
  | category {row : CategoryRow} (hcode : Unlisted code) (hrow : row ∈ categoryRows)
      (hcategory : row.category = category) : Layered code category row.hints
  | nothing (hcode : Unlisted code) (hnone : ∀ row ∈ categoryRows, row.category ≠ category) :
      Layered code category []

theorem CodeRow.accepts_iff (row : CodeRow) (code : String) :
    row.accepts code = true ↔ AnyFits row.patterns code :=
  CodePattern.any_accepts_iff

theorem codeRow?_eq_some_iff {code : Option String} {row : CodeRow} :
    codeRow? code = some row ↔ ∃ c, code = some c ∧ AnyFits row.patterns c ∧
      ∃ before after, codeRows = before ++ row :: after ∧ ∀ r ∈ before, ¬AnyFits r.patterns c := by
  simp only [codeRow?, Option.bind_eq_some_iff, List.find?_eq_some_iff_append, Bool.not_eq_true',
    ← Bool.not_eq_true, CodeRow.accepts_iff]

theorem codeRow?_eq_none_iff_unlisted {code : Option String} :
    codeRow? code = none ↔ Unlisted code := by
  rw [codeRow?_eq_none_iff]
  simp only [← Bool.not_eq_true, CodeRow.accepts_iff]
  rfl

theorem categoryRow?_category : ∀ row ∈ categoryRows, categoryRow? row.category = some row := by
  simp [categoryRow?, categoryRows]

theorem layered_iff {code : Option String} {category : Category} {hints : List String} :
    Layered code category hints ↔ hints = tableHints code category := by
  unfold tableHints
  constructor
  · intro hlayered
    cases hlayered with
    | code hcode hrows hrow hbefore =>
      rw [codeRow?_eq_some_iff.2 ⟨_, hcode, hrow, _, _, hrows, hbefore⟩]
    | category hcode hrow hcategory =>
      -- A category has one row at most, so the row that is found is the given one.
      subst hcategory
      rw [codeRow?_eq_none_iff_unlisted.2 hcode, categoryRow?_category _ hrow]
      rfl
    | nothing hcode hnone =>
      have hcategory : categoryRow? category = none :=
        List.find?_eq_none.2 fun row hrow => by simpa using hnone row hrow
      rw [codeRow?_eq_none_iff_unlisted.2 hcode, hcategory]
      rfl
  · rintro rfl
    cases hcode : codeRow? code with
    | some row =>
      obtain ⟨c, hc, hrow, before, after, hrows, hbefore⟩ := codeRow?_eq_some_iff.1 hcode
      exact .code hc hrows hrow hbefore
    | none =>
      have hunlisted := codeRow?_eq_none_iff_unlisted.1 hcode
      cases hcategory : categoryRow? category with
      | some row =>
        have hfound := List.find?_some hcategory
        exact .category hunlisted (List.mem_of_find?_eq_some hcategory) (eq_of_beq hfound)
      | none =>
        refine .nothing hunlisted fun row hrow => ?_
        simpa using List.find?_eq_none.1 hcategory row hrow

/-! ## Hints and a page -/

/-- The hint about the method that a context names, if it names one by a text. -/
def methodHints (context : Option Members) : List String :=
  match context.bind (·.get? "method") with
  | some (.string method) => ["Review the definition of method '" ++ method ++ "'"]
  | _ => []

theorem toList_methodHint (context : Option Members) :
    ((method? context).map methodHint).toList = methodHints context := by
  have hmethod : method? context = (context.bind (·.get? "method")).bind (·.asString?) := by
    cases context <;> rfl
  unfold methodHints
  rw [hmethod]
  cases context.bind (·.get? "method") with
  | none => rfl
  | some v => cases v <;> rfl

theorem advise_eq_layers (h : Handbook) (code : Option String) (category : Category)
    (context : Option Members) :
    h.advise code category context =
      ⟨tableHints code category ++ methodHints context,
        (page? code category).map fun page => h.root ++ "/" ++ page⟩ := by
  have hlink : (h.advise code category context).link =
      (page? code category).map fun page => h.root ++ "/" ++ page := rfl
  rw [← toList_methodHint, ← fixes_eq h code category context, ← hlink]

/-! ## Roots -/

/-- A text of slashes only. -/
def slashes (n : Nat) : String :=
  String.ofList (List.replicate n '/')

/-- A root is a URL without the slashes at its end. -/
structure RootOf (url root : String) : Prop where
  url_eq : ∃ n, url = root ++ slashes n
  ends : ∀ s, root ≠ s ++ "/"

theorem dropSlashes_eq (cs : List Char) : dropSlashes cs = cs.rdropWhile (· == '/') := rfl

theorem rootOf_withoutSlashes (url : String) : RootOf url (withoutSlashes url) where
  url_eq := by
    have hslashes : url.toList.rtakeWhile (· == '/') =
        List.replicate (url.toList.rtakeWhile (· == '/')).length '/' := by
      refine List.eq_replicate_of_mem fun c hc => ?_
      simpa using List.mem_rtakeWhile_imp hc
    refine ⟨(url.toList.rtakeWhile (· == '/')).length, String.toList_inj.1 ?_⟩
    rw [slashes, ← hslashes, String.toList_append, String.toList_ofList, toList_withoutSlashes,
      dropSlashes_eq, List.rdropWhile_append_rtakeWhile]
  ends := by
    intro s hs
    -- The last character that stays is none of those that are taken off.
    have hlist : url.toList.rdropWhile (· == '/') = s.toList ++ ['/'] := by
      rw [← dropSlashes_eq, ← toList_withoutSlashes, hs, String.toList_append]
      rfl
    have hlast := List.rdropWhile_last_not (· == '/') url.toList (by simp [hlist])
    simp [hlist] at hlast

theorem withoutSlashes_append_slashes (base : String) (n : Nat) :
    withoutSlashes (base ++ slashes n) = withoutSlashes base := by
  apply String.toList_inj.1
  rw [toList_withoutSlashes, toList_withoutSlashes, String.toList_append, slashes,
    String.toList_ofList]
  exact dropSlashes_append_slashes _ fun c hc => (List.mem_replicate.1 hc).2

theorem withoutSlashes_withoutSlashes (url : String) :
    withoutSlashes (withoutSlashes url) = withoutSlashes url := by
  apply String.toList_inj.1
  rw [toList_withoutSlashes, toList_withoutSlashes]
  exact List.rdropWhile_idempotent _ _

theorem under_eq_iff {url url' : String} :
    under url = under url' ↔ ∃ base n m, url = base ++ slashes n ∧ url' = base ++ slashes m := by
  constructor
  · intro hunder
    have hroot : withoutSlashes url = withoutSlashes url' := congrArg root hunder
    obtain ⟨n, hn⟩ := (rootOf_withoutSlashes url).url_eq
    obtain ⟨m, hm⟩ := (rootOf_withoutSlashes url').url_eq
    exact ⟨withoutSlashes url, n, m, hn, hroot ▸ hm⟩
  · rintro ⟨base, n, m, rfl, rfl⟩
    unfold under
    rw [withoutSlashes_append_slashes, withoutSlashes_append_slashes]

/-- For a code, a category and a context there is one list of hints and at most one page,
whatever the URL that a handbook is under.  The hints are those of one layer of the tables
and then the hint about a method, which no table has; none of them is repeated.  The link is
the page under the root, which is the URL without the slashes at its end; URLs that differ in
those only, and the root itself, make the same handbook. -/
theorem advise_layered (code : Option String) (category : Category)
    (context : Option Members) :
    (∃ fixes,
      (∀ url, (under url).advise code category context =
        ⟨fixes, (page? code category).map fun page => (under url).root ++ "/" ++ page⟩) ∧
      fixes.Nodup ∧
      ∀ hints, Layered code category hints ↔ fixes = hints ++ methodHints context) ∧
    (∀ method, "Review the definition of method '" ++ method ++ "'" ∉ tables) ∧
    (∀ url, RootOf url (under url).root) ∧
    (∀ url url', under url = under url' ↔
      ∃ base n m, url = base ++ slashes n ∧ url' = base ++ slashes m) ∧
    ∀ url, under (under url).root = under url := by
  refine ⟨⟨tableHints code category ++ methodHints context, ?_, ?_, ?_⟩,
    methodHint_notMem_tables, rootOf_withoutSlashes, fun _ _ => under_eq_iff, ?_⟩
  · exact fun url => advise_eq_layers (under url) code category context
  · rw [← toList_methodHint]
    exact nodup_hints code category context
  · intro hints
    rw [layered_iff, List.append_cancel_right_eq]
    exact eq_comm
  · intro url
    exact congrArg Handbook.mk (withoutSlashes_withoutSlashes url)

end DmlReport.Handbook
