import DmlReport.Proofs.Command.Simulation
import DmlReport.Proofs.Storage.Replacement

/-!
# Steps do not ask what is in a file

Two trees have the same shape if they have directories and files at the same places,
whatever is in the files.  Paths then lead to the same places in both, and a step fails in
both for one reason or succeeds in both and keeps them in one shape
(`Tree.SameShape.perform`).  Two disks of the same shape are to fail alike as well.  Steps
simulate each other on them (`Disk.SameShape.simulates`), and so does the end of a replay.
-/

namespace DmlReport

def Entry.isDirectory : Entry → Bool
  | .directory => true
  | .file _ => false

namespace Tree

/-- Two trees differ in the contents of files only. -/
structure SameShape (t t' : Tree) : Prop where
  home : t.home = t'.home
  entries : ∀ place, (t.get? place).map Entry.isDirectory = (t'.get? place).map Entry.isDirectory

/-- A step on two trees fails for one reason, or leaves trees of the same shape. -/
inductive SameStep : Except Failure Tree → Except Failure Tree → Prop
  | failed (e : Failure) : SameStep (.error e) (.error e)
  | done {t t' : Tree} (h : SameShape t t') : SameStep (.ok t) (.ok t')

namespace SameShape

variable {t t' : Tree}

theorem refl (t : Tree) : SameShape t t :=
  ⟨rfl, fun _ => rfl⟩

/-- What two trees of the same shape have at a place. -/
theorem get?_cases (h : SameShape t t') (place : Place) :
    t.get? place = none ∧ t'.get? place = none ∨
      t.get? place = some .directory ∧ t'.get? place = some .directory ∨
      ∃ contents contents', t.get? place = some (.file contents) ∧
        t'.get? place = some (.file contents') := by
  have hentries := h.entries place
  generalize t.get? place = e, t'.get? place = e' at hentries ⊢
  rcases e with _ | _ | contents <;> rcases e' with _ | _ | contents'
  case none.none => exact Or.inl ⟨rfl, rfl⟩
  case some.directory.some.directory => exact Or.inr (Or.inl ⟨rfl, rfl⟩)
  case some.file.some.file => exact Or.inr (Or.inr ⟨contents, contents', rfl, rfl⟩)
  all_goals cases hentries

theorem directory_iff (h : SameShape t t') (place : Place) :
    t.get? place = some .directory ↔ t'.get? place = some .directory := by
  rcases h.get?_cases place with ⟨hg, hg'⟩ | ⟨hg, hg'⟩ | ⟨_, _, hg, hg'⟩ <;> simp [hg, hg']

/-! ## Paths -/

theorem follow_eq (h : SameShape t t') (place : Place) (segment : List Char) :
    t.follow place segment = t'.follow place segment := by
  unfold follow
  rcases h.get?_cases place with ⟨hg, hg'⟩ | ⟨hg, hg'⟩ | ⟨_, _, hg, hg'⟩ <;> rw [hg, hg']

theorem followAll_eq (h : SameShape t t') (place : Place) (segments : List (List Char)) :
    t.followAll place segments = t'.followAll place segments := by
  induction segments generalizing place with
  | nil => rfl
  | cons segment rest ih =>
    rw [followAll, followAll, h.follow_eq]
    cases t'.follow place segment with
    | ok next => exact ih next
    | error e => rfl

theorem resolve_eq (h : SameShape t t') (p : Path) : t.resolve p = t'.resolve p := by
  unfold resolve
  rw [h.home]
  simp only [h.followAll_eq]

/-! ## Entries after a change -/

theorem set (h : SameShape t t') {place : Place} (hplace : place ≠ [])
    (contents contents' : List UInt8) :
    SameShape (t.set place (.file contents)) (t'.set place (.file contents')) := by
  refine ⟨h.home, fun other => ?_⟩
  rw [get?_set t hplace, get?_set t' hplace]
  split
  · rfl
  · exact h.entries other

theorem erase (h : SameShape t t') {place : Place} (hplace : place ≠ []) :
    SameShape (t.erase place) (t'.erase place) := by
  refine ⟨h.home, fun other => ?_⟩
  rw [get?_erase t hplace, get?_erase t' hplace]
  split
  · rfl
  · exact h.entries other

/-! ## Steps -/

theorem create (h : SameShape t t') (p : Path) : SameStep (t.create p) (t'.create p) := by
  unfold Tree.create
  rw [h.resolve_eq]
  cases t'.resolve p with
  | error e => exact .failed e
  | ok place =>
    simp only [h.directory_iff place]
    split
    · exact .failed _
    · rename_i hfree
      simp only [Bool.or_eq_true, decide_eq_true_eq, not_or] at hfree
      exact .done (h.set (ne_root_of_no_directory hfree.2) _ _)

theorem write (h : SameShape t t') (p : Path) (contents : List UInt8) :
    SameStep (t.write p contents) (t'.write p contents) := by
  unfold Tree.write
  rw [h.resolve_eq]
  cases t'.resolve p with
  | error e => exact .failed e
  | ok place =>
    rcases h.get?_cases place with ⟨hg, hg'⟩ | ⟨hg, hg'⟩ | ⟨_, _, hg, hg'⟩
    · simp only [hg, hg']
      exact .failed _
    · simp only [hg, hg']
      exact .failed _
    · have hroot : place ≠ [] := ne_root_of_no_directory (t := t) (by simp [hg])
      simp only [hg, hg']
      exact .done (h.set hroot _ _)

theorem rename (h : SameShape t t') (source target : Path) :
    SameStep (t.rename source target) (t'.rename source target) := by
  unfold Tree.rename
  rw [h.resolve_eq, h.resolve_eq]
  cases t'.resolve source with
  | error e => exact .failed e
  | ok old =>
    cases t'.resolve target with
    | error e => exact .failed e
    | ok new =>
      dsimp only
      split
      · exact .failed _
      · rcases h.get?_cases old with ⟨hg, hg'⟩ | ⟨hg, hg'⟩ | ⟨_, _, hg, hg'⟩
        · simp only [hg, hg']
          exact .failed _
        · simp only [hg, hg']
          exact .failed _
        · have hold : old ≠ [] := ne_root_of_no_directory (t := t) (by simp [hg])
          simp only [hg, hg', h.directory_iff new]
          split
          · exact .failed _
          · split
            · exact .failed _
            · rename_i hnew
              exact .done ((h.erase hold).set (ne_root_of_no_directory hnew) _ _)

theorem remove (h : SameShape t t') (p : Path) : SameStep (t.remove p) (t'.remove p) := by
  unfold Tree.remove
  rw [h.resolve_eq]
  cases t'.resolve p with
  | error e => exact .failed e
  | ok place =>
    rcases h.get?_cases place with ⟨hg, hg'⟩ | ⟨hg, hg'⟩ | ⟨_, _, hg, hg'⟩
    · simp only [hg, hg']
      exact .failed _
    · simp only [hg, hg']
      exact .failed _
    · have hroot : place ≠ [] := ne_root_of_no_directory (t := t) (by simp [hg])
      simp only [hg, hg']
      exact .done (h.erase hroot)

theorem perform (h : SameShape t t') (step : FileStep) :
    SameStep (t.perform step) (t'.perform step) := by
  cases step with
  | create p => exact h.create p
  | write p contents => exact h.write p _
  | sync p => exact .done h
  | rename source target => exact h.rename source target
  | remove p => exact h.remove p

/-- A write that breaks off keeps the shape, however much it has put down. -/
theorem leaves (h : SameShape t t') (x : Mishap) (step : FileStep) :
    SameShape (x.leaves t step) (x.leaves t' step) := by
  cases step with
  | write p contents =>
    have hwrite := h.write p (contents.toUTF8.data.toList.take x.written)
    unfold Mishap.leaves
    dsimp only
    generalize t.write p _ = r, t'.write p _ = r' at hwrite ⊢
    cases hwrite with
    | failed e => exact h
    | done hdone => exact hdone
  | create | sync | rename | remove => exact h

theorem attempt (h : SameShape t t') (step : FileStep) (x : Option Mishap) :
    (t.attempt step x).1 = (t'.attempt step x).1 ∧
      SameShape (t.attempt step x).2 (t'.attempt step x).2 := by
  cases x with
  | some x => exact ⟨rfl, h.leaves x step⟩
  | none =>
    have hperform := h.perform step
    unfold Tree.attempt
    dsimp only
    generalize t.perform step = r, t'.perform step = r' at hperform ⊢
    cases hperform with
    | failed e => exact ⟨rfl, h⟩
    | done hdone => exact ⟨rfl, hdone⟩

end SameShape

end Tree

namespace Disk

/-- Two disks have trees of the same shape and are to fail alike. -/
structure SameShape (d d' : Disk) : Prop where
  tree : d.tree.SameShape d'.tree
  denials : d.denials = d'.denials
  mishaps : d.mishaps = d'.mishaps

namespace SameShape

theorem refl (d : Disk) : SameShape d d :=
  ⟨.refl d.tree, rfl, rfl⟩

theorem simulates (step : FileStep) :
    Simulates SameShape (store.perform step) (store.perform step) := by
  intro d d' h
  obtain ⟨hresult, htree⟩ := h.tree.attempt step d'.mishaps.head?.join
  show (d.perform step).1 = (d'.perform step).1 ∧
    SameShape (d.perform step).2 (d'.perform step).2
  unfold perform
  rw [h.mishaps]
  exact ⟨hresult, htree, h.denials, rfl⟩

end SameShape

end Disk

end DmlReport
