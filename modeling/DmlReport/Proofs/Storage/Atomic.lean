import DmlReport.Proofs.Document.Rendering
import DmlReport.Proofs.Storage.Replacement
import DmlReport.Proofs.Storage.Staging

/-!
# Exports are atomic

Whichever steps of an export fail, nobody who looks at its path ever sees a part of
a document: after every step the path holds what it held before or the whole
document (`Layout.exportTo_atomic`).  Up to the step that renames the staged file,
only the staged file changes (`Disk.replace_course`), and that is at another place
(`Tree.staging_place_ne`).
-/

namespace DmlReport

namespace Tree

variable {t t' : Tree} {path : Path}

/-- What a path leads to. -/
def at? (t : Tree) (p : Path) : Option Entry :=
  match t.resolve p with
  | .ok place => t.get? place
  | .error _ => none

theorem at?_of_resolve {place : Place} (h : t.resolve path = .ok place) :
    t.at? path = t.get? place := by
  rw [at?, h]

/-- A path leads to the same entry as before if nothing has changed at its place. -/
theorem Changes.at?_eq {touched : Place → Prop} (h : t.Changes touched t')
    (hpath : ∀ place, t.resolve path = .ok place → ¬ touched place) :
    t'.at? path = t.at? path := by
  unfold at?
  cases hp : t.resolve path with
  | ok place =>
    rw [(h.resolve_iff path place).2 hp]
    exact h.get?_eq place (hpath place hp)
  | error e =>
    cases hp' : t'.resolve path with
    | ok place =>
      rw [(h.resolve_iff path place).1 hp'] at hp
      cases hp
    | error e' => rfl

/-- Nothing but the file at the staging path of a path has changed. -/
def Staged (path : Path) (t t' : Tree) : Prop :=
  t.Changes (t.LedTo [path.staging]) t'

/-- What is staged for a path does not show there. -/
theorem Staged.at?_eq (h : Staged path t t') : t'.at? path = t.at? path := by
  refine Changes.at?_eq h fun place hplace => ?_
  rintro ⟨p, hp, hsource⟩
  rw [List.mem_singleton.1 hp] at hsource
  exact staging_place_ne hsource hplace rfl

/-- After a file was moved, its new path leads to it and its old path to nothing. -/
theorem at?_of_rename {source target : Path} {contents : List UInt8}
    (h : t.rename source target = .ok t') (hfile : t.at? source = some (.file contents))
    (hne : ∀ old new, t.resolve source = .ok old → t.resolve target = .ok new → old ≠ new) :
    t'.at? target = some (.file contents) ∧ t'.at? source = none := by
  obtain ⟨old, new, moved, hold, hnew, hget, hfree, -, heq⟩ := rename_cases h
  rw [at?_of_resolve hold, hget] at hfile
  cases hfile
  have hkept : t.Changes (t.LedTo [source, target]) t' :=
    @Changes.of_perform t t' (.rename source target) h
  have hroot : new ≠ [] := ne_root_of_no_directory hfree
  have hroot' : old ≠ [] := ne_root_of_no_directory (t := t) (by simp [hget])
  rw [at?_of_resolve ((hkept.resolve_iff target new).2 hnew),
    at?_of_resolve ((hkept.resolve_iff source old).2 hold), heq]
  refine ⟨by rw [get?_set _ hroot, if_pos rfl], ?_⟩
  rw [get?_set _ hroot, if_neg (hne old new hold hnew), get?_erase _ hroot', if_pos rfl]

end Tree

namespace Disk

variable {d d' : Disk} {path : Path} {contents : String}

/-! ## Mishaps and trials -/

theorem perform_mishaps (d : Disk) (step : FileStep) :
    (d.perform step).2.mishaps = d.mishaps.tail := rfl

/-- A step that fails has changed nothing, unless it is a write. -/
theorem perform_error {e : Failure} {step : FileStep} (h : d.perform step = (.error e, d'))
    (hstep : ∀ p contents, step ≠ .write p contents) : d'.tree = d.tree := by
  unfold perform Tree.attempt at h
  cases hx : d.mishaps.head?.join with
  | some x =>
    have hleaves : x.leaves d.tree step = d.tree := by
      cases step with
      | write p contents => exact absurd rfl (hstep p contents)
      | _ => rfl
    simp only [hx, hleaves, Prod.mk.injEq] at h
    rw [← h.2]
  | none =>
    cases ht : d.tree.perform step with
    | ok t => simp [hx, ht] at h
    | error e' =>
      simp only [hx, ht, Prod.mk.injEq] at h
      rw [← h.2]

/-- Whatever the tree says, no file is left by a removal to which no mishap comes. -/
theorem get?_of_remove {p : Path} {place : Place}
    (h : (d.perform (.remove p)).1 = .ok () ∨ d.mishaps.head?.join = none)
    (hplace : d.tree.resolve p = .ok place) (contents : List UInt8) :
    (d.perform (.remove p)).2.tree.get? place ≠ some (.file contents) := by
  rcases hp : d.perform (.remove p) with ⟨e | ⟨⟩, d'⟩
  · -- The tree has refused the removal: there is no file at the place.
    rw [hp] at h
    have hnone := h.resolve_left nofun
    have htree := perform_error hp nofun
    have hrefused : ∃ e, d.tree.remove p = .error e := by
      unfold perform Tree.attempt at hp
      rw [hnone] at hp
      cases ht : d.tree.perform (.remove p) with
      | ok t => simp [ht] at hp
      | error e' => exact ⟨e', ht⟩
    obtain ⟨e', hrefused⟩ := hrefused
    intro hget
    simp only [htree] at hget
    unfold Tree.remove at hrefused
    simp only [hplace, hget] at hrefused
    cases hrefused
  · have hremoved : d.tree.remove p = .ok d'.tree := perform_ok hp
    obtain ⟨place', old, hplace', hget, heq⟩ := Tree.remove_cases hremoved
    cases hplace.symm.trans hplace'
    have hroot : place ≠ [] := Tree.ne_root_of_no_directory (t := d.tree) (by simp [hget])
    simp only [heq]
    rw [Tree.get?_erase _ hroot, if_pos rfl]
    nofun

/-! ## The course of a replacement -/

theorem performAll_append_ok {before after : List FileStep}
    (h : store.performAll before d = (.ok (), d')) :
    store.performAll (before ++ after) d = store.performAll after d' := by
  induction before generalizing d with
  | nil =>
    cases h
    rfl
  | cons step rest ih =>
    obtain ⟨next, hstep, hrest⟩ := performAll_cons_cases h
    rw [List.cons_append, performAll_cons_ok hstep]
    exact ih hrest

theorem performAll_append_error {before after : List FileStep} {e : Failure}
    (h : store.performAll before d = (.error e, d')) :
    store.performAll (before ++ after) d = (.error e, d') := by
  induction before generalizing d with
  | nil => cases h
  | cons step rest ih =>
    rw [List.cons_append]
    rcases hp : d.perform step with ⟨e' | ⟨⟩, next⟩
    · rw [performAll_cons_error hp] at h ⊢
      exact h
    · rw [performAll_cons_ok hp] at h ⊢
      exact ih h

/-- Since a disk was in an earlier state, steps were tried that have changed nothing
but the staged file of a path. -/
structure OnlyStaged (path : Path) (d d' : Disk) (trials : List Trial) : Prop where
  trials_eq : d'.trials = d.trials ++ trials
  mishaps_eq : d'.mishaps = d.mishaps.drop trials.length
  staged : d.tree.Staged path d'.tree
  observed : ∀ x ∈ trials, d.tree.Staged path x.tree

namespace OnlyStaged

theorem refl (path : Path) (d : Disk) : OnlyStaged path d d [] where
  trials_eq := (List.append_nil _).symm
  mishaps_eq := rfl
  staged := .refl _ _
  observed := by simp

theorem snoc {trials : List Trial} (h : OnlyStaged path d d' trials) {step : FileStep}
    (hstaged : d.tree.Staged path (d'.perform step).2.tree) :
    OnlyStaged path d (d'.perform step).2
      (trials ++ [⟨step, (d'.perform step).1, (d'.perform step).2.tree⟩]) where
  trials_eq := by rw [perform_trials, h.trials_eq, List.append_assoc]
  mishaps_eq := by
    rw [perform_mishaps, h.mishaps_eq, List.tail_drop, List.length_append, List.length_singleton]
  staged := hstaged
  observed x hx := by
    rcases List.mem_append.1 hx with hx | hx
    · exact h.observed x hx
    · rw [List.mem_singleton.1 hx]
      exact hstaged

theorem perform {trials : List Trial} (h : OnlyStaged path d d' trials) {step : FileStep}
    (hpaths : step.paths = [path.staging]) :
    OnlyStaged path d (d'.perform step).2
      (trials ++ [⟨step, (d'.perform step).1, (d'.perform step).2.tree⟩]) := by
  have hstep := perform_changes d' step
  rw [hpaths] at hstep
  exact h.snoc (h.staged.trans_ledTo hstep)

theorem performAll {steps : List FileStep} {trials : List Trial}
    (h : OnlyStaged path d d' trials) (hpaths : ∀ s ∈ steps, s.paths = [path.staging]) :
    ∃ later, OnlyStaged path d (store.performAll steps d').2 (trials ++ later) := by
  induction steps generalizing d' trials with
  | nil =>
    rw [performAll_nil]
    exact ⟨[], by rwa [List.append_nil]⟩
  | cons step rest ih =>
    have hnext := h.perform (hpaths step List.mem_cons_self)
    rcases hp : d'.perform step with ⟨e | ⟨⟩, next⟩
    · rw [hp] at hnext
      rw [performAll_cons_error hp]
      exact ⟨_, hnext⟩
    · rw [hp] at hnext
      rw [performAll_cons_ok hp]
      obtain ⟨later, hlater⟩ := ih hnext fun s hs => hpaths s (List.mem_cons_of_mem _ hs)
      exact ⟨_, by rwa [List.append_assoc] at hlater⟩

end OnlyStaged

/-- A text that was staged and synced is whole. -/
theorem at?_of_staged {path : Path} {contents : String} {d d₁ : Disk}
    (h : store.performAll [.create path.staging, .write path.staging contents,
      .sync path.staging] d = (.ok (), d₁)) :
    d₁.tree.at? path.staging = some (.file (storedBytes contents)) := by
  obtain ⟨created, -, h⟩ := performAll_cons_cases h
  obtain ⟨written, hwrite, h⟩ := performAll_cons_cases h
  obtain ⟨synced, hsync, h⟩ := performAll_cons_cases h
  cases h
  have hwritten : created.tree.write path.staging (storedBytes contents) = .ok written.tree :=
    perform_ok hwrite
  have hsame : written.tree = d₁.tree := Except.ok.inj (perform_ok hsync)
  obtain ⟨place, hplace, hget⟩ := Tree.get?_of_write hwritten
  rw [hsame] at hplace hget
  exact (Tree.at?_of_resolve hplace).trans hget

/-- Putting a text at a path stages it first.  Then either something has failed and
the staged file is removed, or the staged file is whole and takes its place. -/
theorem replace_course (path : Path) (contents : String) (d : Disk) :
    ∃ d₁ trials, OnlyStaged path d d₁ trials ∧
      ((∃ e, store.replace path contents d = (.error e, (d₁.perform (.remove path.staging)).2)) ∨
        ∃ d₂, d₁.tree.at? path.staging = some (.file (storedBytes contents)) ∧
          d₁.perform (.rename path.staging path) = (.ok (), d₂) ∧
          store.replace path contents d = (.ok (), d₂)) := by
  have hsplit : Store.replacement path contents =
      [.create path.staging, .write path.staging contents, .sync path.staging] ++
        [.rename path.staging path] := rfl
  have hpaths : ∀ step ∈ [FileStep.create path.staging, .write path.staging contents,
      .sync path.staging], step.paths = [path.staging] := by
    simp [FileStep.paths]
  obtain ⟨trials, hstaged⟩ := (OnlyStaged.refl path d).performAll hpaths
  rw [List.nil_append] at hstaged
  rcases hp : store.performAll
    [.create path.staging, .write path.staging contents, .sync path.staging] d
    with ⟨e | ⟨⟩, d₁⟩
  · rw [hp] at hstaged
    exact ⟨d₁, trials, hstaged,
      Or.inl ⟨e, replace_error (by rw [hsplit, performAll_append_error hp])⟩⟩
  · rw [hp] at hstaged
    have hall : store.performAll (Store.replacement path contents) d =
        store.performAll [.rename path.staging path] d₁ := by
      rw [hsplit, performAll_append_ok hp]
    rcases hr : d₁.perform (.rename path.staging path) with ⟨e | ⟨⟩, d₂⟩
    · have htree : d₂.tree = d₁.tree := perform_error hr (by simp)
      have hkept : d.tree.Staged path (d₁.perform (.rename path.staging path)).2.tree := by
        rw [hr, htree]
        exact hstaged.staged
      have hsnoc := hstaged.snoc hkept
      rw [hr] at hsnoc
      exact ⟨d₂, _, hsnoc, Or.inl ⟨e, replace_error (by rw [hall, performAll_cons_error hr])⟩⟩
    · have hreplaced := replace_ok (by rw [hall, performAll_cons_ok hr, performAll_nil])
      exact ⟨d₁, trials, hstaged, Or.inr ⟨d₂, at?_of_staged hp, hr, hreplaced⟩⟩

/-! ## Atomicity -/

/-- Since a disk was in an earlier state, a step has succeeded or no mishap came to
it, whenever it was tried. -/
def Unhindered (step : FileStep) (d d' : Disk) : Prop :=
  ∀ (k : Nat) (x : Trial), (d'.trials.drop d.trials.length)[k]? = some x → x.step = step →
    x.result = .ok () ∨ d.mishaps[k]?.join = none

/-- A text was put at a path atomically.  After every step the path holds what it
held before or the whole text; after a success it holds the text, and nothing is
left where the text was staged; after a failure it holds what it held before.
Nothing else has changed, and unless the removal of the staged file was hindered,
nothing is new but the file at the path. -/
structure PutAtomically (path : Path) (contents : String) (d : Disk)
    (result : Except Failure Unit) (d' : Disk) : Prop where
  observed : ∃ trials, d'.trials = d.trials ++ trials ∧ OneAttempt path contents result trials ∧
    ∀ x ∈ trials, x.tree.at? path = d.tree.at? path ∨
      x.tree.at? path = some (.file (storedBytes contents))
  success : result = .ok () →
    d'.tree.at? path = some (.file (storedBytes contents)) ∧ d'.tree.at? path.staging = none
  failure (e : Failure) : result = .error e → d'.tree.at? path = d.tree.at? path
  frame : d.tree.Changes (d.tree.LedTo [path, path.staging]) d'.tree
  nothing_left : Unhindered (.remove path.staging) d d' → ∀ place,
    d.tree.get? place = none → d'.tree.get? place ≠ none → d.tree.resolve path = .ok place

/-- A failed attempt leaves the path alone, and removes what was staged. -/
theorem putAtomically_of_failed {d₁ : Disk} {trials : List Trial} {e : Failure}
    (hstaged : OnlyStaged path d d₁ trials)
    (heq : store.replace path contents d =
      (.error e, (d₁.perform (.remove path.staging)).2)) :
    PutAtomically path contents d (.error e) (d₁.perform (.remove path.staging)).2 := by
  have hpaths : (FileStep.remove path.staging).paths = [path.staging] := rfl
  have hremoved := hstaged.perform hpaths
  obtain ⟨trials', htrials', hattempt⟩ := replace_attempt path contents d
  have hframe := replace_changes path contents d
  rw [heq] at htrials' hattempt hframe
  cases List.append_cancel_left (hremoved.trials_eq.symm.trans htrials')
  refine ⟨⟨_, htrials', hattempt, fun x hx => Or.inl (hremoved.observed x hx).at?_eq⟩, nofun,
    fun _ _ => hremoved.staged.at?_eq, hframe, fun hspared place hold hnew => ?_⟩
  have hhindered := hspared trials.length
    ⟨.remove path.staging, (d₁.perform (.remove path.staging)).1,
      (d₁.perform (.remove path.staging)).2.tree⟩
    (by rw [htrials', List.drop_left, List.getElem?_concat_length]) rfl
  rw [← List.head?_drop, ← hstaged.mishaps_eq] at hhindered
  -- A new entry could only be the staged file, but no file is left there.
  by_cases hplace : d.tree.resolve path.staging = .ok place
  · exfalso
    cases hget : (d₁.perform (.remove path.staging)).2.tree.get? place with
    | none => exact hnew hget
    | some entry =>
      cases entry with
      | directory =>
        rw [(hremoved.staged.directory_iff place).1 hget] at hold
        cases hold
      | file contents =>
        exact get?_of_remove hhindered ((hstaged.staged.resolve_iff _ _).2 hplace) contents hget
  · rw [hremoved.staged.get?_eq place (by simpa [Tree.LedTo] using hplace)] at hnew
    exact absurd hold hnew

/-- An attempt that succeeds shows the whole text at once. -/
theorem putAtomically_of_renamed {d₁ d₂ : Disk} {trials : List Trial}
    (hstaged : OnlyStaged path d d₁ trials)
    (hwhole : d₁.tree.at? path.staging = some (.file (storedBytes contents)))
    (hrename : d₁.perform (.rename path.staging path) = (.ok (), d₂))
    (heq : store.replace path contents d = (.ok (), d₂)) :
    PutAtomically path contents d (.ok ()) d₂ := by
  obtain ⟨htarget, hsource⟩ := Tree.at?_of_rename (perform_ok hrename) hwhole
    fun old new hold hnew => Tree.staging_place_ne hold hnew
  obtain ⟨trials', htrials', hattempt⟩ := replace_attempt path contents d
  have hframe := replace_changes path contents d
  have htrials := perform_trials d₁ (.rename path.staging path)
  rw [heq] at htrials' hattempt hframe
  rw [hrename, hstaged.trials_eq, List.append_assoc] at htrials
  cases List.append_cancel_left (htrials.symm.trans htrials')
  refine ⟨⟨_, htrials', hattempt, fun x hx => ?_⟩, fun _ => ⟨htarget, hsource⟩, nofun, hframe,
    fun _ place hold hnew => ?_⟩
  · rcases List.mem_append.1 hx with hx | hx
    · exact Or.inl (hstaged.observed x hx).at?_eq
    · rw [List.mem_singleton.1 hx]
      exact Or.inr htarget
  · by_contra hpath
    by_cases hplace : d.tree.resolve path.staging = .ok place
    · rw [Tree.at?_of_resolve ((hframe.resolve_iff _ _).2 hplace)] at hsource
      exact hnew hsource
    · rw [hframe.get?_eq place (by simp [Tree.LedTo, hpath, hplace])] at hnew
      exact hnew hold

theorem replace_putAtomically (path : Path) (contents : String) (d : Disk) :
    PutAtomically path contents d (store.replace path contents d).1
      (store.replace path contents d).2 := by
  obtain ⟨d₁, trials, hstaged, ⟨e, heq⟩ | ⟨d₂, hwhole, hrename, heq⟩⟩ :=
    replace_course path contents d
  · rw [heq]
    exact putAtomically_of_failed hstaged heq
  · rw [heq]
    exact putAtomically_of_renamed hstaged hwhole hrename heq

end Disk

/-- Every export puts its document at the path atomically, on every disk, and a
failure is reported with the path. -/
theorem Layout.exportTo_atomic (l : Layout) (c : Collection) (path : Path) (d : Disk) :
    ∃ result, (l.exportTo Disk.store c path d).1.1 = result.mapError (.unwritable path) ∧
      Disk.PutAtomically path (l.render c) d result (l.exportTo Disk.store c path d).2 := by
  have hput := Disk.replace_putAtomically path (l.render c) d
  refine ⟨(Disk.store.replace path (l.render c) d).1, ?_⟩
  rw [Layout.exportTo_eq, Disk.bind_apply]
  rcases hr : Disk.store.replace path (l.render c) d with ⟨e | ⟨⟩, d'⟩
  · rw [hr] at hput
    exact ⟨rfl, hput⟩
  · rw [hr] at hput
    exact ⟨rfl, hput⟩

end DmlReport
