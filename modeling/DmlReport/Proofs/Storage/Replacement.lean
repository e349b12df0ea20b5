import DmlReport.Proofs.Storage.Frame
import DmlReport.Storage.Disk

/-!
# Putting a text at a path

What `Store.replace` does on a disk, whichever of its steps fail.  It is one
attempt (`Disk.replace_attempt`): the steps are taken in order up to the first
that fails, whose cause is reported after the staged file was removed.  Only the
files at the path and at its staging path change (`Disk.replace_changes`), and
after a success the path holds the text (`Disk.read_of_replace`).  The three
together are `Disk.PutOnce`.
-/

namespace DmlReport

/-- The bytes that a text is stored as. -/
def storedBytes (contents : String) : List UInt8 := contents.toUTF8.data.toList

/-- The result of one attempt to put a text at a path, and what was tried. -/
inductive OneAttempt (path : Path) (contents : String) :
    Except Failure Unit → List Trial → Prop where
  /-- All steps are taken. -/
  | whole {trials : List Trial}
      (steps : trials.map (·.step) = Store.replacement path contents)
      (done : ∀ x ∈ trials, x.result = .ok ()) :
      OneAttempt path contents (.ok ()) trials
  /-- A step fails, and what was staged is to be removed. -/
  | broken {before : List Trial} {failed removal : Trial} {e : Failure}
      (steps : (before ++ [failed]).map (·.step) <+: Store.replacement path contents)
      (done : ∀ x ∈ before, x.result = .ok ())
      (cause : failed.result = .error e)
      (removed : removal.step = .remove path.staging) :
      OneAttempt path contents (.error e) (before ++ [failed, removal])

namespace OneAttempt

variable {path : Path} {contents : String} {result : Except Failure Unit} {trials : List Trial}

/-- What is tried before the staged file is renamed. -/
theorem preparation_of_broken {before : List FileStep} {failed : FileStep}
    (h : before ++ [failed] <+: Store.replacement path contents) :
    before <+: [.create path.staging, .write path.staging contents, .sync path.staging] := by
  have hsplit : Store.replacement path contents =
      [.create path.staging, .write path.staging contents, .sync path.staging] ++
        [.rename path.staging path] := rfl
  rw [hsplit, List.prefix_concat_iff] at h
  rcases h with h | h
  · obtain rfl := (List.append_inj' h rfl).1
    exact List.prefix_rfl
  · exact (List.prefix_append before [failed]).trans h

/-- An attempt that renames the staged file has succeeded. -/
theorem ok_of_renamed (h : OneAttempt path contents result trials) {x : Trial} (hx : x ∈ trials)
    (hstep : x.step = .rename path.staging path) (hresult : x.result = .ok ()) :
    result = .ok () := by
  cases h with
  | whole => rfl
  | @broken before failed removal e steps done cause removed =>
    exfalso
    simp only [List.mem_append, List.mem_cons, List.not_mem_nil, or_false] at hx
    rcases hx with hx | rfl | rfl
    · rw [List.map_append] at steps
      have hmem := (preparation_of_broken steps).subset (List.mem_map_of_mem hx)
      rw [hstep] at hmem
      simp at hmem
    · rw [hresult] at cause
      cases cause
    · rw [removed] at hstep
      cases hstep

end OneAttempt

namespace Disk

/-- A program on a disk that goes on after another. -/
theorem bind_apply {α β : Type} (x : StateM Disk α) (f : α → StateM Disk β) (d : Disk) :
    (x >>= f) d = f (x d).1 (x d).2 := rfl

/-! ## One step -/

theorem perform_trials (d : Disk) (step : FileStep) :
    (d.perform step).2.trials =
      d.trials ++ [⟨step, (d.perform step).1, (d.perform step).2.tree⟩] := rfl

/-- A step that succeeds is one that the tree allows. -/
theorem perform_ok {d d' : Disk} {step : FileStep} (h : d.perform step = (.ok (), d')) :
    d.tree.perform step = .ok d'.tree := by
  unfold perform Tree.attempt at h
  cases hx : d.mishaps.head?.join with
  | some x => simp [hx] at h
  | none =>
    cases ht : d.tree.perform step with
    | error e => simp [hx, ht] at h
    | ok t =>
      simp only [hx, ht, Prod.mk.injEq, true_and] at h
      rw [← h]

/-- A step changes nothing but files at the paths that it names, whether it
succeeds or not. -/
theorem perform_changes (d : Disk) (step : FileStep) :
    d.tree.Changes (d.tree.LedTo step.paths) (d.perform step).2.tree := by
  show d.tree.Changes _ (d.tree.attempt step d.mishaps.head?.join).2
  cases d.mishaps.head?.join with
  | none =>
    simp only [Tree.attempt]
    cases ht : d.tree.perform step with
    | ok t => exact .of_perform ht
    | error e => exact .refl _ _
  | some x =>
    simp only [Tree.attempt, Mishap.leaves]
    cases step with
    | write p contents =>
      simp only
      split
      · rename_i t ht
        exact .of_write ht
      · exact .refl _ _
    | _ => exact .refl _ _

/-! ## Several steps -/

variable {d d' : Disk} {step : FileStep} {rest : List FileStep}

theorem performAll_nil (d : Disk) : store.performAll [] d = (.ok (), d) := rfl

theorem performAll_cons_ok (h : d.perform step = (.ok (), d')) :
    store.performAll (step :: rest) d = store.performAll rest d' := by
  have hstep : store.perform step d = (.ok (), d') := h
  rw [Store.performAll, bind_apply, hstep]

theorem performAll_cons_error {e : Failure} (h : d.perform step = (.error e, d')) :
    store.performAll (step :: rest) d = (.error e, d') := by
  have hstep : store.perform step d = (.error e, d') := h
  rw [Store.performAll, bind_apply, hstep]
  rfl

/-- Steps succeed if the first does and then the others do. -/
theorem performAll_cons_cases (h : store.performAll (step :: rest) d = (.ok (), d')) :
    ∃ next, d.perform step = (.ok (), next) ∧ store.performAll rest next = (.ok (), d') := by
  rcases hp : d.perform step with ⟨_ | ⟨⟩, next⟩
  · rw [performAll_cons_error hp] at h
    cases h
  · rw [performAll_cons_ok hp] at h
    exact ⟨next, rfl, h⟩

/-- Steps are tried in order: all of them succeed, or the last that is tried
fails and gives the result. -/
theorem performAll_trials (steps : List FileStep) (d : Disk) :
    ∃ trials, (store.performAll steps d).2.trials = d.trials ++ trials ∧
      ((store.performAll steps d).1 = .ok () ∧ trials.map (·.step) = steps ∧
          (∀ x ∈ trials, x.result = .ok ()) ∨
        ∃ before failed e, trials = before ++ [failed] ∧
          (store.performAll steps d).1 = .error e ∧ trials.map (·.step) <+: steps ∧
          (∀ x ∈ before, x.result = .ok ()) ∧ failed.result = .error e) := by
  induction steps generalizing d with
  | nil => exact ⟨[], by simp [performAll_nil]⟩
  | cons step rest ih =>
    have htrials := perform_trials d step
    rcases hp : d.perform step with ⟨e | ⟨⟩, next⟩
    · rw [hp] at htrials
      rw [performAll_cons_error hp]
      exact ⟨_, htrials, Or.inr ⟨[], _, e, rfl, rfl, by simp, by simp, rfl⟩⟩
    · rw [hp] at htrials
      rw [performAll_cons_ok hp]
      obtain ⟨trials, heq, hcases⟩ := ih next
      simp only at htrials
      refine ⟨⟨step, .ok (), next.tree⟩ :: trials, by rw [heq, htrials]; simp, ?_⟩
      rcases hcases with ⟨hok, hsteps, hdone⟩ | ⟨before, failed, e, rfl, herr, hsteps, hdone, hcause⟩
      · exact Or.inl ⟨hok, by simp [hsteps], by simpa using hdone⟩
      · exact Or.inr ⟨_ :: before, failed, e, rfl, herr,
          by simpa using hsteps, by simpa using hdone, hcause⟩

/-- Several steps change nothing but files at the paths that they name. -/
theorem performAll_changes {paths : List Path} (steps : List FileStep) (d : Disk)
    (hpaths : ∀ s ∈ steps, ∀ p ∈ s.paths, p ∈ paths) :
    d.tree.Changes (d.tree.LedTo paths) (store.performAll steps d).2.tree := by
  induction steps generalizing d with
  | nil => exact .refl _ _
  | cons step rest ih =>
    have hfirst : d.tree.Changes (d.tree.LedTo paths) (d.perform step).2.tree :=
      (perform_changes d step).mono fun _ => Tree.LedTo.mono (hpaths step List.mem_cons_self)
    rcases hp : d.perform step with ⟨e | ⟨⟩, next⟩
    · rw [performAll_cons_error hp]
      rwa [hp] at hfirst
    · rw [performAll_cons_ok hp]
      rw [hp] at hfirst
      exact hfirst.trans_ledTo (ih next fun s hs => hpaths s (List.mem_cons_of_mem _ hs))

/-! ## Replacing -/

variable {path : Path} {contents : String}

theorem replace_ok (h : store.performAll (Store.replacement path contents) d = (.ok (), d')) :
    store.replace path contents d = (.ok (), d') := by
  rw [Store.replace, bind_apply, h]
  rfl

theorem replace_error {e : Failure}
    (h : store.performAll (Store.replacement path contents) d = (.error e, d')) :
    store.replace path contents d = (.error e, (d'.perform (.remove path.staging)).2) := by
  rw [Store.replace, bind_apply, h]
  rfl

/-- Putting a text at a path is one attempt. -/
theorem replace_attempt (path : Path) (contents : String) (d : Disk) :
    ∃ trials, (store.replace path contents d).2.trials = d.trials ++ trials ∧
      OneAttempt path contents (store.replace path contents d).1 trials := by
  obtain ⟨trials, htrials, hcases⟩ := performAll_trials (Store.replacement path contents) d
  rcases hp : store.performAll (Store.replacement path contents) d with ⟨e | ⟨⟩, next⟩
  · rw [hp] at htrials hcases
    rw [replace_error hp]
    rcases hcases with ⟨hok, -⟩ | ⟨before, failed, e', rfl, herr, hsteps, hdone, hcause⟩
    · cases hok
    · cases herr
      obtain ⟨removal, hremoved, hremove⟩ : ∃ removal : Trial,
          removal.step = .remove path.staging ∧
            (next.perform (.remove path.staging)).2.trials = next.trials ++ [removal] :=
        ⟨_, rfl, perform_trials next (.remove path.staging)⟩
      refine ⟨before ++ [failed, removal], ?_, .broken hsteps hdone hcause hremoved⟩
      rw [hremove, htrials]
      simp only [List.append_assoc, List.cons_append, List.nil_append]
  · rw [hp] at htrials hcases
    rw [replace_ok hp]
    rcases hcases with ⟨-, hsteps, hdone⟩ | ⟨_, _, _, -, herr, -⟩
    · exact ⟨trials, htrials, .whole hsteps hdone⟩
    · cases herr

/-- Putting a text at a path changes nothing but the files there and at its
staging path, whether it succeeds or not. -/
theorem replace_changes (path : Path) (contents : String) (d : Disk) :
    d.tree.Changes (d.tree.LedTo [path, path.staging])
      (store.replace path contents d).2.tree := by
  have hpaths : ∀ s ∈ Store.replacement path contents, ∀ p ∈ s.paths,
      p ∈ [path, path.staging] := by
    simp [Store.replacement, FileStep.paths]
  have hall := performAll_changes (Store.replacement path contents) d hpaths
  rcases hp : store.performAll (Store.replacement path contents) d with ⟨e | ⟨⟩, next⟩
  · rw [hp] at hall
    rw [replace_error hp]
    have hremove := perform_changes next (.remove path.staging)
    have hstaging : [path.staging] ⊆ [path, path.staging] := List.subset_cons_self _ _
    exact hall.trans_ledTo (hremove.mono fun _ => Tree.LedTo.mono hstaging)
  · rw [replace_ok hp]
    rwa [hp] at hall

/-- After a success the path holds the text. -/
theorem read_of_replace (h : (store.replace path contents d).1 = .ok ()) :
    (store.replace path contents d).2.tree.read path = .ok (storedBytes contents) := by
  rcases hp : store.performAll (Store.replacement path contents) d with ⟨e | ⟨⟩, last⟩
  · rw [replace_error hp] at h
    cases h
  rw [replace_ok hp]
  obtain ⟨d₁, -, hp⟩ := performAll_cons_cases hp
  obtain ⟨d₂, hwrite, hp⟩ := performAll_cons_cases hp
  obtain ⟨d₃, hsync, hp⟩ := performAll_cons_cases hp
  obtain ⟨d₄, hrename, hp⟩ := performAll_cons_cases hp
  cases hp
  have hsame : d₂.tree = d₃.tree := Except.ok.inj (perform_ok hsync)
  have hwritten : d₁.tree.write path.staging (storedBytes contents) = .ok d₂.tree :=
    perform_ok hwrite
  have hrenamed : d₂.tree.rename path.staging path = .ok last.tree := by
    rw [hsame]
    exact perform_ok hrename
  obtain ⟨place, hplace, hget⟩ := Tree.get?_of_write hwritten
  exact Tree.read_of_rename hrenamed hplace hget

/-! ## One write as a whole -/

/-- A text was put at a path by one attempt with the given result. -/
structure PutOnce (path : Path) (contents : String) (d : Disk) (result : Except Failure Unit)
    (d' : Disk) : Prop where
  replaced : store.replace path contents d = (result, d')
  attempt : ∃ trials, d'.trials = d.trials ++ trials ∧ OneAttempt path contents result trials
  frame : d.tree.Changes (d.tree.LedTo [path, path.staging]) d'.tree
  stored : result = .ok () → d'.tree.read path = .ok (storedBytes contents)

theorem replace_putOnce (path : Path) (contents : String) (d : Disk) :
    PutOnce path contents d (store.replace path contents d).1 (store.replace path contents d).2 :=
  ⟨rfl, replace_attempt path contents d, replace_changes path contents d, read_of_replace⟩

/-- Since a disk was in an earlier state, a staged file has taken its place at a
path. -/
def Renewed (path : Path) (d d' : Disk) : Prop :=
  ∃ x ∈ d'.trials.drop d.trials.length, x.step = .rename path.staging path ∧ x.result = .ok ()

theorem PutOnce.renewed_iff {result : Except Failure Unit}
    (h : PutOnce path contents d result d') : Renewed path d d' ↔ result = .ok () := by
  obtain ⟨trials, htrials, hattempt⟩ := h.attempt
  unfold Renewed
  rw [htrials, List.drop_left]
  constructor
  · rintro ⟨x, hx, hstep, hresult⟩
    exact hattempt.ok_of_renamed hx hstep hresult
  · rintro rfl
    cases hattempt with
    | whole steps done =>
      have hmem : FileStep.rename path.staging path ∈ trials.map (·.step) := by
        rw [steps]
        simp [Store.replacement]
      obtain ⟨x, hx, hstep⟩ := List.mem_map.1 hmem
      exact ⟨x, hx, hstep, done x hx⟩

/-! ## A write that succeeds -/

/-- A step that the tree allows succeeds unless a mishap comes. -/
theorem perform_of_no_mishap (step : FileStep) (hmishaps : d.mishaps = []) {t : Tree}
    (h : d.tree.perform step = .ok t) :
    ∃ next, d.perform step = (.ok (), next) ∧ next.tree = t ∧ next.mishaps = [] := by
  have hattempt : d.tree.attempt step d.mishaps.head?.join = (.ok (), t) := by
    rw [hmishaps]
    show d.tree.attempt step none = _
    simp only [Tree.attempt, h]
  unfold perform
  rw [hattempt, hmishaps]
  exact ⟨_, rfl, rfl, rfl⟩

end Disk

/-- Nothing in a tree is in the way of a file that is staged at one place and
then takes its place at a path. -/
structure Tree.Admits (t : Tree) (path : Path) (source target : Place) : Prop where
  source_eq : t.resolve path.staging = .ok source
  target_eq : t.resolve path = .ok target
  source_free : t.get? source ≠ some .directory
  target_free : t.get? target ≠ some .directory
  names : Tree.endsWithoutName path.staging = false ∧ Tree.endsWithoutName path = false
  slashes : Tree.asksForDirectory path.staging = false ∧ Tree.asksForDirectory path = false

namespace Disk

variable {d : Disk} {path : Path}

/-- Without mishaps, a text can be put at every path that the tree admits. -/
theorem replace_succeeds {source target : Place} (hmishaps : d.mishaps = [])
    (h : d.tree.Admits path source target) (contents : String) :
    (store.replace path contents d).1 = .ok () := by
  -- Each step is allowed by the tree that the one before it left.  No step makes or
  -- removes a directory, so both paths lead on to where they led at first.
  have hroot := Tree.ne_root_of_no_directory h.source_free
  have hcreate := Tree.create_ok h.source_eq h.source_free h.slashes.1
  obtain ⟨d₁, hcreate, ht₁, hm₁⟩ :=
    perform_of_no_mishap (.create path.staging) hmishaps hcreate
  have hkept₁ : d.tree.Changes (· = source) d₁.tree := by
    rw [ht₁]
    exact .of_set h.source_free []
  have hget₁ : d₁.tree.get? source = some (.file []) := by
    rw [ht₁, Tree.get?_set _ hroot, if_pos rfl]
  have hwrite := Tree.write_ok ((hkept₁.resolve_iff _ _).2 h.source_eq) hget₁
    (storedBytes contents)
  obtain ⟨d₂, hwrite, ht₂, hm₂⟩ :=
    perform_of_no_mishap (.write path.staging contents) hm₁ hwrite
  have hkept₂ : d.tree.Changes (· = source) d₂.tree := by
    rw [ht₂]
    exact hkept₁.trans (.of_set (by simp [hget₁]) _)
  have hget₂ : d₂.tree.get? source = some (.file (storedBytes contents)) := by
    rw [ht₂, Tree.get?_set _ hroot, if_pos rfl]
  obtain ⟨d₃, hsync, ht₃, hm₃⟩ :=
    perform_of_no_mishap (.sync path.staging) hm₂ rfl
  have hrename := Tree.rename_ok ((hkept₂.resolve_iff _ _).2 h.source_eq)
    ((hkept₂.resolve_iff _ _).2 h.target_eq) hget₂
    (mt (hkept₂.directory_iff target).1 h.target_free) h.names h.slashes
  rw [← ht₃] at hrename
  obtain ⟨d₄, hrename, -, -⟩ :=
    perform_of_no_mishap (.rename path.staging path) hm₃ hrename
  have hall : store.performAll (Store.replacement path contents) d = (.ok (), d₄) := by
    unfold Store.replacement
    rw [performAll_cons_ok hcreate, performAll_cons_ok hwrite, performAll_cons_ok hsync,
      performAll_cons_ok hrename, performAll_nil]
  rw [replace_ok hall]

end Disk

end DmlReport
