import DmlReport.Storage.Tree

/-!
# What a step changes in a tree

A step of `Tree.perform` changes entries at the places of the paths that it
names, makes no directory and removes none, and leaves the working directory
(`Changes.of_perform`).  Paths are followed through directories only, so a path
leads to the same place before and after any number of steps
(`Changes.resolve_iff`).
-/

namespace DmlReport

/-- The paths that a step names. -/
def FileStep.paths : FileStep → List Path
  | .create p | .write p _ | .sync p | .remove p => [p]
  | .rename source target => [source, target]

namespace Tree

/-! ## Entries after a change -/

theorem lookup_filter_ne (entries : List (Place × Entry)) (place other : Place) :
    (entries.filter (·.1 != place)).lookup other =
      if other = place then none else entries.lookup other := by
  induction entries with
  | nil => simp
  | cons entry rest ih =>
    obtain ⟨key, e⟩ := entry
    by_cases hkey : key = place
    · subst hkey
      by_cases hother : other = key
      · simpa [hother] using ih
      · have hne : (other == key) = false := by simpa using hother
        simpa [hother, List.lookup_cons, hne] using ih
    · by_cases hother : other = key
      · subst hother
        simp [hkey]
      · have hne : (other == key) = false := by simpa using hother
        simpa [hkey, List.lookup_cons, hne] using ih

@[simp] theorem get?_root (t : Tree) : t.get? [] = some .directory := rfl

theorem get?_of_ne_root (t : Tree) {place : Place} (h : place ≠ []) :
    t.get? place = t.entries.lookup place := by
  simp [get?, h]

theorem ne_root_of_no_directory {t : Tree} {place : Place}
    (h : t.get? place ≠ some .directory) : place ≠ [] := by
  rintro rfl
  exact h (get?_root t)

theorem get?_erase (t : Tree) {place : Place} (h : place ≠ []) (other : Place) :
    (t.erase place).get? other = if other = place then none else t.get? other := by
  by_cases hroot : other = []
  · subst hroot
    simp [h.symm]
  · rw [get?_of_ne_root _ hroot, get?_of_ne_root _ hroot]
    exact lookup_filter_ne t.entries place other

theorem get?_set (t : Tree) {place : Place} (h : place ≠ []) (e : Entry) (other : Place) :
    (t.set place e).get? other = if other = place then some e else t.get? other := by
  by_cases hother : other = place
  · subst hother
    simp [get?_of_ne_root _ h, set]
  · by_cases hroot : other = []
    · subst hroot
      simp [hother]
    · have hne : (other == place) = false := by simpa using hother
      have herase := get?_erase t h other
      rw [get?_of_ne_root _ hroot] at herase
      rw [get?_of_ne_root _ hroot]
      simpa [set, hother, List.lookup_cons, hne] using herase

/-- From a place without a directory only the empty segment leads on. -/
theorem follow_of_no_directory {t : Tree} {place : Place} (h : t.get? place ≠ some .directory)
    {segment : List Char} {target : Place} :
    t.follow place segment = .ok target ↔ segment = [] ∧ place = target := by
  unfold follow
  by_cases hs : segment = []
  · simp [hs]
  · cases hg : t.get? place with
    | none => simp [hs]
    | some e =>
      cases e with
      | directory => exact absurd hg h
      | file _ => simp [hs]

/-! ## Changes at some places -/

/-- Two trees with the same directories that differ only in files, and only at
some places. -/
structure Changes (touched : Place → Prop) (t t' : Tree) : Prop where
  home_eq : t'.home = t.home
  directory_iff : ∀ place, t'.get? place = some .directory ↔ t.get? place = some .directory
  get?_eq : ∀ place, ¬ touched place → t'.get? place = t.get? place

namespace Changes

variable {touched touched' : Place → Prop} {t t' t'' : Tree}

theorem refl (touched : Place → Prop) (t : Tree) : Changes touched t t :=
  ⟨rfl, fun _ => Iff.rfl, fun _ _ => rfl⟩

theorem trans (h : Changes touched t t') (h' : Changes touched t' t'') :
    Changes touched t t'' where
  home_eq := h'.home_eq.trans h.home_eq
  directory_iff place := (h'.directory_iff place).trans (h.directory_iff place)
  get?_eq place hp := (h'.get?_eq place hp).trans (h.get?_eq place hp)

theorem mono (h : Changes touched t t') (hsub : ∀ place, touched place → touched' place) :
    Changes touched' t t' where
  home_eq := h.home_eq
  directory_iff := h.directory_iff
  get?_eq place hp := h.get?_eq place fun ht => hp (hsub place ht)

theorem of_set {place : Place} (h : t.get? place ≠ some .directory) (contents : List UInt8) :
    Changes (· = place) t (t.set place (.file contents)) := by
  have hroot := ne_root_of_no_directory h
  refine ⟨rfl, fun other => ?_, fun other hother => ?_⟩
  · rw [get?_set t hroot]
    by_cases hother : other = place
    · subst hother
      simp [h]
    · simp [hother]
  · rw [get?_set t hroot, if_neg hother]

theorem of_erase {place : Place} (h : t.get? place ≠ some .directory) :
    Changes (· = place) t (t.erase place) := by
  have hroot := ne_root_of_no_directory h
  refine ⟨rfl, fun other => ?_, fun other hother => ?_⟩
  · rw [get?_erase t hroot]
    by_cases hother : other = place
    · subst hother
      simp [h]
    · simp [hother]
  · rw [get?_erase t hroot, if_neg hother]

/-! ## Paths lead where they led -/

theorem follow_iff (h : Changes touched t t') (place : Place) (segment : List Char)
    (target : Place) :
    t'.follow place segment = .ok target ↔ t.follow place segment = .ok target := by
  by_cases hd : t.get? place = some .directory
  · unfold follow
    rw [(h.directory_iff place).2 hd, hd]
  · have hd' : t'.get? place ≠ some .directory := fun hd' => hd ((h.directory_iff place).1 hd')
    rw [follow_of_no_directory hd, follow_of_no_directory hd']

theorem followAll_iff (h : Changes touched t t') (segments : List (List Char))
    (place target : Place) :
    t'.followAll place segments = .ok target ↔ t.followAll place segments = .ok target := by
  induction segments generalizing place with
  | nil => rfl
  | cons segment rest ih =>
    have hstep := h.follow_iff place segment
    unfold followAll
    cases hf : t.follow place segment with
    | ok next =>
      rw [(hstep next).2 hf]
      exact ih next
    | error e =>
      cases hf' : t'.follow place segment with
      | ok next =>
        rw [(hstep next).1 hf'] at hf
        cases hf
      | error e' => simp

theorem resolve_iff (h : Changes touched t t') (p : Path) (target : Place) :
    t'.resolve p = .ok target ↔ t.resolve p = .ok target := by
  unfold resolve
  rw [h.home_eq]
  split
  · rfl
  · split
    · rfl
    · split
      · rfl
      · exact h.followAll_iff _ _ target

end Changes

/-! ## Steps -/

section Steps

variable {t t' : Tree} {p : Path}

/-- What it takes to make a file, and what comes of it. -/
theorem create_cases (h : t.create p = .ok t') :
    ∃ place, t.resolve p = .ok place ∧ t.get? place ≠ some .directory ∧
      t' = t.set place (.file []) := by
  unfold create at h
  cases hp : t.resolve p with
  | error e => simp [hp] at h
  | ok place =>
    simp only [hp] at h
    split at h
    · cases h
    · rename_i hd
      simp only [Bool.or_eq_true, decide_eq_true_eq, not_or] at hd
      exact ⟨place, rfl, hd.2, by cases h; rfl⟩

/-- What it takes to give a file its contents, and what comes of it. -/
theorem write_cases {contents : List UInt8} (h : t.write p contents = .ok t') :
    ∃ place old, t.resolve p = .ok place ∧ t.get? place = some (.file old) ∧
      t' = t.set place (.file contents) := by
  unfold write at h
  cases hp : t.resolve p with
  | error e => simp [hp] at h
  | ok place =>
    simp only [hp] at h
    split at h
    · rename_i old hg
      exact ⟨place, old, rfl, hg, by cases h; rfl⟩
    · cases h
    · cases h

/-- What it takes to move a file, and what comes of it. -/
theorem rename_cases {source target : Path} (h : t.rename source target = .ok t') :
    ∃ old new contents, t.resolve source = .ok old ∧ t.resolve target = .ok new ∧
      t.get? old = some (.file contents) ∧ t.get? new ≠ some .directory ∧
      asksForDirectory target = false ∧ t' = (t.erase old).set new (.file contents) := by
  unfold rename at h
  cases hs : t.resolve source with
  | error e => simp [hs] at h
  | ok old =>
    cases ht : t.resolve target with
    | error e => simp [hs, ht] at h
    | ok new =>
      simp only [hs, ht] at h
      split at h
      · cases h
      · split at h
        · cases h
        · cases h
        · rename_i contents hg
          split at h
          · cases h
          · split at h
            · cases h
            · rename_i hslash hd
              simp only [Bool.or_eq_true, not_or, Bool.not_eq_true] at hslash
              exact ⟨old, new, contents, rfl, rfl, hg, hd, hslash.2, by cases h; rfl⟩

/-- What it takes to remove a file, and what comes of it. -/
theorem remove_cases (h : t.remove p = .ok t') :
    ∃ place old, t.resolve p = .ok place ∧ t.get? place = some (.file old) ∧
      t' = t.erase place := by
  unfold remove at h
  cases hp : t.resolve p with
  | error e => simp [hp] at h
  | ok place =>
    simp only [hp] at h
    split at h
    · rename_i old hg
      exact ⟨place, old, rfl, hg, by cases h; rfl⟩
    · cases h
    · cases h

theorem create_ok {place : Place} (hp : t.resolve p = .ok place)
    (hd : t.get? place ≠ some .directory) (hslash : asksForDirectory p = false) :
    t.create p = .ok (t.set place (.file [])) := by
  unfold create
  rw [hp]
  simp [hslash, hd]

theorem write_ok {place : Place} {old : List UInt8} (hp : t.resolve p = .ok place)
    (hg : t.get? place = some (.file old)) (contents : List UInt8) :
    t.write p contents = .ok (t.set place (.file contents)) := by
  unfold write
  rw [hp]
  simp only [hg]

theorem rename_ok {source target : Path} {old new : Place} {contents : List UInt8}
    (hs : t.resolve source = .ok old) (ht : t.resolve target = .ok new)
    (hg : t.get? old = some (.file contents)) (hd : t.get? new ≠ some .directory)
    (hnames : endsWithoutName source = false ∧ endsWithoutName target = false)
    (hslashes : asksForDirectory source = false ∧ asksForDirectory target = false) :
    t.rename source target = .ok ((t.erase old).set new (.file contents)) := by
  unfold rename
  rw [hs, ht]
  simp [hnames, hslashes, hg, hd]

/-- Whether some path leads to a place. -/
def LedTo (t : Tree) (paths : List Path) (place : Place) : Prop :=
  ∃ p ∈ paths, t.resolve p = .ok place

theorem LedTo.mono {paths paths' : List Path} (hpaths : paths ⊆ paths') {place : Place}
    (h : t.LedTo paths place) : t.LedTo paths' place := by
  obtain ⟨p, hp, hr⟩ := h
  exact ⟨p, hpaths hp, hr⟩

/-- What some paths lead to changes, and then again: a path leads to the same place
before and after the first change. -/
theorem Changes.trans_ledTo {t'' : Tree} {paths : List Path}
    (h : t.Changes (t.LedTo paths) t') (h' : t'.Changes (t'.LedTo paths) t'') :
    t.Changes (t.LedTo paths) t'' := by
  refine h.trans (h'.mono ?_)
  rintro place ⟨p, hp, hr⟩
  exact ⟨p, hp, (h.resolve_iff p place).1 hr⟩

/-- A write changes nothing but the file at its path. -/
theorem Changes.of_write {contents : List UInt8} (h : t.write p contents = .ok t') :
    Changes (t.LedTo [p]) t t' := by
  obtain ⟨place, old, hp, hg, rfl⟩ := write_cases h
  have hd : t.get? place ≠ some .directory := by simp [hg]
  refine (Changes.of_set hd contents).mono fun other hother => ⟨p, by simp, ?_⟩
  rw [hp, hother]

/-- A step changes nothing but files at the paths that it names. -/
theorem Changes.of_perform {step : FileStep} (h : t.perform step = .ok t') :
    Changes (t.LedTo step.paths) t t' := by
  cases step with
  | create p =>
    obtain ⟨place, hp, hd, rfl⟩ := create_cases h
    refine (Changes.of_set hd []).mono fun other hother => ⟨p, by simp [FileStep.paths], ?_⟩
    rw [hp, hother]
  | write p contents => exact Changes.of_write h
  | sync p =>
    cases h
    exact .refl _ t
  | rename source target =>
    obtain ⟨old, new, contents, hs, ht, hg, hd, -, rfl⟩ := rename_cases h
    have hold : t.get? old ≠ some .directory := by simp [hg]
    have herase := Changes.of_erase hold
    have hnew : (t.erase old).get? new ≠ some .directory :=
      fun hn => hd ((herase.directory_iff new).1 hn)
    have hset := Changes.of_set hnew contents
    refine (herase.mono ?_).trans (hset.mono ?_)
    · rintro other rfl
      exact ⟨source, by simp [FileStep.paths], hs⟩
    · rintro other rfl
      exact ⟨target, by simp [FileStep.paths], ht⟩
  | remove p =>
    obtain ⟨place, old, hp, hg, rfl⟩ := remove_cases h
    have hd : t.get? place ≠ some .directory := by simp [hg]
    refine (Changes.of_erase hd).mono fun other hother => ⟨p, by simp [FileStep.paths], ?_⟩
    rw [hp, hother]

/-! ## Reading what was put down -/

/-- What is written at a path is found there. -/
theorem get?_of_write {contents : List UInt8} (h : t.write p contents = .ok t') :
    ∃ place, t'.resolve p = .ok place ∧ t'.get? place = some (.file contents) := by
  obtain ⟨place, old, hp, hg, heq⟩ := write_cases h
  have hroot : place ≠ [] := ne_root_of_no_directory (t := t) (by simp [hg])
  refine ⟨place, ((Changes.of_write h).resolve_iff p place).2 hp, ?_⟩
  rw [heq, get?_set _ hroot, if_pos rfl]

/-- A file that is moved to a path is read there. -/
theorem read_of_rename {source target : Path} {old : Place} {contents : List UInt8}
    (h : t.rename source target = .ok t') (hs : t.resolve source = .ok old)
    (hg : t.get? old = some (.file contents)) : t'.read target = .ok contents := by
  obtain ⟨old', new, moved, hs', ht, hg', hd, hslash, heq⟩ := rename_cases h
  have hold : old' = old := Except.ok.inj (hs'.symm.trans hs)
  have hmoved : moved = contents := by
    rw [hold, hg] at hg'
    cases hg'
    rfl
  have hkept : Changes (t.LedTo [source, target]) t t' :=
    @Changes.of_perform t t' (.rename source target) h
  have hget : t'.get? new = some (.file contents) := by
    rw [heq, get?_set _ (ne_root_of_no_directory hd), if_pos rfl, hmoved]
  unfold read
  rw [(hkept.resolve_iff target new).2 ht]
  simp only [hget, hslash]
  rfl

end Steps

end Tree

end DmlReport
