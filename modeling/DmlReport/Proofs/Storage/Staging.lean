import DmlReport.Proofs.Storage.Frame
import Mathlib.Data.List.TakeWhile

/-!
# The place of a staged file

A document is staged under a name of its own: the path that `Path.staging` gives
leads to another place than the path itself, in every tree in which both lead
somewhere (`Tree.staging_place_ne`).  If the path has a file name, the last names
on the two ways differ; if it has none, the staged file lies one level below the
place that the path leads to.
-/

namespace DmlReport

namespace Path

/-! ## Segments of a text -/

theorem splitSlashes_ne_nil (cs : List Char) : splitSlashes cs ≠ [] := by
  cases cs with
  | nil => simp [splitSlashes]
  | cons c rest =>
    unfold splitSlashes
    split
    · simp
    · cases splitSlashes rest <;> simp

theorem splitSlashes_cons {c : Char} (h : c ≠ '/') {rest piece : List Char}
    {pieces : List (List Char)} (hrest : splitSlashes rest = piece :: pieces) :
    splitSlashes (c :: rest) = (c :: piece) :: pieces := by
  rw [splitSlashes, if_neg h, hrest]

/-- A slash ends a segment. -/
theorem splitSlashes_append (before after : List Char) :
    splitSlashes (before ++ '/' :: after) = splitSlashes before ++ splitSlashes after := by
  induction before with
  | nil => rfl
  | cons c before ih =>
    by_cases hc : c = '/'
    · subst hc
      exact congrArg ([] :: ·) ih
    · obtain ⟨piece, pieces, hbefore⟩ := List.exists_cons_of_ne_nil (splitSlashes_ne_nil before)
      rw [hbefore, List.cons_append] at ih
      rw [List.cons_append, splitSlashes_cons hc ih, splitSlashes_cons hc hbefore,
        List.cons_append]

theorem splitSlashes_of_no_slash {name : List Char} (h : '/' ∉ name) :
    splitSlashes name = [name] := by
  induction name with
  | nil => rfl
  | cons c name ih =>
    rw [List.mem_cons, not_or] at h
    exact splitSlashes_cons (Ne.symm h.1) (ih h.2)

theorem no_slash_of_mem_splitSlashes {cs piece : List Char} (h : piece ∈ splitSlashes cs) :
    '/' ∉ piece := by
  induction cs generalizing piece with
  | nil =>
    rw [splitSlashes, List.mem_singleton] at h
    rw [h]
    exact List.not_mem_nil
  | cons c cs ih =>
    by_cases hc : c = '/'
    · rw [splitSlashes, if_pos hc, List.mem_cons] at h
      rcases h with rfl | h
      · exact List.not_mem_nil
      · exact ih h
    · obtain ⟨first, pieces, hcs⟩ := List.exists_cons_of_ne_nil (splitSlashes_ne_nil cs)
      rw [splitSlashes_cons hc hcs, List.mem_cons] at h
      rcases h with rfl | h
      · rw [List.mem_cons, not_or]
        exact ⟨Ne.symm hc, ih (by rw [hcs]; exact List.mem_cons_self)⟩
      · exact ih (by rw [hcs]; exact List.mem_cons_of_mem _ h)

/-- One more segment at the end of a text is its last; the segments before it are
those of the text, without an empty one at their end. -/
theorem splitSlashes_appendSegment (base : List Char) {name : List Char} (h : '/' ∉ name) :
    ∃ before, splitSlashes (appendSegment base name) = before ++ [name] ∧
      (splitSlashes base = before ∨ splitSlashes base = before ++ [[]]) := by
  unfold appendSegment
  rcases List.eq_nil_or_concat base with rfl | ⟨init, c, rfl⟩
  · exact ⟨[], splitSlashes_of_no_slash h, Or.inr rfl⟩
  · rw [List.concat_eq_append, List.getLast?_concat]
    by_cases hc : c = '/'
    · subst hc
      refine ⟨splitSlashes init, ?_, Or.inr (splitSlashes_append init [])⟩
      rw [List.append_assoc]
      exact (splitSlashes_append init name).trans (by rw [splitSlashes_of_no_slash h])
    · refine ⟨splitSlashes (init ++ [c]), ?_, Or.inl rfl⟩
      split
      · rename_i heq
        cases heq
      · rename_i heq
        cases heq
        exact absurd rfl hc
      · rw [splitSlashes_append, splitSlashes_of_no_slash h]

/-- Whether a segment names an entry of a directory. -/
structure IsName (segment : List Char) : Prop where
  not_filler : isFiller segment = false
  not_parent : segment ≠ ['.', '.']

theorem getLast?_trimFiller {segments : List (List Char)} {last : List Char}
    (h : (trimFiller segments).getLast? = some last) :
    ∃ before fillers, segments = before ++ last :: fillers ∧
      (∀ s ∈ fillers, isFiller s = true) ∧ isFiller last = false := by
  rw [trimFiller, List.getLast?_reverse] at h
  have hlast := List.head?_dropWhile_not isFiller segments.reverse
  rw [h] at hlast
  obtain ⟨rest, hrest⟩ := List.head?_eq_some_iff.1 h
  have hsplit : segments.reverse = segments.reverse.takeWhile isFiller ++ last :: rest := by
    rw [← hrest, List.takeWhile_append_dropWhile]
  refine ⟨rest.reverse, (segments.reverse.takeWhile isFiller).reverse, ?_, ?_, hlast⟩
  · exact (List.reverse_eq_iff.1 hsplit).trans (by simp)
  · intro s hs
    exact List.mem_takeWhile_imp (List.mem_reverse.1 hs)

/-- The segments that a path is parsed into end its text. -/
theorem parse_segments (p : Path) :
    ∃ before segments, splitSlashes p.text.toList = before ++ segments ∧
      p.parse.2 = trimFiller segments := by
  unfold parse
  split
  · rename_i rest htext
    rw [htext]
    exact ⟨[[]], splitSlashes rest, rfl, rfl⟩
  · split
    · rename_i rest hsplit
      exact ⟨[['.']], rest, hsplit, rfl⟩
    · exact ⟨[], _, rfl, rfl⟩

/-- The file name of a path is its last segment that means something. -/
theorem fileNameChars?_eq_some {p : Path} {name : List Char} (h : p.fileNameChars? = some name) :
    IsName name ∧ ∃ before fillers, splitSlashes p.text.toList = before ++ name :: fillers ∧
      ∀ s ∈ fillers, isFiller s = true := by
  unfold fileNameChars? at h
  rw [Option.filter_eq_some_iff] at h
  obtain ⟨hlast, hparent⟩ := h
  obtain ⟨before, segments, hsplit, hparse⟩ := parse_segments p
  rw [hparse] at hlast
  obtain ⟨inner, fillers, hsegments, hfillers, hfiller⟩ := getLast?_trimFiller hlast
  refine ⟨⟨hfiller, by simpa using hparent⟩, before ++ inner, fillers, ?_, hfillers⟩
  rw [hsplit, hsegments, List.append_assoc]

/-! ## The staging path -/

theorem isName_stagingName (name : List Char) : IsName (stagingName name) := by
  have hlength : 5 ≤ (stagingName name).length := by simp [stagingName]
  constructor
  · rw [Bool.eq_false_iff]
    intro hfiller
    simp only [isFiller, Bool.or_eq_true, beq_iff_eq] at hfiller
    rcases hfiller with h | h <;> simp [h] at hlength
  · intro h
    simp [h] at hlength

theorem stagingName_ne (name : List Char) : stagingName name ≠ name := by
  intro h
  have hlength := congrArg List.length h
  simp [stagingName] at hlength
  omega

theorem no_slash_stagingName {name : List Char} (h : '/' ∉ name) : '/' ∉ stagingName name := by
  simp [stagingName, h]

theorem staging_text (p : Path) :
    p.staging.text.toList =
      match p.fileNameChars? with
      | some name => appendSegment p.parentChars (stagingName name)
      | none => appendSegment p.text.toList (stagingName "diagnostics".toList) := by
  unfold staging withFileName
  cases p.fileNameChars? <;> simp

end Path

namespace Tree

open DmlReport.Path

variable {t : Tree} {place target : Place}

/-! ## Following segments -/

theorem followAll_append_iff (before after : List (List Char)) :
    t.followAll place (before ++ after) = .ok target ↔
      ∃ q, t.followAll place before = .ok q ∧ t.followAll q after = .ok target := by
  induction before generalizing place with
  | nil => simp [followAll]
  | cons segment before ih =>
    rw [List.cons_append, followAll, followAll]
    cases t.follow place segment with
    | ok next => exact ih
    | error e => simp

theorem follow_of_filler {segment : List Char} (hs : isFiller segment = true)
    (h : t.follow place segment = .ok target) : target = place := by
  simp only [isFiller, Bool.or_eq_true, beq_iff_eq] at hs
  unfold follow at h
  rcases hs with rfl | rfl
  · simpa using h.symm
  · cases hg : t.get? place with
    | none => simp [hg] at h
    | some e =>
      cases e with
      | file contents => simp [hg] at h
      | directory => simpa [hg] using h.symm

theorem follow_of_isName {segment : List Char} (hs : IsName segment)
    (h : t.follow place segment = .ok target) : target = place ++ [String.ofList segment] := by
  have hfiller := hs.not_filler
  simp only [isFiller, Bool.or_eq_false_iff, beq_eq_false_iff_ne] at hfiller
  unfold follow at h
  rw [if_neg hfiller.1] at h
  cases hg : t.get? place with
  | none => simp [hg] at h
  | some e =>
    cases e with
    | file contents => simp [hg] at h
    | directory =>
      simp only [hg, if_neg hfiller.2, if_neg hs.not_parent] at h
      split at h
      · cases h
      · cases h
        rfl

theorem followAll_of_fillers {fillers : List (List Char)}
    (hs : ∀ s ∈ fillers, isFiller s = true) (h : t.followAll place fillers = .ok target) :
    target = place := by
  induction fillers generalizing place with
  | nil => exact (Except.ok.inj h).symm
  | cons segment rest ih =>
    rw [followAll] at h
    cases hf : t.follow place segment with
    | error e => simp [hf] at h
    | ok next =>
      rw [hf] at h
      rw [ih (fun s hs' => hs s (List.mem_cons_of_mem _ hs')) h,
        follow_of_filler (hs segment List.mem_cons_self) hf]

/-- The last name on the way to a place is its last segment that means something. -/
theorem followAll_of_name {before fillers : List (List Char)} {name : List Char}
    (hname : IsName name) (hs : ∀ s ∈ fillers, isFiller s = true)
    (h : t.followAll place (before ++ name :: fillers) = .ok target) :
    ∃ q, t.followAll place before = .ok q ∧ target = q ++ [String.ofList name] := by
  obtain ⟨q, hbefore, h⟩ := (followAll_append_iff before _).1 h
  rw [followAll] at h
  cases hf : t.follow q name with
  | error e => simp [hf] at h
  | ok next =>
    rw [hf] at h
    exact ⟨q, hbefore, (followAll_of_fillers hs h).trans (follow_of_isName hname hf)⟩

/-! ## The staging path leads elsewhere -/

theorem resolve_cases {p : Path} (h : t.resolve p = .ok target) :
    p.text ≠ "" ∧
      t.followAll (if p.text.toList.head? = some '/' then [] else t.home)
        (splitSlashes p.text.toList) = .ok target := by
  unfold resolve at h
  split at h
  · cases h
  · split at h
    · cases h
    · rename_i hne
      split at h
      · cases h
      · exact ⟨hne, h⟩

theorem head?_appendSegment {base : List Char} (h : base ≠ []) (name : List Char) :
    (appendSegment base name).head? = base.head? := by
  obtain ⟨c, rest, rfl⟩ := List.exists_cons_of_ne_nil h
  unfold appendSegment
  split <;> simp_all

/-- A path and its staging path never lead to the same place. -/
theorem staging_place_ne {p : Path} {source : Place} (hsource : t.resolve p.staging = .ok source)
    (htarget : t.resolve p = .ok target) : source ≠ target := by
  obtain ⟨-, hsource⟩ := resolve_cases hsource
  obtain ⟨hne, htarget⟩ := resolve_cases htarget
  have htext := staging_text p
  cases hname : p.fileNameChars? with
  | some name =>
    -- The last names on the two ways differ.
    obtain ⟨hisName, before, fillers, hsplit, hfillers⟩ := fileNameChars?_eq_some hname
    have hmem : name ∈ splitSlashes p.text.toList := by
      rw [hsplit]
      simp
    have hslash : '/' ∉ name := no_slash_of_mem_splitSlashes hmem
    rw [hsplit] at htarget
    obtain ⟨q, -, rfl⟩ := followAll_of_name hisName hfillers htarget
    simp only [hname] at htext
    obtain ⟨before', hsplit', -⟩ :=
      splitSlashes_appendSegment p.parentChars (no_slash_stagingName hslash)
    rw [htext, hsplit'] at hsource
    obtain ⟨q', -, rfl⟩ := followAll_of_name (isName_stagingName name) (by simp) hsource
    intro heq
    have hlast := (List.append_inj' heq rfl).2
    exact stagingName_ne name (String.ofList_injective (List.cons.inj hlast).1)
  | none =>
    -- The staged file lies one level below.
    have hbase : p.text.toList ≠ [] := fun h => hne (String.toList_eq_nil_iff.1 h)
    simp only [hname] at htext
    have hslash : '/' ∉ "diagnostics".toList := by decide
    obtain ⟨before, hsplit, hcases⟩ := splitSlashes_appendSegment p.text.toList
      (no_slash_stagingName hslash)
    rw [htext, head?_appendSegment hbase, hsplit] at hsource
    obtain ⟨q, hq, rfl⟩ := followAll_of_name (isName_stagingName _) (by simp) hsource
    have hdir : target = q := by
      rcases hcases with h | h
      · rw [h, hq] at htarget
        exact (Except.ok.inj htarget).symm
      · rw [h] at htarget
        obtain ⟨q', hq', htarget⟩ := (followAll_append_iff before _).1 htarget
        rw [hq] at hq'
        cases hq'
        exact followAll_of_fillers (by simp [isFiller]) htarget
    rw [hdir]
    intro heq
    simpa using congrArg List.length heq

end Tree

end DmlReport
