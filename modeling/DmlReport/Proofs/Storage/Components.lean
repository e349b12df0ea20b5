import DmlReport.Proofs.Storage.Staging

/-!
# The components of paths

A path stands for its components: where it starts, and then its names and steps up, without
the empty segments and the segments `.` of its text.  Two paths with the same components are
the same path, whatever their texts.  The staging path has the components of the path up to
its file name, and then the name of the staged file; a path without a file name has that name
behind all its components (`Path.staging_sibling`).
-/

namespace DmlReport.Path

/-- A part of a path that means something. -/
inductive Component where
  /-- The root. -/
  | root
  /-- The working directory, spelled out at the start. -/
  | here
  /-- The directory above. -/
  | up
  | name (segment : List Char)
deriving DecidableEq, Repr

/-- What a segment means. -/
def Component.ofSegment? : List Char → Option Component
  | [] => none
  | ['.'] => none
  | ['.', '.'] => some .up
  | segment => some (.name segment)

/-- The component that only the start of a text can have. -/
def leading (text : List Char) : List Component :=
  if text.head? = some '/' then [.root]
  else if (text.splitOn '/').head? = some ['.'] then [.here]
  else []

/-- The components of a path. -/
def components (p : Path) : List Component :=
  leading p.text.toList ++ (p.text.toList.splitOn '/').filterMap Component.ofSegment?

/-! ## Segments -/

theorem splitSlashes_eq (cs : List Char) : splitSlashes cs = cs.splitOn '/' := by
  induction cs with
  | nil => rfl
  | cons c cs ih =>
    rw [List.splitOn_cons_eq_if_modifyHead, splitSlashes, ih]
    by_cases hc : c = '/'
    · simp [hc]
    · obtain ⟨piece, pieces, hcs⟩ := List.exists_cons_of_ne_nil (List.splitOn_ne_nil '/' cs)
      simp [hc, hcs]

theorem ofSegment?_eq_none_iff {segment : List Char} :
    Component.ofSegment? segment = none ↔ isFiller segment = true := by
  unfold Component.ofSegment?
  split <;> simp_all [isFiller]

theorem ofSegment?_of_isName {segment : List Char} (h : IsName segment) :
    Component.ofSegment? segment = some (.name segment) := by
  have hfiller := h.not_filler
  have hparent := h.not_parent
  unfold Component.ofSegment?
  split <;> simp_all [isFiller]

theorem filterMap_fillers {segments : List (List Char)}
    (h : ∀ s ∈ segments, isFiller s = true) : segments.filterMap Component.ofSegment? = [] := by
  rw [List.filterMap_eq_nil_iff]
  exact fun s hs => ofSegment?_eq_none_iff.2 (h s hs)

/-- Only segments that mean nothing are trimmed. -/
theorem trimFiller_append (segments : List (List Char)) :
    ∃ fillers, segments = trimFiller segments ++ fillers ∧ ∀ s ∈ fillers, isFiller s = true := by
  refine ⟨(segments.reverse.takeWhile isFiller).reverse, ?_, ?_⟩
  · rw [trimFiller, ← List.reverse_append, List.takeWhile_append_dropWhile, List.reverse_reverse]
  · intro s hs
    exact List.mem_takeWhile_imp (List.mem_reverse.1 hs)

theorem filterMap_trimFiller (segments : List (List Char)) :
    (trimFiller segments).filterMap Component.ofSegment? =
      segments.filterMap Component.ofSegment? := by
  obtain ⟨fillers, hsegments, hfillers⟩ := trimFiller_append segments
  calc (trimFiller segments).filterMap Component.ofSegment?
      = (trimFiller segments ++ fillers).filterMap Component.ofSegment? := by
        rw [List.filterMap_append, filterMap_fillers hfillers, List.append_nil]
    _ = segments.filterMap Component.ofSegment? := by rw [← hsegments]

/-! ## Where a path starts -/

/-- The component of a start. -/
def Start.components : Start → List Component
  | .root => [.root]
  | .dot => [.here]
  | .here => []

/-- Segments whose text starts where they do: none of them has a slash, and without a start
of their own the first of them is neither empty nor `.`. -/
structure Follows (start : Start) (segments : List (List Char)) : Prop where
  no_slash : ∀ s ∈ segments, '/' ∉ s
  first : start = .here → ∀ s ∈ segments.head?, isFiller s = false

theorem Follows.of_prefix {start : Start} {segments before : List (List Char)}
    (h : Follows start segments) (hbefore : before <+: segments) : Follows start before := by
  obtain ⟨after, rfl⟩ := hbefore
  refine ⟨fun s hs => h.no_slash s (List.mem_append_left _ hs), fun hstart s hs => ?_⟩
  refine h.first hstart s ?_
  rw [List.head?_append, hs]
  rfl

theorem trimFiller_prefix_self (segments : List (List Char)) :
    trimFiller segments <+: segments := by
  obtain ⟨fillers, hsegments, -⟩ := trimFiller_append segments
  exact ⟨fillers, hsegments.symm⟩

/-- The first segment of a text that does not start anywhere else has a meaning, unless the
text has none at all. -/
theorem first_segment {cs : List Char} (hroot : cs.head? ≠ some '/')
    (hdot : (splitSlashes cs).head? ≠ some ['.']) :
    ∀ s ∈ (trimFiller (splitSlashes cs)).head?, isFiller s = false := by
  intro s hs
  obtain ⟨fillers, hsegments⟩ := trimFiller_prefix_self (splitSlashes cs)
  have hhead : (splitSlashes cs).head? = some s := by
    rw [← hsegments, List.head?_append, hs]
    rfl
  cases cs with
  | nil => cases hs
  | cons c rest =>
    have hc : c ≠ '/' := fun h => hroot (congrArg some h)
    obtain ⟨piece, pieces, hrest⟩ := List.exists_cons_of_ne_nil (splitSlashes_ne_nil rest)
    rw [splitSlashes_cons hc hrest, List.head?_cons, Option.some.injEq] at hhead
    rw [splitSlashes_cons hc hrest, List.head?_cons, hhead, Ne, Option.some.injEq] at hdot
    have hpiece : piece ≠ [] ∨ c ≠ '.' := by
      rw [← not_and_or, and_comm]
      rintro ⟨rfl, rfl⟩
      exact hdot hhead.symm
    simpa [isFiller, ← hhead, or_comm, Decidable.imp_iff_not_or] using hpiece

/-- A path is parsed into its start and the segments that follow it. -/
theorem parse_follows (p : Path) :
    Follows p.parse.1 p.parse.2 ∧
      p.components = p.parse.1.components ++ p.parse.2.filterMap Component.ofSegment? := by
  have hpieces {segments : List (List Char)} (hsegments : segments <:+ splitSlashes p.text.toList) :
      ∀ s ∈ trimFiller segments, '/' ∉ s := fun s hs =>
    no_slash_of_mem_splitSlashes (hsegments.subset ((trimFiller_prefix_self segments).subset hs))
  unfold components leading parse
  rw [← splitSlashes_eq]
  split
  · rename_i rest htext
    rw [htext] at hpieces ⊢
    refine ⟨⟨hpieces (List.suffix_cons _ _), nofun⟩, ?_⟩
    rw [filterMap_trimFiller]
    rfl
  · rename_i hroot
    have hhead : p.text.toList.head? ≠ some '/' := by
      intro hhead
      obtain ⟨rest, htext⟩ := List.head?_eq_some_iff.1 hhead
      exact hroot rest htext
    rw [if_neg hhead]
    split
    · rename_i rest hsplit
      rw [hsplit] at hpieces ⊢
      refine ⟨⟨hpieces (List.suffix_cons _ _), nofun⟩, ?_⟩
      rw [filterMap_trimFiller]
      rfl
    · rename_i hdot
      have hfirst : (splitSlashes p.text.toList).head? ≠ some ['.'] := by
        intro hfirst
        obtain ⟨rest, hsplit⟩ := List.head?_eq_some_iff.1 hfirst
        exact hdot rest hsplit
      rw [if_neg hfirst]
      refine ⟨⟨hpieces (List.suffix_refl _), fun _ => first_segment hhead hfirst⟩, ?_⟩
      rw [filterMap_trimFiller]
      rfl

theorem splitSlashes_joinSlashes {segments : List (List Char)} (hne : segments ≠ [])
    (h : ∀ s ∈ segments, '/' ∉ s) : splitSlashes (joinSlashes segments) = segments := by
  induction segments with
  | nil => exact absurd rfl hne
  | cons piece pieces ih =>
    obtain ⟨hpiece, hpieces⟩ := List.forall_mem_cons.1 h
    cases pieces with
    | nil => exact splitSlashes_of_no_slash hpiece
    | cons next pieces =>
      rw [joinSlashes, splitSlashes_append, splitSlashes_of_no_slash hpiece,
        ih (List.cons_ne_nil _ _) hpieces, List.singleton_append]
      exact List.cons_ne_nil _ _

theorem head?_joinSlashes {segments : List (List Char)} (h : ∀ s ∈ segments, '/' ∉ s)
    (hfirst : ∀ s ∈ segments.head?, isFiller s = false) :
    (joinSlashes segments).head? ≠ some '/' := by
  cases segments with
  | nil => nofun
  | cons piece pieces =>
    have hpiece : piece ≠ [] := by
      rintro rfl
      exact absurd (hfirst [] rfl) (by decide)
    obtain ⟨c, rest, rfl⟩ := List.exists_cons_of_ne_nil hpiece
    have hhead : (joinSlashes ((c :: rest) :: pieces)).head? = some c := by
      cases pieces <;> rfl
    rw [hhead]
    intro hc
    rw [Option.some.inj hc] at h
    exact h _ List.mem_cons_self List.mem_cons_self

/-- The text of a start and what follows it has their components. -/
theorem components_unparse {start : Start} {segments : List (List Char)}
    (h : Follows start segments) :
    components ⟨String.ofList (unparse start segments)⟩ =
      start.components ++ segments.filterMap Component.ofSegment? := by
  unfold components leading
  rw [← splitSlashes_eq, String.toList_ofList]
  cases segments with
  | nil => cases start <;> rfl
  | cons piece pieces =>
    have hjoin := splitSlashes_joinSlashes (List.cons_ne_nil piece pieces) h.no_slash
    cases start with
    | root =>
      have hsplit : splitSlashes (unparse .root (piece :: pieces)) = [] :: piece :: pieces :=
        congrArg ([] :: ·) hjoin
      rw [hsplit]
      rfl
    | dot =>
      have hsplit : splitSlashes (unparse .dot (piece :: pieces)) = ['.'] :: piece :: pieces :=
        (splitSlashes_append ['.'] _).trans (congrArg (['.'] :: ·) hjoin)
      rw [hsplit]
      rfl
    | here =>
      have hfirst := h.first rfl
      have hdot : (piece :: pieces).head? ≠ some ['.'] := by
        intro hdot
        exact absurd (hfirst _ hdot) (by decide)
      show (if (joinSlashes (piece :: pieces)).head? = some '/' then [Component.root]
          else if (splitSlashes (joinSlashes (piece :: pieces))).head? = some ['.'] then [.here]
          else []) ++ (splitSlashes (joinSlashes (piece :: pieces))).filterMap _ = _
      rw [hjoin, if_neg (head?_joinSlashes h.no_slash hfirst), if_neg hdot]
      rfl

/-! ## Names -/

theorem eq_nil_of_splitSlashes {cs : List Char} (h : splitSlashes cs = [[]]) : cs = [] := by
  cases cs with
  | nil => rfl
  | cons c rest =>
    obtain ⟨piece, pieces, hrest⟩ := List.exists_cons_of_ne_nil (splitSlashes_ne_nil rest)
    by_cases hc : c = '/'
    · rw [splitSlashes, if_pos hc, hrest] at h
      cases h
    · rw [splitSlashes_cons hc hrest] at h
      cases h

theorem leading_appendSegment (base : List Char) {name : List Char} (hname : IsName name)
    (hslash : '/' ∉ name) : leading (appendSegment base name) = leading base := by
  unfold leading
  rw [← splitSlashes_eq, ← splitSlashes_eq]
  by_cases hbase : base = []
  · subst hbase
    have hroot : name.head? ≠ some '/' := fun h => hslash (List.mem_of_mem_head? h)
    have hdot : (splitSlashes name).head? ≠ some ['.'] := by
      rw [splitSlashes_of_no_slash hslash]
      rintro ⟨rfl⟩
      exact absurd hname.not_filler (by decide)
    show (if name.head? = some '/' then _ else if (splitSlashes name).head? = some ['.'] then _
      else _) = _
    rw [if_neg hroot, if_neg hdot]
    rfl
  · obtain ⟨before, hsplit, hcases⟩ := splitSlashes_appendSegment base hslash
    have hbefore : before ≠ [] := by
      rintro rfl
      rcases hcases with h | h
      · exact splitSlashes_ne_nil base h
      · exact hbase (eq_nil_of_splitSlashes h)
    have hfirst : (splitSlashes (appendSegment base name)).head? = (splitSlashes base).head? := by
      obtain ⟨first, rest, rfl⟩ := List.exists_cons_of_ne_nil hbefore
      rw [hsplit]
      rcases hcases with h | h <;> rw [h] <;> rfl
    rw [Tree.head?_appendSegment hbase, hfirst]

/-- A name at the end of a text is its last component. -/
theorem components_appendSegment (base : List Char) {name : List Char} (hname : IsName name)
    (hslash : '/' ∉ name) :
    components ⟨String.ofList (appendSegment base name)⟩ =
      components ⟨String.ofList base⟩ ++ [.name name] := by
  obtain ⟨before, hsplit, hcases⟩ := splitSlashes_appendSegment base hslash
  have hbase : (splitSlashes base).filterMap Component.ofSegment? =
      before.filterMap Component.ofSegment? := by
    rcases hcases with h | h
    · rw [h]
    · have hfiller : [[]].filterMap Component.ofSegment? = [] := rfl
      rw [h, List.filterMap_append, hfiller, List.append_nil]
  unfold components
  rw [← splitSlashes_eq, ← splitSlashes_eq, String.toList_ofList, String.toList_ofList,
    leading_appendSegment base hname hslash, hsplit, hbase, List.filterMap_append,
    List.append_assoc]
  simp [ofSegment?_of_isName hname]

theorem not_filler_of_parse {p : Path} {last : List Char} (h : p.parse.2.getLast? = some last) :
    isFiller last = false := by
  obtain ⟨before, segments, -, hparse⟩ := parse_segments p
  rw [hparse] at h
  obtain ⟨-, -, -, -, hfiller⟩ := getLast?_trimFiller h
  exact hfiller

/-- The last segment of a path that means something is its last component. -/
theorem getLast?_components {p : Path} {last : List Char} (h : p.parse.2.getLast? = some last) :
    p.components.getLast? = Component.ofSegment? last := by
  obtain ⟨init, hinit⟩ := List.getLast?_eq_some_iff.1 h
  have hsome : Component.ofSegment? last ≠ none := by
    rw [Ne, ofSegment?_eq_none_iff, not_filler_of_parse h]
    exact Bool.false_ne_true
  obtain ⟨c, hc⟩ := Option.ne_none_iff_exists'.1 hsome
  rw [(parse_follows p).2, hinit, List.filterMap_append, ← List.append_assoc, List.filterMap_cons,
    hc]
  exact List.getLast?_concat

theorem components_of_no_segment {p : Path} (h : p.parse.2.getLast? = none) :
    p.components = p.parse.1.components := by
  rw [(parse_follows p).2, List.getLast?_eq_none_iff.1 h]
  exact List.append_nil _

/-- A path has a file name if and only if its last component is a name, and it is that name. -/
theorem fileNameChars?_eq_some_iff {p : Path} {name : List Char} :
    p.fileNameChars? = some name ↔ p.components.getLast? = some (.name name) := by
  constructor
  · intro hname
    obtain ⟨hlast, -⟩ := Option.filter_eq_some_iff.1 hname
    rw [getLast?_components hlast, ofSegment?_of_isName (fileNameChars?_eq_some hname).1]
  · intro hname
    cases hlast : p.parse.2.getLast? with
    | none =>
      rw [components_of_no_segment hlast] at hname
      cases hstart : p.parse.1 <;> rw [hstart] at hname <;> cases hname
    | some last =>
      rw [getLast?_components hlast] at hname
      have hparent : last ≠ ['.', '.'] := by
        rintro rfl
        cases hname
      rw [ofSegment?_of_isName ⟨not_filler_of_parse hlast, hparent⟩, Option.some.injEq,
        Component.name.injEq] at hname
      rw [fileNameChars?, hlast, ← hname, Option.filter_some, if_pos (by simpa using hparent)]

/-- The text of a path without its file name has the components before it. -/
theorem components_parentChars {p : Path} {name : List Char} (h : p.fileNameChars? = some name) :
    components ⟨String.ofList p.parentChars⟩ = p.components.dropLast := by
  obtain ⟨hfollows, hcomponents⟩ := parse_follows p
  obtain ⟨hname, -⟩ := fileNameChars?_eq_some h
  obtain ⟨hlast, -⟩ := Option.filter_eq_some_iff.1 h
  obtain ⟨init, hinit⟩ := List.getLast?_eq_some_iff.1 hlast
  have hparent : p.parentChars = unparse p.parse.1 (trimFiller init) := by
    show unparse p.parse.1 (trimFiller p.parse.2.dropLast) = _
    rw [hinit, List.dropLast_concat]
  have hprefix : trimFiller init <+: p.parse.2 :=
    (trimFiller_prefix_self init).trans ⟨[name], hinit.symm⟩
  rw [hparent, components_unparse (hfollows.of_prefix hprefix), filterMap_trimFiller, hcomponents,
    hinit, List.filterMap_append]
  simp [ofSegment?_of_isName hname, ← List.append_assoc]

/-- A path whose last component is no name has none, or only its start, or ends above. -/
theorem components_of_no_name {p : Path} (h : p.fileNameChars? = none) :
    p.components = [] ∨ p.components = [.root] ∨ p.components = [.here] ∨
      p.components.getLast? = some .up := by
  have hname : ∀ name, p.components.getLast? ≠ some (.name name) := by
    intro name hlast
    rw [fileNameChars?_eq_some_iff.2 hlast] at h
    cases h
  cases hlast : p.parse.2.getLast? with
  | none =>
    rw [components_of_no_segment hlast]
    cases p.parse.1 <;> simp [Start.components]
  | some last =>
    have hup : last = ['.', '.'] := by
      by_contra hparent
      have hisName : IsName last := ⟨not_filler_of_parse hlast, hparent⟩
      exact hname last ((getLast?_components hlast).trans (ofSegment?_of_isName hisName))
    subst hup
    exact Or.inr (Or.inr (Or.inr (getLast?_components hlast)))

/-! ## The staging path -/

theorem components_staging_of_name {p : Path} {name : List Char}
    (h : p.fileNameChars? = some name) :
    p.staging.components = p.components.dropLast ++ [.name (stagingName name)] := by
  obtain ⟨-, before, fillers, hsplit, -⟩ := fileNameChars?_eq_some h
  have hmem : name ∈ splitSlashes p.text.toList := by simp [hsplit]
  have hslash : '/' ∉ name := no_slash_of_mem_splitSlashes hmem
  have htext : p.staging = ⟨String.ofList (appendSegment p.parentChars (stagingName name))⟩ := by
    unfold staging withFileName
    rw [h]
    rfl
  rw [htext, components_appendSegment _ (isName_stagingName name) (no_slash_stagingName hslash),
    components_parentChars h]

theorem components_staging_of_no_name {p : Path} (h : p.fileNameChars? = none) :
    p.staging.components = p.components ++ [.name (stagingName "diagnostics".toList)] := by
  have htext : p.staging =
      ⟨String.ofList (appendSegment p.text.toList (stagingName "diagnostics".toList))⟩ := by
    unfold staging withFileName
    rw [h]
    rfl
  rw [htext, components_appendSegment _ (isName_stagingName _) (by decide),
    String.ofList_toList]

theorem stagingName_injective {name name' : List Char} (h : stagingName name = stagingName name') :
    name = name' :=
  List.append_cancel_right (List.cons.inj h).2

/-- The staging path of a path is another path.  If the path ends in a name, the staging path
ends in that name between a point and `.tmp`, in the same directory, and two such paths have
the same staging path only if they are the same.  A path that ends in no name is empty, or
only a start, or ends above; its staging path is a file in the directory that it stands for. -/
theorem staging_sibling (p : Path) :
    p.staging.components ≠ p.components ∧
    (∀ name, p.components.getLast? = some (.name name) →
      p.staging.components =
        p.components.dropLast ++ [.name ('.' :: (name ++ ".tmp".toList))] ∧
      ∀ (q : Path) name', q.components.getLast? = some (.name name') →
        q.staging.components = p.staging.components →
          name' = name ∧ q.components.dropLast = p.components.dropLast) ∧
    ((∀ name, p.components.getLast? ≠ some (.name name)) →
      (p.components = [] ∨ p.components = [.root] ∨ p.components = [.here] ∨
        p.components.getLast? = some .up) ∧
      p.staging.components = p.components ++ [.name ".diagnostics.tmp".toList]) := by
  refine ⟨?_, fun name hname => ⟨?_, fun q name' hname' hsame => ?_⟩, fun hnone => ?_⟩
  · intro hsame
    cases hname : p.fileNameChars? with
    | some name =>
      have hlast := fileNameChars?_eq_some_iff.1 hname
      rw [← hsame, components_staging_of_name hname, List.getLast?_concat] at hlast
      exact stagingName_ne name (Component.name.inj (Option.some.inj hlast))
    | none =>
      rw [components_staging_of_no_name hname] at hsame
      simpa using congrArg List.length hsame
  · exact components_staging_of_name (fileNameChars?_eq_some_iff.2 hname)
  · rw [components_staging_of_name (fileNameChars?_eq_some_iff.2 hname),
      components_staging_of_name (fileNameChars?_eq_some_iff.2 hname')] at hsame
    obtain ⟨hdirectory, hlast⟩ := List.append_inj' hsame rfl
    exact ⟨stagingName_injective (Component.name.inj (List.cons.inj hlast).1), hdirectory⟩
  · have hname : p.fileNameChars? = none := by
      rw [Option.eq_none_iff_forall_ne_some]
      exact fun name h => hnone name (fileNameChars?_eq_some_iff.1 h)
    exact ⟨components_of_no_name hname, components_staging_of_no_name hname⟩

/-- A path with repeated slashes, a point inside and one at its end. -/
def irregular : Path := ⟨".//a/./b.json//."⟩

/-- A path that ends above. -/
def ascending : Path := ⟨"/a/b/.."⟩

theorem staging_sibling_irregular :
    irregular.components = [.here, .name ['a'], .name "b.json".toList] ∧
    irregular.staging.components = [.here, .name ['a'], .name ".b.json.tmp".toList] ∧
    ascending.components = [.root, .name ['a'], .name ['b'], .up] ∧
    ascending.staging.components =
      [.root, .name ['a'], .name ['b'], .up, .name ".diagnostics.tmp".toList] := by
  have hp : irregular.components = [.here, .name ['a'], .name "b.json".toList] := by decide +kernel
  have hq : ascending.components = [.root, .name ['a'], .name ['b'], .up] := by decide +kernel
  obtain ⟨-, hnamed, -⟩ := staging_sibling irregular
  obtain ⟨-, -, hunnamed⟩ := staging_sibling ascending
  refine ⟨hp, ?_, hq, ?_⟩
  · rw [(hnamed "b.json".toList (by rw [hp]; rfl)).1, hp]
    rfl
  · rw [(hunnamed (by rw [hq]; nofun)).2, hq]
    rfl

end DmlReport.Path
