import DmlReport.Proofs.Diagnostic.Schema
import DmlReport.Proofs.Document.Members
import DmlReport.Proofs.Replay.Additive
import DmlReport.Proofs.Storage.Contents

/-!
# A replay does not depend on the layout of its lines

Two lines that are laid out differently hold the same diagnostic (`SameLine.content`), so
two files whose lines correspond hold the same diagnostics.  Two replays of such files, on
disks that differ in the contents of files only, are one program from there on: they show
the same, and they put the same text at their destination (`Indistinguishable`).  The
members of every context in that text are in the order of the bytes of their keys.
-/

namespace DmlReport

open Json (Value Alike)

/-! ## The contexts of a document -/

/-- A document has a list of entries, and the members of the context of each are in strictly
increasing order of the bytes of their keys, at every depth. -/
def Json.Value.ContextsAscend (document : Value) : Prop :=
  ∃ entries, document.member? "diagnostics" = some (.array entries) ∧
    ∀ e ∈ entries, ∃ context, e.member? "context" = some context ∧ context.ascends = true

theorem Finding.member?_context (f : Finding) :
    f.toValue.member? "context" = some (.ofOption .object f.context) := by
  simp [toValue]

/-- The context of a finding is that of its diagnostic, or nothing. -/
theorem Finding.ascends_context (h : Handbook) {s : String} {d : Diagnostic}
    (hd : Json.decodeText Diagnostic.decode s = .ok d) :
    (Value.ofOption .object (ofDiagnostic h d).context).ascends = true := by
  show (Value.ofOption .object d.members).ascends = true
  unfold Diagnostic.members
  split
  · rename_i members hcontext
    exact Value.ascends_of_isSorted (Diagnostic.isSorted_context_of_text hd hcontext)
  · rfl

theorem Layout.contextsAscend (l : Layout) (h : Handbook) (context : Context)
    {ds : List Diagnostic} (hds : ∀ d ∈ ds, ∃ s, Json.decodeText Diagnostic.decode s = .ok d) :
    (l.document ⟨h, context, ds.map (Finding.ofDiagnostic h)⟩).ContextsAscend := by
  refine ⟨_, l.member?_diagnostics _, ?_⟩
  simp only [List.forall_mem_map]
  intro d hd
  obtain ⟨s, hs⟩ := hds d hd
  exact ⟨_, Finding.member?_context _, Finding.ascends_context h hs⟩

namespace Command

/-! ## Lines that correspond -/

/-- Two lines are blank, or hold the compact texts of values that differ in their layout
only; no object has a key twice. -/
inductive SameLine : List UInt8 → List UInt8 → Prop
  | blank {line line' : List UInt8} (h : LineContent.ofBytes line = .blank)
      (h' : LineContent.ofBytes line' = .blank) : SameLine line line'
  | value {v w : Value} (hkeys : v.hasDistinctKeys = true) (halike : Alike Diagnostic.schema v w) :
      SameLine (Text.encode v.compact.toList) (Text.encode w.compact.toList)

/-- Lines that correspond hold the same diagnostic, or neither holds one. -/
theorem SameLine.content {line line' : List UInt8} (h : SameLine line line') :
    (LineContent.ofBytes line).diagnostic? = (LineContent.ofBytes line').diagnostic? ∧
      (LineContent.ofBytes line).breaks = (LineContent.ofBytes line').breaks := by
  cases h with
  | blank h h' => exact ⟨by rw [h, h'], by rw [h, h']⟩
  | @value v w hkeys halike =>
    by_cases hboth : v.isContainer = true ∧ w.isContainer = true
    · have hdecode := Diagnostic.decodeText_alike hkeys halike
      rw [LineContent.ofBytes_compact hboth.1, LineContent.ofBytes_compact hboth.2]
      generalize Json.decodeText Diagnostic.decode v.compact = x,
        Json.decodeText Diagnostic.decode w.compact = y at hdecode ⊢
      cases x with
      | ok d =>
        cases y with
        | ok d' =>
          cases hdecode
          exact ⟨rfl, rfl⟩
        | error fault' => cases hdecode
      | error fault =>
        cases y with
        | ok d' => cases hdecode
        | error fault' => exact ⟨rfl, rfl⟩
    · have hscalar : v.isContainer = false ∨ w.isContainer = false := by
        rwa [← Bool.not_eq_true, ← Bool.not_eq_true, ← not_and_or]
      obtain rfl := halike.eq_of_scalar hscalar
      exact ⟨rfl, rfl⟩

namespace Stream

variable {lines lines' : List (List UInt8)}

theorem readable_same (h : List.Forall₂ SameLine lines lines') :
    readable lines = readable lines' := by
  induction h with
  | nil => rfl
  | cons hline _ ih =>
    obtain ⟨hdiagnostic, hbreaks⟩ := hline.content
    cases hb : (LineContent.ofBytes _).breaks with
    | true => rw [readable_cons_of_breaks hb, readable_cons_of_breaks (hbreaks ▸ hb)]
    | false => rw [readable_cons hb, readable_cons (hbreaks ▸ hb), hdiagnostic, ih]

theorem breaks_same (h : List.Forall₂ SameLine lines lines')
    (hlines : ∀ line ∈ lines, (LineContent.ofBytes line).breaks = false) :
    ∀ line ∈ lines', (LineContent.ofBytes line).breaks = false := by
  induction h with
  | nil => exact hlines
  | cons hline _ ih =>
    obtain ⟨hfirst, hrest⟩ := List.forall_mem_cons.1 hlines
    exact List.forall_mem_cons.2 ⟨hline.content.2 ▸ hfirst, ih hrest⟩

/-- A file whose lines all decode is read to its end. -/
theorem read_to_end {bytes : List UInt8} (path : Path)
    (h : ∀ line ∈ Text.physicalLines bytes, (LineContent.ofBytes line).breaks = false) :
    diagnostics (.ok bytes) = readable (Text.physicalLines bytes) ∧
      flaw? path (.ok bytes) = none := by
  rw [Text.physicalLines_eq] at h ⊢
  exact ⟨rfl, (firstFlaw_eq_none_iff 1 _).2 h⟩

end Stream

/-! ## Two replays -/

/-- Two replays of the same diagnostics that cannot be told apart: what they show, their
exit status and what they report are the same, and their disks differ in the contents of
files only.  If they export, they put one text at their destination with one result; it is
read as its document, member by member, and the contexts there have their keys in order. -/
structure Indistinguishable (settings : Settings) (options : ReplayOptions)
    (ds : List Diagnostic) (d d' : Disk) (run run' : Outcome × Disk) : Prop where
  outcome : run.1 = run'.1
  shape : run.2.SameShape run'.2
  exported (path : Path) : options.destination = some path → ∃ written,
    Disk.PutOnce path (settings.layout.render (replayed settings options ds)) d written run.2 ∧
    Disk.PutOnce path (settings.layout.render (replayed settings options ds)) d' written run'.2
  whole : Json.Document.read (settings.layout.render (replayed settings options ds)).toList =
    ⟨(settings.layout.document (replayed settings options ds)).tree, true⟩
  contexts : (settings.layout.document (replayed settings options ds)).ContextsAscend

variable {settings : Settings} {globals : Globals} {options : ReplayOptions} {other : Path}
  {d d' : Disk} {bytes bytes' : List UInt8}

/-- A text is put at a path with one result on disks of the same shape. -/
theorem written_same {path : Path} {text : String} {written written' : Except Failure Unit}
    {d₁ d₁' : Disk} (hshape : d.SameShape d') (h : Disk.PutOnce path text d written d₁)
    (h' : Disk.PutOnce path text d' written' d₁') : written = written' := by
  obtain ⟨hresult, -⟩ := Simulates.replace Disk.SameShape.simulates path text d d' hshape
  rwa [h.replaced, h'.replaced] at hresult

variable (settings options other) in
/-- The scope of a replay is not told where its diagnostics come from. -/
theorem replayedScope_diagnostics (ds : List Diagnostic) :
    replayedScope settings { options with diagnostics := other } ds =
      replayedScope settings options ds := rfl

theorem replay_indistinguishable (hread : d.read options.diagnostics = .ok bytes)
    (hread' : d'.read other = .ok bytes') (hshape : d.SameShape d')
    (hsame : List.Forall₂ SameLine (Text.physicalLines bytes) (Text.physicalLines bytes'))
    (hdecodes : ∀ line ∈ Text.physicalLines bytes, (LineContent.ofBytes line).breaks = false) :
    Indistinguishable settings options (Stream.readable (Text.physicalLines bytes)) d d'
      (replay Disk.store settings globals options d)
      (replay Disk.store settings globals { options with diagnostics := other } d') := by
  obtain ⟨hdiagnostics, hflaw⟩ := Stream.read_to_end options.diagnostics hdecodes
  obtain ⟨hdiagnostics', hflaw'⟩ := Stream.read_to_end other (Stream.breaks_same hsame hdecodes)
  rw [← hread] at hdiagnostics hflaw
  rw [← hread', ← Stream.readable_same hsame] at hdiagnostics'
  rw [← hread'] at hflaw'
  -- Both replays end one scope, after one pass over the same diagnostics.
  have hrun := replay_of_diagnostics settings globals options hdiagnostics hflaw
  have hrun' := replay_of_diagnostics settings globals { options with diagnostics := other }
    hdiagnostics' hflaw'
  obtain ⟨houtcome, hafter⟩ := Simulates.endReplay Disk.SameShape.simulates
    (replayedScope settings options (Stream.readable (Text.physicalLines bytes))) _ none d d' hshape
  refine ⟨?_, ?_, fun path hpath => ?_, ?_, ?_⟩
  · rw [hrun, hrun']
    exact houtcome
  · rw [hrun, hrun']
    exact hafter
  · have hdisk := (replay_replays settings globals options d).disk
    have hdisk' := (replay_replays settings globals { options with diagnostics := other } d').disk
    rw [hdiagnostics] at hdisk
    rw [hdiagnostics', replayedScope_diagnostics] at hdisk'
    obtain ⟨written, hput, -⟩ := replayedScope_write settings hpath
      (Stream.readable (Text.physicalLines bytes)) d
    obtain ⟨written', hput', -⟩ := replayedScope_write settings hpath
      (Stream.readable (Text.physicalLines bytes)) d'
    rw [← hdisk] at hput
    rw [← hdisk'] at hput'
    obtain rfl := written_same hshape hput hput'
    exact ⟨written, hput, hput'⟩
  · rw [Layout.render, Value.indented, String.toList_ofList]
    exact Json.Document.read_tree (Json.Style.indented_spaced _) _
  · exact settings.layout.contextsAscend settings.handbook _ fun _ => Stream.mem_readable

/-! ## Runs of the program -/

/-- The layout of the lines that are replayed has no part in what comes of them.  The compact
texts of two values without a repeated key that differ in the order of members, and in
members that the records of a diagnostic do not have, are decoded as one diagnostic or
refused both.  Two runs that replay files whose lines correspond in this way, all of which
decode, therefore show the same and export the same. -/
theorem run_indistinguishable :
    (∀ v w : Value, v.hasDistinctKeys = true → Alike Diagnostic.schema v w →
      (Json.decodeText Diagnostic.decode v.compact).toOption =
        (Json.decodeText Diagnostic.decode w.compact).toOption) ∧
    ∀ arguments arguments' globals options other settings d d' bytes bytes',
      Request.parse arguments = .ok (.replay globals options) →
      Request.parse arguments' = .ok (.replay globals { options with diagnostics := other }) →
      (loadSettings Disk.store globals d).1 = .ok settings →
      (loadSettings Disk.store globals d').1 = .ok settings →
      d.read options.diagnostics = .ok bytes → d'.read other = .ok bytes' →
      d.SameShape d' →
      List.Forall₂ SameLine (Text.physicalLines bytes) (Text.physicalLines bytes') →
      (∀ line ∈ Text.physicalLines bytes, (LineContent.ofBytes line).breaks = false) →
      Indistinguishable settings options (Stream.readable (Text.physicalLines bytes)) d d'
        (run Disk.store arguments d) (run Disk.store arguments' d') := by
  refine ⟨fun v w => Diagnostic.decodeText_alike, ?_⟩
  intro arguments arguments' globals options other settings d d' bytes bytes' hrequest hrequest'
    hsettings hsettings' hread hread' hshape hsame hdecodes
  rw [run_replay hrequest hsettings, run_replay hrequest' hsettings']
  exact replay_indistinguishable hread hread' hshape hsame hdecodes

/-- A diagnostic with a context. -/
def oneLayout : Value :=
  .object [("kind", .string "error"), ("context", .object [("b", .bool true), ("a", .null)])]

/-- The same with other orders of members, and with a member that no diagnostic has. -/
def otherLayout : Value :=
  .object [("x", .array []), ("context", .object [("a", .null), ("b", .bool true)]),
    ("kind", .string "error")]

theorem oneLayout_alike : Alike Diagnostic.schema oneLayout otherLayout := by
  have hcontext : Json.Step Diagnostic.schema oneLayout
      (.object [("kind", .string "error"),
        ("context", .object [("a", .null), ("b", .bool true)])]) :=
    @Json.Step.member _ [("kind", .string "error")] [] "context" _ _ (.permute (.swap _ _ _))
  have hinsert : Json.Step Diagnostic.schema
      (.object [("context", .object [("a", .null), ("b", .bool true)]),
        ("kind", .string "error")]) otherLayout :=
    .insert rfl (by decide) rfl
  exact ((Relation.EqvGen.rel _ _ hcontext).trans _ _ _
    (.rel _ _ (.permute (.swap _ _ _)))).trans _ _ _ (.rel _ _ hinsert)

/-- A disk with a file for each of the two layouts. -/
def layoutsDisk : Disk :=
  .reliable ⟨[(["a.jsonl"], .file (Text.encode oneLayout.compact.toList)),
    (["b.jsonl"], .file (Text.encode otherLayout.compact.toList))], []⟩

theorem run_indistinguishable_layoutsDisk :
    let options : ReplayOptions := ⟨⟨"a.jsonl"⟩, some ⟨"o.json"⟩, none, none⟩
    let bytes := Text.encode oneLayout.compact.toList
    oneLayout.hasDistinctKeys = true ∧ Alike Diagnostic.schema oneLayout otherLayout ∧
    (∀ line ∈ Text.physicalLines bytes, (LineContent.ofBytes line).breaks = false) ∧
    (Json.decodeText Diagnostic.decode oneLayout.compact).toOption =
      (Json.decodeText Diagnostic.decode otherLayout.compact).toOption ∧
    Indistinguishable Settings.defaults options (Stream.readable (Text.physicalLines bytes))
      layoutsDisk layoutsDisk
      (run Disk.store ["replay", "a.jsonl", "--ai-json", "o.json"] layoutsDisk)
      (run Disk.store ["replay", "b.jsonl", "--ai-json", "o.json"] layoutsDisk) := by
  intro options bytes
  have hkeys : oneLayout.hasDistinctKeys = true := by decide +kernel
  have hlines : Text.physicalLines bytes = [bytes] := by decide +kernel
  have hlines' : Text.physicalLines (Text.encode otherLayout.compact.toList) =
      [Text.encode otherLayout.compact.toList] := by decide +kernel
  have hdecodes : ∀ line ∈ Text.physicalLines bytes,
      (LineContent.ofBytes line).breaks = false := by decide +kernel
  have hsame : List.Forall₂ SameLine (Text.physicalLines bytes)
      (Text.physicalLines (Text.encode otherLayout.compact.toList)) := by
    rw [hlines, hlines']
    exact .cons (.value hkeys oneLayout_alike) .nil
  have hsettings : (loadSettings Disk.store ⟨false, false, none⟩ layoutsDisk).1 =
      .ok Settings.defaults := by decide +kernel
  have hread : layoutsDisk.read ⟨"a.jsonl"⟩ = .ok bytes := by decide +kernel
  have hread' : layoutsDisk.read ⟨"b.jsonl"⟩ =
      .ok (Text.encode otherLayout.compact.toList) := by decide +kernel
  obtain ⟨hdecode, hruns⟩ := run_indistinguishable
  refine ⟨hkeys, oneLayout_alike, hdecodes, hdecode _ _ hkeys oneLayout_alike, ?_⟩
  exact hruns _ _ ⟨false, false, none⟩ options ⟨"b.jsonl"⟩ _ _ _ _ _
    (by decide +kernel) (by decide +kernel) hsettings hsettings hread hread' (.refl _) hsame
    hdecodes

end Command

end DmlReport
