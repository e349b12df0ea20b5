import DmlReport.Proofs.Document.Members
import DmlReport.Proofs.Replay.Capture

/-!
# The exit status and the exported verdict

The document that a replay writes says whether the compilation was free of
errors, and so does the exit status.  `run_verdict` relates the two for every
replay that writes its document: the status is zero if the document says success
and the stream had no flaw, so they part exactly when a flawed stream has no
error before its flaw.  `garbled_replay_disagrees` is such a replay.
-/

namespace DmlReport

/-- What a document says about the success of its compilation. -/
def successFlag? (document : Json.Value) : Option Bool :=
  ((document.member? "compilation_summary").bind (·.member? "success")).bind (·.asBool?)

theorem Summary.member?_toValue (s : Summary) :
    s.toValue.member? "success" = some (.bool s.success) := by
  simp only [Summary.toValue, Summary.withCounts, Json.Value.member?, Json.Members.get?, List.lookup_cons,
    String.reduceBEq]

theorem successFlag?_document (l : Layout) (c : Collection) :
    successFlag? (l.document c) = some (Summary.ofCollection c).success := by
  unfold successFlag?
  rw [Layout.member?_document, Option.bind_some, Summary.member?_toValue]
  rfl

namespace Command

variable {arguments : List String} {globals : Globals} {options : ReplayOptions}
  {settings : Settings} {d : Disk} {path : Path}

/-- The exported verdict is that of the diagnostics that could be read. -/
theorem success_replayed (settings : Settings) (options : ReplayOptions) (ds : List Diagnostic) :
    (Summary.ofCollection (replayed settings options ds)).success =
      !ds.any (·.kind.countsAsError) := by
  have herrors : (Summary.ofCollection (replayed settings options ds)).errors =
      ds.countP (·.kind.countsAsError) := by
    show (ds.map (Finding.ofDiagnostic settings.handbook)).countP _ = _
    rw [List.countP_map]
    rfl
  unfold Summary.success
  rw [herrors, Bool.eq_iff_iff, beq_iff_eq, List.countP_eq_zero, Bool.not_eq_true',
    List.any_eq_false]

theorem status_eq_zero_iff (hasFailed : Bool) (written : Except ExportError Bool) :
    status hasFailed written = 0 ↔ hasFailed = false ∧ written.isOk = true := by
  unfold status
  cases hasFailed <;> cases written <;> simp [Except.isOk, Except.toBool]

/-- A replay writes its document freshly if the tree admits the destination and
no mishap comes. -/
theorem renewed_of_admits {source target : Place}
    (hrequest : Request.parse arguments = .ok (.replay globals options))
    (hsettings : (loadSettings Disk.store globals d).1 = .ok settings)
    (hpath : options.destination = some path) (hmishaps : d.mishaps = [])
    (hadmits : d.tree.Admits path source target) :
    Disk.Renewed path d (run Disk.store arguments d).2 := by
  obtain ⟨written, hcaptured⟩ := replay_captured settings globals options d
  have hdisk := hcaptured.disk
  rw [hpath, ← run_replay hrequest hsettings] at hdisk
  obtain ⟨result, hput, -⟩ := hdisk
  have hresult : result = .ok () := by
    have hsucceeds := Disk.replace_succeeds hmishaps hadmits
      (settings.layout.render
        (replayed settings options (Stream.diagnostics (d.read options.diagnostics))))
    rw [hput.replaced] at hsucceeds
    exact hsucceeds
  exact hput.renewed_iff.2 hresult

/-- A disk with a file of one line, which is an opening brace. -/
def garbledDisk : Disk :=
  .reliable ⟨[(["d.jsonl"], .file [123, 10])], []⟩

theorem load_garbledDisk :
    (loadSettings Disk.store ⟨false, false, none⟩ garbledDisk).1 = .ok Settings.defaults := by
  decide +kernel

theorem garbledDisk_admits :
    garbledDisk.tree.Admits ⟨"o.json"⟩ [".o.json.tmp"] ["o.json"] where
  source_eq := by decide +kernel
  target_eq := by decide +kernel
  source_free := by decide +kernel
  target_free := by decide +kernel
  names := by decide +kernel
  slashes := by decide +kernel

/-- The document of what a replay of a file on a disk captures. -/
def exported (settings : Settings) (options : ReplayOptions) (d : Disk) : Json.Value :=
  settings.layout.document
    (replayed settings options (Stream.diagnostics (d.read options.diagnostics)))

/-- What the exit status of a replay has to do with the document that it wrote:
the status is zero if and only if the document says success and the stream had
no flaw, so the two agree unless a flawed stream had no error before its flaw. -/
structure Verdict (settings : Settings) (options : ReplayOptions) (path : Path) (d : Disk)
    (success : Bool) (outcome : Outcome) (d' : Disk) : Prop where
  stored : d'.tree.read path =
    .ok (storedBytes ((exported settings options d).indented settings.layout.indent))
  flag : successFlag? (exported settings options d) = some success
  exit_iff : outcome.exit = 0 ↔
    success = true ∧ Stream.flaw? options.diagnostics (d.read options.diagnostics) = none
  agree_iff : (outcome.exit = 0 ↔ success = true) ↔
    Stream.flaw? options.diagnostics (d.read options.diagnostics) = none ∨ success = false

/-- Every replay that writes its document freshly has such an exit status. -/
theorem run_verdict (hrequest : Request.parse arguments = .ok (.replay globals options))
    (hsettings : (loadSettings Disk.store globals d).1 = .ok settings)
    (hpath : options.destination = some path)
    (hfresh : Disk.Renewed path d (run Disk.store arguments d).2) :
    ∃ success, Verdict settings options path d success
      (run Disk.store arguments d).1 (run Disk.store arguments d).2 := by
  obtain ⟨written, hdisk, -, -, hexit⟩ := replay_captured settings globals options d
  rw [← run_replay hrequest hsettings, hpath] at hdisk
  rw [← run_replay hrequest hsettings] at hexit
  obtain ⟨result, hput, hwritten⟩ := hdisk
  have hresult : result = .ok () := hput.renewed_iff.1 hfresh
  have hok : written.isOk = true := by
    rw [hwritten, hresult]
    rfl
  have hzero : (run Disk.store arguments d).1.exit = 0 ↔
      (!(Stream.diagnostics (d.read options.diagnostics)).any (·.kind.countsAsError)) = true ∧
        Stream.flaw? options.diagnostics (d.read options.diagnostics) = none := by
    rw [hexit, status_eq_zero_iff, hok, Bool.or_eq_false_iff, Option.isSome_eq_false_iff,
      Option.isNone_iff_eq_none, Bool.not_eq_true']
    tauto
  have hflag := successFlag?_document settings.layout
    (replayed settings options (Stream.diagnostics (d.read options.diagnostics)))
  rw [success_replayed] at hflag
  refine ⟨_, hput.stored hresult, hflag, hzero, ?_⟩
  rw [hzero]
  cases (Stream.diagnostics (d.read options.diagnostics)).any (·.kind.countsAsError) <;> simp

theorem run_verdict_garbledDisk :
    Request.parse garbledArguments =
      .ok (.replay ⟨false, false, none⟩ ⟨⟨"d.jsonl"⟩, some ⟨"o.json"⟩, none, none⟩) ∧
    (loadSettings Disk.store ⟨false, false, none⟩ garbledDisk).1 = .ok Settings.defaults ∧
    Disk.Renewed ⟨"o.json"⟩ garbledDisk (run Disk.store garbledArguments garbledDisk).2 ∧
    ∃ success, Verdict Settings.defaults ⟨⟨"d.jsonl"⟩, some ⟨"o.json"⟩, none, none⟩ ⟨"o.json"⟩
      garbledDisk success (run Disk.store garbledArguments garbledDisk).1
      (run Disk.store garbledArguments garbledDisk).2 :=
  have hfresh := renewed_of_admits parse_garbledArguments load_garbledDisk rfl rfl
    garbledDisk_admits
  ⟨parse_garbledArguments, load_garbledDisk, hfresh,
    run_verdict parse_garbledArguments load_garbledDisk rfl hfresh⟩

/-- A garbled line ends a replay with the status 1, and the document that it
leaves says success. -/
theorem garbled_replay_disagrees :
    let r := run Disk.store garbledArguments garbledDisk
    let document := Settings.defaults.layout.document ⟨Settings.defaults.handbook, .unknown, []⟩
    Disk.Renewed ⟨"o.json"⟩ garbledDisk r.2 ∧
    r.2.tree.read ⟨"o.json"⟩ = .ok (storedBytes (document.indented 2)) ∧
    successFlag? document = some true ∧
    r.1.exit = 1 := by
  intro r document
  have hfresh : Disk.Renewed ⟨"o.json"⟩ garbledDisk r.2 :=
    renewed_of_admits parse_garbledArguments load_garbledDisk rfl rfl garbledDisk_admits
  have hrun : r = replay Disk.store Settings.defaults ⟨false, false, none⟩
      ⟨⟨"d.jsonl"⟩, some ⟨"o.json"⟩, none, none⟩ garbledDisk :=
    run_replay parse_garbledArguments load_garbledDisk
  obtain ⟨written, hdisk, -, -, hexit⟩ := replay_captured Settings.defaults ⟨false, false, none⟩
    ⟨⟨"d.jsonl"⟩, some ⟨"o.json"⟩, none, none⟩ garbledDisk
  have hread : garbledDisk.read ⟨"d.jsonl"⟩ = .ok [123, 10] := by decide +kernel
  have hnone : Stream.diagnostics (.ok [123, 10]) = [] :=
    List.isEmpty_iff.1 (by decide +kernel)
  have hflaw : (Stream.flaw? ⟨"d.jsonl"⟩ (.ok [123, 10])).isSome = true := by decide +kernel
  rw [← hrun] at hdisk hexit
  clear_value r
  simp only [hread, hnone, hflaw] at hdisk hexit
  obtain ⟨result, hput, -⟩ := hdisk
  exact ⟨hfresh, hput.stored (hput.renewed_iff.1 hfresh), successFlag?_document _ _, hexit⟩

end Command

end DmlReport
