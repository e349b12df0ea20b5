import DmlReport.Command.Run
import DmlReport.Proofs.Replay.Reading
import DmlReport.Proofs.Scope.Endings

/-!
# What a replay leaves behind

A replay captures the diagnostics that can be read and nothing else, wherever
its file breaks off and whether or not its document can be written.  `Captured`
says what that means for the disk, the reported failure and the exit status, and
`run_captures` proves it of every command line that asks for a replay and every
configuration that loads.
-/

namespace DmlReport.Command

/-! ## Settings -/

theorem loadDirectory_disk (directory : Path) (d : Disk) :
    (Settings.loadDirectory Disk.store directory d).2 = d := by
  unfold Settings.loadDirectory
  simp only [Disk.bind_apply]
  split
  · rfl
  · rfl

section

variable {globals : Globals} {path : Path}

theorem loadSettings_named (h : globals.config = some path) (d : Disk) :
    loadSettings Disk.store globals d =
      ((Settings.loadFile Disk.store path d).1.mapError .settings, d) := by
  unfold loadSettings
  rw [h]
  rfl

theorem loadSettings_nowhere {e : Failure} {d : Disk} (h : globals.config = none)
    (hfound : d.tree.workingDirectory = .error e) :
    loadSettings Disk.store globals d = (.error (.nowhere e), d) := by
  have hstore : Disk.store.workingDirectory d = (.error e, d) := Prod.ext hfound rfl
  unfold loadSettings
  simp only [h, Disk.bind_apply, hstore]
  rfl

theorem loadSettings_unnamed {directory : Path} {d : Disk} (h : globals.config = none)
    (hfound : d.tree.workingDirectory = .ok directory) :
    loadSettings Disk.store globals d =
      ((Settings.loadDirectory Disk.store directory d).1.mapError .settings, d) := by
  have hstore : Disk.store.workingDirectory d = (.ok directory, d) := Prod.ext hfound rfl
  unfold loadSettings
  simp only [h, Disk.bind_apply, hstore]
  exact Prod.ext rfl (loadDirectory_disk directory d)

end

/-- Loading the settings leaves the disk as it is. -/
theorem loadSettings_disk (globals : Globals) (d : Disk) :
    (loadSettings Disk.store globals d).2 = d := by
  cases hnamed : globals.config with
  | some path => rw [loadSettings_named hnamed]
  | none =>
    cases hfound : d.tree.workingDirectory with
    | error e => rw [loadSettings_nowhere hnamed hfound]
    | ok directory => rw [loadSettings_unnamed hnamed hfound]

/-- A command line that asks for a replay, with settings that load, replays. -/
theorem run_replay {arguments : List String} {globals : Globals} {options : ReplayOptions}
    {settings : Settings} {d : Disk}
    (hrequest : Request.parse arguments = .ok (.replay globals options))
    (hsettings : (loadSettings Disk.store globals d).1 = .ok settings) :
    run Disk.store arguments d = replay Disk.store settings globals options d := by
  have hload : loadSettings Disk.store globals d = (.ok settings, d) :=
    Prod.ext hsettings (loadSettings_disk globals d)
  rw [run, hrequest]
  show perform Disk.store (.replay globals options) d = _
  rw [perform, Disk.bind_apply, hload]

/-! ## The scope of a replay -/

/-- What a replay collects from the diagnostics it reads. -/
def replayed (settings : Settings) (options : ReplayOptions) (ds : List Diagnostic) : Collection :=
  ⟨settings.handbook, ⟨options.inputFile, options.dialect⟩,
    ds.map (Finding.ofDiagnostic settings.handbook)⟩

/-- The scope of a replay that has come so far. -/
def replayEnd (settings : Settings) (options : ReplayOptions) (p : Progress) : Scope :=
  { replayScope settings options with gate := p.gate }

section

variable {settings : Settings} {globals : Globals} {options : ReplayOptions}

theorem replayEnd_gate (p : Progress) : (replayEnd settings options p).gate = p.gate := rfl

variable (settings options) in
theorem active_replayEnd (quiet : Bool) (ds : List Diagnostic)
    (h : options.destination.isSome = true) :
    (replayEnd settings options (ds.foldl (Progress.next quiet)
      (.start (replayScope settings options).gate))).gate.active =
        some (replayed settings options ds) := by
  have hstart : (Progress.start (replayScope settings options).gate).gate =
      ⟨settings.handbook, some (replayed settings options [])⟩ := by
    unfold replayScope Scope.start
    rw [h]
    rfl
  rw [replayEnd_gate, gate_foldl_next, hstart, foldl_log]
  rfl

/-- A replay is one pass over its file and one ending of its scope. -/
theorem replay_eq (d : Disk) :
    replay Disk.store settings globals options d =
      let contents := d.read options.diagnostics
      let p := (Stream.diagnostics contents).foldl (Progress.next globals.quiet)
        (.start (replayScope settings options).gate)
      endReplay Disk.store (replayEnd settings options p) p
        (Stream.flaw? options.diagnostics contents) d := by
  have heq : replay Disk.store settings globals options d =
      let r := replayContents globals.quiet options.diagnostics (replayScope settings options).gate
        (d.read options.diagnostics)
      endReplay Disk.store (replayEnd settings options r.1) r.1 r.2 d := rfl
  rw [heq, replayContents_eq]

end

/-! ## The end of a replay -/

/-- The failure that a replay reports: a flaw of its stream before a document
that could not be written. -/
def reported (flaw : Option StreamError) (written : Except ExportError Bool) : Option RunError :=
  match flaw, written with
  | some flaw, _ => some (.stream flaw)
  | none, .error e => some (.exporting e)
  | none, .ok _ => none

theorem reported_eq_stream_iff (flaw : Option StreamError) (written : Except ExportError Bool)
    (e : StreamError) : reported flaw written = some (.stream e) ↔ flaw = some e := by
  cases flaw <;> cases written <;> simp [reported]

/-- The exit status of a replay, which has failed if its stream has a flaw or if
one of its diagnostics counts as an error. -/
def status (hasFailed : Bool) (written : Except ExportError Bool) : Nat :=
  if hasFailed then 1
  else
    match written with
    | .ok _ => 0
    | .error _ => 2

theorem exitStatus_eq_status (errors : Nat) (written : Except ExportError Bool) :
    exitStatus errors written.isOk = status (decide (0 < errors)) written := by
  unfold exitStatus status
  by_cases h : 0 < errors
  · simp only [h, decide_true, if_true]
  · simp only [h, decide_false, if_false, Bool.false_eq_true]
    cases written <;> rfl

/-- A replay ends with one write, and shows what became of it. -/
theorem endReplay_eq {s : Scope} (h : s.isFinished = false) (p : Progress)
    (flaw : Option StreamError) (d : Disk) :
    let written := (s.write Disk.store d).1.1
    (endReplay Disk.store s p flaw d).2 = (s.write Disk.store d).2 ∧
      (endReplay Disk.store s p flaw d).1.failure = reported flaw written ∧
      (endReplay Disk.store s p flaw d).1.exit =
        status (flaw.isSome || decide (0 < p.errors)) written := by
  intro written
  cases flaw with
  | some e => exact ⟨(Scope.close_on_disk h .left d).1, rfl, rfl⟩
  | none =>
    obtain ⟨hdisk, hwritten⟩ := Scope.close_on_disk h .finished d
    rcases hclose : s.close Disk.store .finished d with ⟨⟨result, events⟩, d'⟩
    rw [hclose] at hdisk hwritten
    have hresult : result = written := hwritten
    rw [endReplay, Disk.bind_apply, hclose, ← hdisk, ← hresult, Option.isSome_none,
      Bool.false_or, ← exitStatus_eq_status]
    cases result with
    | ok b => exact ⟨rfl, rfl, rfl⟩
    | error e => exact ⟨rfl, rfl, rfl⟩

/-! ## A command line -/

/-- A command line that replays the file `d.jsonl`, with a destination. -/
def garbledArguments : List String := ["replay", "d.jsonl", "--ai-json", "o.json"]

theorem parse_garbledArguments :
    Request.parse garbledArguments =
      .ok (.replay ⟨false, false, none⟩ ⟨⟨"d.jsonl"⟩, some ⟨"o.json"⟩, none, none⟩) := by
  decide +kernel

/-! ## Replays as a whole -/

/-- A replay has captured what can be read of its file: the disk has changed by
one attempt to write the document of that, or not at all without a destination;
the first flaw of the stream is reported, a malformed line with its number in the
file, or else a failed write; and the exit status says whether there was a flaw,
an error or a failed write. -/
structure Captured (settings : Settings) (options : ReplayOptions) (d : Disk)
    (written : Except ExportError Bool) (outcome : Outcome) (d' : Disk) : Prop where
  disk :
    match options.destination with
    | none => d' = d ∧ written = .ok false
    | some path =>
      ∃ result,
        Disk.PutOnce path
          (settings.layout.render
            (replayed settings options (Stream.diagnostics (d.read options.diagnostics))))
          d result d' ∧
        written = ExportError.answer path result
  failure : outcome.failure =
    reported (Stream.flaw? options.diagnostics (d.read options.diagnostics)) written
  malformed (k : Nat) (fault : Json.Fault) :
    outcome.failure = some (.stream (.malformed options.diagnostics k fault)) ↔
      ∃ bytes before line after, d.read options.diagnostics = .ok bytes ∧
        Text.linesOfPieces (bytes.splitOn 10) = before ++ line :: after ∧
        (∀ l ∈ before, (LineContent.ofBytes l).breaks = false) ∧
        LineContent.ofBytes line = .garbled fault ∧ k = before.length + 1
  exit : outcome.exit =
    status
      ((Stream.flaw? options.diagnostics (d.read options.diagnostics)).isSome ||
        (Stream.diagnostics (d.read options.diagnostics)).any (·.kind.countsAsError))
      written

variable {arguments : List String} {globals : Globals} {options : ReplayOptions}
  {settings : Settings} {d : Disk}

theorem replay_captured (settings : Settings) (globals : Globals) (options : ReplayOptions)
    (d : Disk) :
    ∃ written, Captured settings options d written
      (replay Disk.store settings globals options d).1
      (replay Disk.store settings globals options d).2 := by
  -- `p` is what the loop has come to when the stream ends, with a flaw or without.
  obtain ⟨p, hp⟩ : ∃ p, p = (Stream.diagnostics (d.read options.diagnostics)).foldl
    (Progress.next globals.quiet) (.start (replayScope settings options).gate) := ⟨_, rfl⟩
  have herrors : decide (0 < p.errors) =
      (Stream.diagnostics (d.read options.diagnostics)).any (·.kind.countsAsError) := by
    have hstart : (Progress.start (replayScope settings options).gate).errors = 0 := rfl
    rw [hp, errors_foldl_next, hstart, Nat.zero_add, Bool.eq_iff_iff, decide_eq_true_iff,
      List.any_eq_true, List.countP_pos_iff]
  have heq : replay Disk.store settings globals options d =
      endReplay Disk.store (replayEnd settings options p) p
        (Stream.flaw? options.diagnostics (d.read options.diagnostics)) d := by
    rw [replay_eq, hp]
  obtain ⟨hdisk, hfailure, hexit⟩ := endReplay_eq (s := replayEnd settings options p) rfl p
    (Stream.flaw? options.diagnostics (d.read options.diagnostics)) d
  rw [herrors] at hexit
  rw [heq]
  refine ⟨_, ?_, hfailure, ?_, hexit⟩
  · rw [hdisk]
    cases hdest : options.destination with
    | none =>
      have hwrite := Scope.write_nothing (s := replayEnd settings options p) (Or.inl hdest) d
      rw [hwrite]
      exact ⟨rfl, rfl⟩
    | some path =>
      have hactive := active_replayEnd settings options globals.quiet
        (Stream.diagnostics (d.read options.diagnostics)) (by rw [hdest]; rfl)
      rw [← hp] at hactive
      exact Scope.write_on_disk (s := replayEnd settings options p) hdest hactive d
  · intro k fault
    rw [hfailure, reported_eq_stream_iff, Stream.flaw?_eq_malformed_iff]

end DmlReport.Command
