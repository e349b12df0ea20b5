import DmlReport.Proofs.Replay.Capture

/-!
# An export adds nothing to the primary stream

What a replay shows depends on the diagnostics that it reads and on how its stream ends,
and not on the gate (`lines_foldl_next`, `endReplay_lines`).  Two replays of one file that
differ in their destination and the context of their document therefore show the same
lines and report the same flaw, and they differ in their exit status only if the document
cannot be written (`Additive`).  Two replays that differ in being quiet leave the same
disk, and the quiet one shows the lines of errors alone (`Quieted`).  `run_additive` says
both of runs of the program.
-/

namespace DmlReport.Command

variable {settings : Settings} {globals : Globals} {options : ReplayOptions} {d : Disk}

/-! ## What a replay shows -/

theorem lines_events (events : List Event) :
    (events.map Notice.event).filterMap Notice.line? = [] := by
  rw [List.filterMap_map]
  exact List.filterMap_eq_nil_iff.2 fun _ _ => rfl

/-- The loop shows a line for each diagnostic that is to be shown, whatever the gate. -/
theorem lines_foldl_next (quiet : Bool) (p : Progress) (ds : List Diagnostic) :
    (ds.foldl (Progress.next quiet) p).notices.filterMap Notice.line? =
      p.notices.filterMap Notice.line? ++ (ds.filter (isShown quiet)).map primaryLine := by
  induction ds generalizing p with
  | nil => simp
  | cons d ds ih =>
    have hstep : (p.next quiet d).notices.filterMap Notice.line? =
        p.notices.filterMap Notice.line? ++
          if isShown quiet d then [primaryLine d] else [] := by
      unfold Progress.next
      rw [List.filterMap_append, List.filterMap_append, lines_events, List.append_nil]
      split <;> rfl
    rw [List.foldl_cons, ih, hstep, List.append_assoc, List.filter_cons]
    split <;> rfl

/-- The end of a replay adds events and no line. -/
theorem endReplay_lines (s : Scope) (p : Progress) (flaw : Option StreamError) (d : Disk) :
    (endReplay Disk.store s p flaw d).1.lines = p.notices.filterMap Notice.line? ∧
      (endReplay Disk.store s p flaw d).1.output = "" := by
  cases flaw with
  | some e =>
    rcases hclose : s.close Disk.store .left d with ⟨⟨result, events⟩, d'⟩
    have hlines : (p.notices ++ events.map Notice.event).filterMap Notice.line? =
        p.notices.filterMap Notice.line? := by
      rw [List.filterMap_append, lines_events, List.append_nil]
    rw [endReplay, Disk.bind_apply, hclose]
    exact ⟨hlines, rfl⟩
  | none =>
    rcases hclose : s.close Disk.store .finished d with ⟨⟨result, events⟩, d'⟩
    have hlines : (p.notices ++ [Notice.event (.replayed p.errors)] ++
        events.map Notice.event).filterMap Notice.line? =
          p.notices.filterMap Notice.line? := by
      rw [List.filterMap_append, lines_events, List.append_nil, List.filterMap_append]
      exact List.append_nil _
    rw [endReplay, Disk.bind_apply, hclose]
    cases result with
    | ok _ => exact ⟨hlines, rfl⟩
    | error _ => exact ⟨hlines, rfl⟩

/-! ## A replay as a whole -/

variable (settings options) in
/-- The scope that a replay of some diagnostics ends. -/
def replayedScope (ds : List Diagnostic) : Scope :=
  let scope := replayScope settings options
  { scope with gate := ds.foldl Gate.log scope.gate }

/-- What a replay of a file leaves and shows: one write of its scope, the lines of the
diagnostics that are to be shown, and an exit status. -/
structure Replays (settings : Settings) (quiet : Bool) (options : ReplayOptions)
    (ds : List Diagnostic) (flaw : Option StreamError) (d : Disk)
    (outcome : Outcome) (d' : Disk) : Prop where
  disk : d' = ((replayedScope settings options ds).write Disk.store d).2
  lines : outcome.lines = (ds.filter (isShown quiet)).map primaryLine
  output : outcome.output = ""
  failure : outcome.failure =
    reported flaw ((replayedScope settings options ds).write Disk.store d).1.1
  exit : outcome.exit = status (flaw.isSome || decide (0 < ds.countP (·.kind.countsAsError)))
    ((replayedScope settings options ds).write Disk.store d).1.1

variable (settings globals options) in
/-- A replay is one pass over the diagnostics of its file and one ending of the scope that
they leave. -/
theorem replay_of_diagnostics {ds : List Diagnostic} {flaw : Option StreamError}
    (hds : Stream.diagnostics (d.read options.diagnostics) = ds)
    (hflaw : Stream.flaw? options.diagnostics (d.read options.diagnostics) = flaw) :
    replay Disk.store settings globals options d =
      endReplay Disk.store (replayedScope settings options ds)
        (ds.foldl (Progress.next globals.quiet) (.start (replayScope settings options).gate))
        flaw d := by
  have hscope : replayEnd settings options (ds.foldl (Progress.next globals.quiet)
      (.start (replayScope settings options).gate)) = replayedScope settings options ds := by
    unfold replayEnd replayedScope
    rw [gate_foldl_next]
    rfl
  subst hds hflaw
  rw [replay_eq, ← hscope]

variable (settings globals options d) in
theorem replay_replays :
    Replays settings globals.quiet options (Stream.diagnostics (d.read options.diagnostics))
      (Stream.flaw? options.diagnostics (d.read options.diagnostics)) d
      (replay Disk.store settings globals options d).1
      (replay Disk.store settings globals options d).2 := by
  obtain ⟨ds, hds⟩ : ∃ ds, Stream.diagnostics (d.read options.diagnostics) = ds := ⟨_, rfl⟩
  obtain ⟨flaw, hflaw⟩ : ∃ flaw,
    Stream.flaw? options.diagnostics (d.read options.diagnostics) = flaw := ⟨_, rfl⟩
  obtain ⟨p, hp⟩ : ∃ p, p = ds.foldl (Progress.next globals.quiet)
    (.start (replayScope settings options).gate) := ⟨_, rfl⟩
  have hlines := lines_foldl_next globals.quiet (.start (replayScope settings options).gate) ds
  have herrors := errors_foldl_next globals.quiet (.start (replayScope settings options).gate) ds
  rw [← hp] at hlines herrors
  obtain ⟨hshown, houtput⟩ := endReplay_lines (replayedScope settings options ds) p flaw d
  obtain ⟨hdisk, hfailure, hexit⟩ :=
    endReplay_eq (s := replayedScope settings options ds) rfl p flaw d
  have hcount : p.errors = ds.countP (·.kind.countsAsError) := herrors.trans (Nat.zero_add _)
  rw [hcount] at hexit
  rw [hds, hflaw, replay_of_diagnostics settings globals options hds hflaw, ← hp]
  exact ⟨hdisk, hshown.trans hlines, houtput, hfailure, hexit⟩

variable (settings) in
/-- With a destination, the write of a replayed scope is one attempt to put the document
of what was read there. -/
theorem replayedScope_write {path : Path} (hpath : options.destination = some path)
    (ds : List Diagnostic) (d : Disk) :
    ∃ result,
      Disk.PutOnce path (settings.layout.render (replayed settings options ds)) d result
        ((replayedScope settings options ds).write Disk.store d).2 ∧
      ((replayedScope settings options ds).write Disk.store d).1.1 =
        ExportError.answer path result := by
  have hactive := active_replayEnd settings options false ds (by rw [hpath]; rfl)
  rw [replayEnd_gate, gate_foldl_next] at hactive
  exact Scope.write_on_disk (s := replayedScope settings options ds) hpath hactive d

variable (settings) in
theorem replayedScope_write_nothing (hnone : options.destination = none)
    (ds : List Diagnostic) (d : Disk) :
    (replayedScope settings options ds).write Disk.store d = ((.ok false, []), d) :=
  Scope.write_nothing (s := replayedScope settings options ds) (Or.inl hnone) d

/-! ## Exporting or not -/

/-- The message of a run that cannot write its document, if it is shown: a flaw of the
stream takes its place. -/
def writeMessage (path : Path) (streamBreaks : Bool) : Except Failure Unit → List String
  | .ok () => []
  | .error cause =>
    if streamBreaks then [] else ["error: " ++ (ExportError.unwritable path cause).message]

/-- How a replay that puts its document at a path compares with one of the same file that
exports nothing. -/
structure Additive (flaw : Option StreamError) (path : Path) (written : Except Failure Unit)
    (plain exporting : Outcome) : Prop where
  lines : exporting.lines = plain.lines
  output : exporting.output = plain.output
  plainFailure : plain.failure = flaw.map .stream
  flawed : ∀ e, exporting.failure = some (.stream e) ↔ flaw = some e
  messages : exporting.messages = plain.messages ++ writeMessage path flaw.isSome written
  exits : plain.exit = 0 ∨ plain.exit = 1
  failed : plain.exit = 1 → exporting.exit = 1
  succeeded : plain.exit = 0 → exporting.exit = if written.isOk then 0 else 2

theorem additive_of_replays {options' : ReplayOptions} {quiet : Bool} {path : Path}
    {ds : List Diagnostic} {flaw : Option StreamError} {plain exporting : Outcome}
    {d₁ d₂ : Disk} (hnone : options.destination = none)
    (hpath : options'.destination = some path)
    (hplain : Replays settings quiet options ds flaw d plain d₁)
    (hexporting : Replays settings quiet options' ds flaw d exporting d₂) :
    ∃ written,
      Disk.PutOnce path (settings.layout.render (replayed settings options' ds)) d written d₂ ∧
      d₁ = d ∧ Additive flaw path written plain exporting := by
  obtain ⟨written, hput, hanswer⟩ := replayedScope_write settings hpath ds d
  have hnothing := replayedScope_write_nothing settings hnone ds d
  obtain ⟨hdisk₁, hlines₁, houtput₁, hfailure₁, hexit₁⟩ := hplain
  obtain ⟨hdisk₂, hlines₂, houtput₂, hfailure₂, hexit₂⟩ := hexporting
  rw [hnothing] at hdisk₁ hfailure₁ hexit₁
  rw [hanswer] at hfailure₂ hexit₂
  rw [← hdisk₂] at hput
  refine ⟨written, hput, hdisk₁, ?_⟩
  have hlines : exporting.lines = plain.lines := hlines₂.trans hlines₁.symm
  refine ⟨hlines, houtput₂.trans houtput₁.symm, ?_, fun e => ?_, ?_, ?_, ?_, ?_⟩
  · rw [hfailure₁]
    cases flaw <;> rfl
  · rw [hfailure₂, reported_eq_stream_iff]
  · unfold Outcome.messages
    rw [hlines, List.append_assoc, hfailure₁, hfailure₂]
    cases flaw <;> rcases written with cause | ⟨⟩ <;> rfl
  · rw [hexit₁]
    cases flaw.isSome || decide (0 < ds.countP (·.kind.countsAsError))
    · exact Or.inl rfl
    · exact Or.inr rfl
  · intro hfailed
    rw [hexit₁] at hfailed
    rw [hexit₂]
    cases hany : flaw.isSome || decide (0 < ds.countP (·.kind.countsAsError)) with
    | true => rfl
    | false =>
      rw [hany] at hfailed
      cases hfailed
  · intro hsucceeded
    rw [hexit₁] at hsucceeded
    rw [hexit₂]
    cases hany : flaw.isSome || decide (0 < ds.countP (·.kind.countsAsError)) with
    | true =>
      rw [hany] at hsucceeded
      cases hsucceeded
    | false => rcases written with cause | ⟨⟩ <;> rfl

/-! ## Quiet or not -/

/-- How a quiet replay of a file with some diagnostics compares with one that is not: the
lines of diagnostics below an error are left out. -/
structure Quieted (ds : List Diagnostic) (loud quiet : Outcome) : Prop where
  every : loud.lines = ds.map primaryLine
  grave : quiet.lines =
    (ds.filter fun d => d.kind == .error || d.kind == .internalError).map primaryLine
  output : quiet.output = loud.output
  failure : quiet.failure = loud.failure
  exit : quiet.exit = loud.exit

theorem isShown_of_quiet (d : Diagnostic) :
    isShown true d = (d.kind == .error || d.kind == .internalError) := by
  unfold isShown
  cases d.kind <;> rfl

theorem quieted_of_replays {ds : List Diagnostic} {flaw : Option StreamError}
    {loud quiet : Outcome} {d₁ d₂ : Disk}
    (hloud : Replays settings false options ds flaw d loud d₁)
    (hquiet : Replays settings true options ds flaw d quiet d₂) :
    d₂ = d₁ ∧ Quieted ds loud quiet := by
  refine ⟨hquiet.disk.trans hloud.disk.symm, ?_, ?_, hquiet.output.trans hloud.output.symm,
    hquiet.failure.trans hloud.failure.symm, hquiet.exit.trans hloud.exit.symm⟩
  · have hall : ds.filter (isShown false) = ds := List.filter_eq_self.2 fun _ _ => rfl
    rw [hloud.lines, hall]
  · rw [hquiet.lines, List.filter_congr fun d _ => isShown_of_quiet d]

/-! ## Runs of the program -/

/-- Exporting the document of a replay changes neither what the replay prints nor, unless
the document cannot be written, its exit status; and a quiet replay leaves the same disk as
one that is not, and prints less. -/
theorem run_additive {diagnostics : Path}
    (hsettings : (loadSettings Disk.store globals d).1 = .ok settings) :
    (∀ plain exporting path inputFile dialect inputFile' dialect',
      Request.parse plain = .ok (.replay globals ⟨diagnostics, none, inputFile, dialect⟩) →
      Request.parse exporting =
        .ok (.replay globals ⟨diagnostics, some path, inputFile', dialect'⟩) →
      ∃ written,
        Disk.PutOnce path (settings.layout.render (replayed settings
            ⟨diagnostics, some path, inputFile', dialect'⟩
            (Stream.diagnostics (d.read diagnostics))))
          d written (run Disk.store exporting d).2 ∧
        (run Disk.store plain d).2 = d ∧
        Additive (Stream.flaw? diagnostics (d.read diagnostics)) path written
          (run Disk.store plain d).1 (run Disk.store exporting d).1) ∧
    ∀ loud quiet options,
      Request.parse loud = .ok (.replay { globals with quiet := false } options) →
      Request.parse quiet = .ok (.replay { globals with quiet := true } options) →
      (run Disk.store quiet d).2 = (run Disk.store loud d).2 ∧
        Quieted (Stream.diagnostics (d.read options.diagnostics))
          (run Disk.store loud d).1 (run Disk.store quiet d).1 := by
  constructor
  · intro plain exporting path inputFile dialect inputFile' dialect' hplain hexporting
    rw [run_replay hplain hsettings, run_replay hexporting hsettings]
    exact additive_of_replays rfl rfl
      (replay_replays settings globals ⟨diagnostics, none, inputFile, dialect⟩ d)
      (replay_replays settings globals ⟨diagnostics, some path, inputFile', dialect'⟩ d)
  · intro loud quiet options hloud hquiet
    rw [run_replay hloud hsettings, run_replay hquiet hsettings]
    exact quieted_of_replays
      (replay_replays settings { globals with quiet := false } options d)
      (replay_replays settings { globals with quiet := true } options d)

/-- A disk with a file of a warning and an error. -/
def twoLinesDisk : Disk :=
  .reliable ⟨[(["d.jsonl"],
    .file (storedBytes "\x7b\"kind\":\"warning\"\x7d\n\x7b\"kind\":\"error\"\x7d\n"))], []⟩

theorem run_additive_twoLinesDisk :
    (loadSettings Disk.store ⟨false, false, none⟩ twoLinesDisk).1 = .ok Settings.defaults ∧
    Request.parse ["replay", "d.jsonl"] =
      .ok (.replay ⟨false, false, none⟩ ⟨⟨"d.jsonl"⟩, none, none, none⟩) ∧
    Request.parse garbledArguments =
      .ok (.replay ⟨false, false, none⟩ ⟨⟨"d.jsonl"⟩, some ⟨"o.json"⟩, none, none⟩) ∧
    Request.parse ("-q" :: garbledArguments) =
      .ok (.replay ⟨true, false, none⟩ ⟨⟨"d.jsonl"⟩, some ⟨"o.json"⟩, none, none⟩) ∧
    (∃ written, Additive (Stream.flaw? ⟨"d.jsonl"⟩ (twoLinesDisk.read ⟨"d.jsonl"⟩)) ⟨"o.json"⟩
      written (run Disk.store ["replay", "d.jsonl"] twoLinesDisk).1
      (run Disk.store garbledArguments twoLinesDisk).1) ∧
    Quieted (Stream.diagnostics (twoLinesDisk.read ⟨"d.jsonl"⟩))
      (run Disk.store garbledArguments twoLinesDisk).1
      (run Disk.store ("-q" :: garbledArguments) twoLinesDisk).1 := by
  have hsettings : (loadSettings Disk.store ⟨false, false, none⟩ twoLinesDisk).1 =
      .ok Settings.defaults := by decide +kernel
  have hplain : Request.parse ["replay", "d.jsonl"] =
      .ok (.replay ⟨false, false, none⟩ ⟨⟨"d.jsonl"⟩, none, none, none⟩) := by decide +kernel
  have hquiet : Request.parse ("-q" :: garbledArguments) =
      .ok (.replay ⟨true, false, none⟩ ⟨⟨"d.jsonl"⟩, some ⟨"o.json"⟩, none, none⟩) := by
    decide +kernel
  obtain ⟨hadditive, hquieted⟩ := @run_additive _ _ _ ⟨"d.jsonl"⟩ hsettings
  obtain ⟨written, -, -, hadded⟩ := hadditive _ _ _ _ _ _ _ hplain parse_garbledArguments
  exact ⟨hsettings, hplain, parse_garbledArguments, hquiet, ⟨written, hadded⟩,
    (hquieted _ _ _ parse_garbledArguments hquiet).2⟩

end DmlReport.Command
