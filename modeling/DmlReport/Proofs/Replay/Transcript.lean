import DmlReport.Proofs.Diagnostic.Encoding
import DmlReport.Proofs.Json.Printable
import DmlReport.Proofs.Replay.Capture
import DmlReport.Proofs.Text.Encoded

/-!
# Transcripts of a compilation

A transcript has the compact text of a diagnostic on a line, or a blank line, and each
line ends with a line feed or with a carriage return and a line feed.  Replaying one does
what raising its diagnostics at an open gate would have done: the scope that the replay
ends is the scope of that compilation (`replayEnd_decoded`), and so is everything that is
left on the disk (`run_transcript`).  On the way there a line is found again between the
line feeds and read as what is written on it (`Line.ofBytes_withoutReturn`,
`Transcript.readAs_chars`).
-/

namespace DmlReport

open Json (Value)

namespace Transcript

/-- How a line ends. -/
inductive LineEnd where
  | lineFeed
  | returnLineFeed
deriving DecidableEq, Repr

/-- The characters before the line feed that belong to the ending. -/
def LineEnd.before : LineEnd → List Char
  | .lineFeed => []
  | .returnLineFeed => ['\r']

/-- What is written on a line. -/
inductive Line where
  | blank (text : List Char) (isBlank : text.all Text.isBlank = true) (isLine : '\n' ∉ text)
  | entry (d : Diagnostic)

namespace Line

/-- The characters of a line, without its ending. -/
def chars : Line → List Char
  | .blank text _ _ => text
  | .entry d => Json.Writer.write .compact 0 d.toValue

/-- The diagnostic on a line. -/
def diagnostic? : Line → Option Diagnostic
  | .blank _ _ _ => none
  | .entry d => some d

end Line

end Transcript

/-- What is written to a file: lines with their endings, and perhaps a line after them
that has none. -/
structure Transcript where
  ended : List (Transcript.Line × Transcript.LineEnd)
  last : Option Transcript.Line

namespace Transcript

/-- The characters of a line with its ending. -/
def endedChars (line : Line × LineEnd) : List Char :=
  line.1.chars ++ line.2.before ++ ['\n']

def chars (t : Transcript) : List Char :=
  t.ended.flatMap endedChars ++ (t.last.map Line.chars).getD []

def text (t : Transcript) : String :=
  String.ofList t.chars

/-- The diagnostics of a transcript, in order. -/
def diagnostics (t : Transcript) : List Diagnostic :=
  (t.ended.map Prod.fst ++ t.last.toList).filterMap Line.diagnostic?

/-! ## One line -/

namespace Line

open Command (LineContent)

/-- What a reader finds on a line. -/
def content : Line → LineContent
  | .blank _ _ _ => .blank
  | .entry d => .diagnostic d.decoded

/-- A diagnostic on a line can be decoded. -/
def Sound (line : Line) : Prop :=
  ∀ d, line.diagnostic? = some d → d.Sendable

theorem ofBytes_blank {cs : List Char} (h : cs.all Text.isBlank = true) :
    LineContent.ofBytes (Text.encode cs) = .blank := by
  have htrim : Text.trim (String.ofList cs) = "" := by
    rw [← Text.allBlank_iff_trim_eq_empty, Text.allBlank, String.toList_ofList, h]
  rw [LineContent.ofBytes, Text.decode?_encode]
  exact if_pos htrim

theorem printable_entry (d : Diagnostic) : Json.Writer.Printable (entry d).chars :=
  Json.Writer.printable_write d.toValue 0

theorem brace_mem_entry (d : Diagnostic) : '\x7b' ∈ (entry d).chars := by
  rw [chars, Diagnostic.toValue, Json.Writer.write]
  exact List.mem_cons_self

theorem ofBytes_entry {d : Diagnostic} (h : d.Sendable) :
    LineContent.ofBytes (Text.encode (entry d).chars) = .diagnostic d.decoded := by
  have htext : (entry d).chars = d.toValue.compact.toList := String.toList_ofList.symm
  rw [htext, LineContent.ofBytes_compact rfl, Diagnostic.decodeText_compact h]

theorem no_lineFeed (line : Line) : '\n' ∉ line.chars := by
  cases line with
  | blank text isBlank isLine => exact isLine
  | entry d => exact fun hmem => absurd (printable_entry d _ hmem) (by decide)

theorem ofBytes_encode {line : Line} (h : line.Sound) :
    LineContent.ofBytes (Text.encode line.chars) = line.content := by
  cases line with
  | blank text isBlank isLine => exact ofBytes_blank isBlank
  | entry d => exact ofBytes_entry (h d rfl)

theorem ofBytes_withoutReturn {line : Line} (h : line.Sound) (ending : LineEnd) :
    LineContent.ofBytes (Text.withoutReturn (Text.encode (line.chars ++ ending.before))) =
      line.content := by
  rw [Text.withoutReturn_encode]
  cases line with
  | blank text isBlank isLine =>
    have hall : (text ++ ending.before).all Text.isBlank = true := by
      rw [List.all_append, isBlank]
      cases ending <;> decide
    refine ofBytes_blank ?_
    split
    · rw [List.all_eq_true] at hall ⊢
      exact fun c hc => hall c (List.dropLast_subset _ hc)
    · exact hall
  | entry d =>
    cases ending with
    | lineFeed =>
      have hlast : (entry d).chars.getLast? ≠ some '\r' := fun hlast =>
        absurd (printable_entry d _ (List.mem_of_getLast? hlast)) (by decide)
      rw [LineEnd.before, List.append_nil, if_neg hlast]
      exact ofBytes_encode h
    | returnLineFeed =>
      rw [LineEnd.before, List.getLast?_concat, if_pos rfl, List.dropLast_concat]
      exact ofBytes_encode h

end Line

/-! ## All lines -/

open Command

variable {line : Line}

theorem chars_cons (ending : LineEnd) (ended : List (Line × LineEnd)) (last : Option Line) :
    chars ⟨(line, ending) :: ended, last⟩ =
      line.chars ++ ending.before ++ '\n' :: chars ⟨ended, last⟩ := by
  simp [chars, endedChars]

theorem diagnostics_cons (ending : LineEnd) (ended : List (Line × LineEnd))
    (last : Option Line) :
    diagnostics ⟨(line, ending) :: ended, last⟩ =
      line.diagnostic?.toList ++ diagnostics ⟨ended, last⟩ := by
  unfold diagnostics
  rw [List.map_cons, List.cons_append, List.filterMap_cons]
  cases line.diagnostic? <;> rfl

theorem Line.diagnostic?_content (line : Line) :
    line.content.diagnostic? = line.diagnostic?.map Diagnostic.decoded := by
  cases line <;> rfl

theorem Line.breaks_content (line : Line) : line.content.breaks = false := by
  cases line <;> rfl

theorem readable_cons {bytes : List UInt8} (hline : LineContent.ofBytes bytes = line.content)
    (rest : List (List UInt8)) :
    Stream.readable (bytes :: rest) =
      (line.diagnostic?.map Diagnostic.decoded).toList ++ Stream.readable rest := by
  have hbreaks : (LineContent.ofBytes bytes).breaks = false := by
    rw [hline, Line.breaks_content]
  rw [Stream.readable_cons hbreaks, hline, Line.diagnostic?_content]

theorem firstFlaw_cons {bytes : List UInt8} (hline : LineContent.ofBytes bytes = line.content)
    (path : Path) (number : Nat) (rest : List (List UInt8)) :
    Stream.firstFlaw path number (bytes :: rest) = Stream.firstFlaw path (number + 1) rest := by
  have hflaw : (LineContent.ofBytes bytes).flaw? path number = none := by
    rw [LineContent.flaw?_eq_none_iff, hline, Line.breaks_content]
  rw [Stream.firstFlaw_cons, hflaw, Option.none_or]

theorem diagnostics_last (line : Line) :
    diagnostics ⟨[], some line⟩ = line.diagnostic?.toList := by
  cases line <;> rfl

/-- The lines of a text are read as a transcript: what is read are its diagnostics, and
there is no flaw. -/
def ReadAs (bytes : List UInt8) (t : Transcript) : Prop :=
  Stream.readable (Text.physicalLines bytes) = t.diagnostics.map Diagnostic.decoded ∧
    ∀ path number, Stream.firstFlaw path number (Text.physicalLines bytes) = none

theorem readAs_last {line : Line} (h : line.Sound) :
    ReadAs (Text.encode line.chars) ⟨[], some line⟩ := by
  have hline := Line.ofBytes_encode h
  unfold ReadAs
  rw [diagnostics_last, Text.physicalLines_encode_of_not_mem line.no_lineFeed]
  by_cases hempty : line.chars = []
  · -- The rest of the file is empty, so it is no line.
    rw [if_pos hempty]
    cases line with
    | blank text isBlank isLine => exact ⟨rfl, fun _ _ => rfl⟩
    | entry d => exact absurd (Line.brace_mem_entry d) (by rw [hempty]; exact List.not_mem_nil)
  · rw [if_neg hempty]
    refine ⟨?_, fun path number => ?_⟩
    · rw [readable_cons hline]
      cases line.diagnostic? <;> rfl
    · rw [firstFlaw_cons hline]
      rfl

theorem readAs_cons {line : Line} (h : line.Sound) (ending : LineEnd)
    {ended : List (Line × LineEnd)} {last : Option Line}
    (hrest : ReadAs (Text.encode (chars ⟨ended, last⟩)) ⟨ended, last⟩) :
    ReadAs (Text.encode (chars ⟨(line, ending) :: ended, last⟩)) ⟨(line, ending) :: ended, last⟩ := by
  have hline := Line.ofBytes_withoutReturn h ending
  have hwhole : '\n' ∉ line.chars ++ ending.before := by
    rw [List.mem_append, not_or]
    exact ⟨line.no_lineFeed, by cases ending <;> decide⟩
  unfold ReadAs
  rw [diagnostics_cons, chars_cons, Text.physicalLines_encode hwhole]
  refine ⟨?_, fun path number => ?_⟩
  · rw [readable_cons hline, hrest.1, List.map_append]
    cases line.diagnostic? <;> rfl
  · rw [firstFlaw_cons hline]
    exact hrest.2 path (number + 1)

/-- A transcript can be read to its end. -/
theorem readAs_chars {t : Transcript} (h : ∀ d ∈ t.diagnostics, d.Sendable) :
    ReadAs (Text.encode t.chars) t := by
  obtain ⟨ended, last⟩ := t
  induction ended with
  | nil =>
    cases last with
    | none => exact ⟨rfl, fun _ _ => rfl⟩
    | some line =>
      rw [diagnostics_last] at h
      exact readAs_last fun d hd => h d (Option.mem_toList.2 hd)
  | cons first ended ih =>
    obtain ⟨line, ending⟩ := first
    rw [diagnostics_cons] at h
    have hsound : line.Sound := fun d hd => h d (List.mem_append_left _ (Option.mem_toList.2 hd))
    exact readAs_cons hsound ending (ih fun d hd => h d (List.mem_append_right _ hd))

/-- A file that holds a transcript has the diagnostics of the transcript and no flaw. -/
theorem stream_text {t : Transcript} (h : ∀ d ∈ t.diagnostics, d.Sendable) :
    Stream.diagnostics (.ok (storedBytes t.text)) = t.diagnostics.map Diagnostic.decoded ∧
      ∀ path, Stream.flaw? path (.ok (storedBytes t.text)) = none := by
  have hbytes : storedBytes t.text = Text.encode t.chars := by
    rw [storedBytes, ← Text.encode_toList, text, String.toList_ofList]
  obtain ⟨hreadable, hflaw⟩ := readAs_chars h
  rw [Text.physicalLines_eq, ← hbytes] at hreadable hflaw
  exact ⟨hreadable, fun path => hflaw path 1⟩

end Transcript

/-! ## Both ways to a document -/

theorem Gate.run_logs (g : Gate) (ds : List Diagnostic) :
    (g.run (ds.map .log)).1 = ds.foldl Gate.log g := by
  induction ds generalizing g with
  | nil => rfl
  | cons d ds ih => exact ih (g.log d)

/-- A text was put at a path by one attempt, and it is there if no mishap came and the tree
admits the path. -/
structure Disk.Offered (path : Path) (text : String) (d d' : Disk) : Prop where
  attempt : ∃ result, PutOnce path text d result d'
  stored {source target : Place} : d.mishaps = [] → d.tree.Admits path source target →
    d'.tree.read path = .ok (storedBytes text)

theorem Disk.PutOnce.offered {path : Path} {text : String} {d d' : Disk}
    {result : Except Failure Unit} (h : PutOnce path text d result d') :
    Offered path text d d' := by
  refine ⟨⟨result, h⟩, fun hmishaps hadmits => h.stored ?_⟩
  have hsucceeds := replace_succeeds hmishaps hadmits text
  rwa [h.replaced] at hsucceeds

namespace Command

/-- The scope of a compilation whose diagnostics are raised at its gate, under the settings
of a replay and with its context. -/
def inProcess (settings : Settings) (options : ReplayOptions) (destination : Option Path)
    (ds : List Diagnostic) : Scope :=
  (Scope.start (.shut settings.handbook) settings.layout destination).run
    (.setContext ⟨options.inputFile, options.dialect⟩ :: ds.map .log)

section

variable (settings : Settings) (options : ReplayOptions) {ds : List Diagnostic}

theorem gate_inProcess (destination : Option Path) :
    (inProcess settings options destination ds).gate =
      ds.foldl Gate.log (replayScope settings { options with destination }).gate :=
  Gate.run_logs _ ds

theorem active_inProcess (path : Path) :
    (inProcess settings options (some path) ds).gate.active =
      some (replayed settings options ds) := by
  rw [gate_inProcess, foldl_log]
  rfl

theorem offered_inProcess (path : Path) (d : Disk) :
    Disk.Offered path (settings.layout.render (replayed settings options ds)) d
      ((inProcess settings options (some path) ds).close Disk.store .finished d).2 := by
  obtain ⟨result, hput, -⟩ := Scope.write_on_disk
    (s := inProcess settings options (some path) ds) rfl (active_inProcess settings options path) d
  rw [Scope.close_finished]
  exact hput.offered

/-- A replay of decoded diagnostics ends the scope in which they were raised. -/
theorem replayEnd_decoded (quiet : Bool)
    (hsorted : ∀ raw ∈ ds, ∀ v, raw.context = some v → v.isSorted = true) :
    replayEnd settings options ((ds.map Diagnostic.decoded).foldl (Progress.next quiet)
      (.start (replayScope settings options).gate)) =
        inProcess settings options options.destination ds := by
  have hfindings (h : Handbook) : (ds.map Diagnostic.decoded).map (Finding.ofDiagnostic h) =
      ds.map (Finding.ofDiagnostic h) := by
    rw [List.map_map]
    exact List.map_congr_left fun raw hraw => Finding.ofDiagnostic_decoded h (hsorted raw hraw)
  have hreplayed : ((ds.map Diagnostic.decoded).foldl (Progress.next quiet)
      (.start (replayScope settings options).gate)).gate =
        (inProcess settings options options.destination ds).gate := by
    rw [gate_foldl_next, gate_inProcess, foldl_log, foldl_log]
    simp only [hfindings]
    rfl
  rw [replayEnd, hreplayed]
  rfl

end

/-- A replay has done what raising the diagnostics in process and finishing would have done:
the disk is the same, and so is the failure that is reported.  The document depends on the
settings, the context and the diagnostics only, so it is the same text when the compilation
puts it at another path and on another disk. -/
structure AsInProcess (settings : Settings) (options : ReplayOptions) (path : Path)
    (ds : List Diagnostic) (d : Disk) (outcome : Outcome) (d' : Disk) : Prop where
  disk : d' = ((inProcess settings options (some path) ds).close Disk.store .finished d).2
  failure : outcome.failure = reported none
    ((inProcess settings options (some path) ds).close Disk.store .finished d).1.1
  document : ∃ text, Disk.Offered path text d d' ∧
    ∀ elsewhere d₂, Disk.Offered elsewhere text d₂
      ((inProcess settings options (some elsewhere) ds).close Disk.store .finished d₂).2

variable {arguments : List String} {globals : Globals} {options : ReplayOptions}
  {settings : Settings} {d : Disk} {path : Path} {t : Transcript}

/-- Replaying a file that holds a transcript does what raising the diagnostics of the
transcript in process would have done.  A context may have integer numbers only, and room
must be left for it within its diagnostic; its members are sorted, as those of every value
are that the compiler builds. -/
theorem run_transcript (hrequest : Request.parse arguments = .ok (.replay globals options))
    (hsettings : (loadSettings Disk.store globals d).1 = .ok settings)
    (hpath : options.destination = some path)
    (hcontents : d.read options.diagnostics = .ok (storedBytes t.text))
    (hcontexts : ∀ raw ∈ t.diagnostics, ∀ v, raw.context = some v →
      v.isIntegral = true ∧ v.isSorted = true ∧ v.depth ≤ 126) :
    AsInProcess settings options path t.diagnostics d
      (run Disk.store arguments d).1 (run Disk.store arguments d).2 := by
  have hsendable : ∀ raw ∈ t.diagnostics, raw.Sendable := fun raw hraw v hv =>
    have ⟨hintegral, _, hdepth⟩ := hcontexts raw hraw v hv
    ⟨hintegral, Nat.succ_le_succ hdepth⟩
  obtain ⟨hdiagnostics, hflaw⟩ := Transcript.stream_text hsendable
  have hscope := replayEnd_decoded settings options globals.quiet
    fun raw hraw v hv => (hcontexts raw hraw v hv).2.1
  rw [hpath] at hscope
  have hrun : run Disk.store arguments d = _ := (run_replay hrequest hsettings).trans (replay_eq d)
  simp only [hcontents, hdiagnostics, hflaw, hscope] at hrun
  obtain ⟨hdisk, hfailure, -⟩ := endReplay_eq
    (s := inProcess settings options (some path) t.diagnostics) rfl
    ((t.diagnostics.map Diagnostic.decoded).foldl (Progress.next globals.quiet)
      (.start (replayScope settings options).gate)) none d
  have hclose := Scope.close_finished Disk.store
    (inProcess settings options (some path) t.diagnostics)
  rw [← hrun, ← hclose] at hdisk hfailure
  refine ⟨hdisk, hfailure, _, ?_, fun elsewhere d₂ =>
    offered_inProcess settings options elsewhere d₂⟩
  rw [hdisk]
  exact offered_inProcess settings options path d

/-- A transcript with blank lines, both endings, a null context and a context with a
number. -/
def mixedTranscript : Transcript where
  ended := [
    (.blank [' ', ' '] (by decide) (by decide), .returnLineFeed),
    (.entry { kind := .error, code := some "EUNDEF", message := some "x", location := none,
              related := [], context := some .null }, .returnLineFeed),
    (.blank [] (by decide) (by decide), .lineFeed)]
  last := some (.entry { kind := .warning, code := none, message := none, location := none,
                         related := [], context := some (.object [("n", .nat 3)]) })

/-- A disk with a file that holds `mixedTranscript`. -/
def mixedDisk : Disk :=
  .reliable ⟨[(["d.jsonl"], .file (storedBytes mixedTranscript.text))], []⟩

theorem run_transcript_mixedDisk :
    let options : ReplayOptions := ⟨⟨"d.jsonl"⟩, some ⟨"o.json"⟩, none, none⟩
    Request.parse garbledArguments = .ok (.replay ⟨false, false, none⟩ options) ∧
    (loadSettings Disk.store ⟨false, false, none⟩ mixedDisk).1 = .ok Settings.defaults ∧
    mixedDisk.read options.diagnostics = .ok (storedBytes mixedTranscript.text) ∧
    AsInProcess Settings.defaults options ⟨"o.json"⟩ mixedTranscript.diagnostics mixedDisk
      (run Disk.store garbledArguments mixedDisk).1
      (run Disk.store garbledArguments mixedDisk).2 := by
  have hsettings : (loadSettings Disk.store ⟨false, false, none⟩ mixedDisk).1 =
      .ok Settings.defaults := by decide +kernel
  have hcontents : mixedDisk.read ⟨"d.jsonl"⟩ = .ok (storedBytes mixedTranscript.text) := rfl
  refine ⟨parse_garbledArguments, hsettings, hcontents,
    run_transcript parse_garbledArguments hsettings rfl hcontents ?_⟩
  have hdiagnostics : mixedTranscript.diagnostics.map (·.context) =
      [some .null, some (.object [("n", .nat 3)])] := rfl
  intro raw hraw v hv
  have hmem : some v ∈ mixedTranscript.diagnostics.map (·.context) :=
    hv ▸ List.mem_map_of_mem hraw
  rw [hdiagnostics] at hmem
  simp only [List.mem_cons, Option.some.injEq, List.not_mem_nil, or_false] at hmem
  rcases hmem with rfl | rfl <;> decide +kernel

end Command

end DmlReport
