import DmlReport.Proofs.Handbook.Advice
import DmlReport.Proofs.Replay.Additive
import DmlReport.Proofs.Replay.Verdict
import Mathlib.Data.List.Forall2

/-!
# Explanations and exported entries

`triage explain` knows a code and a kind, and a replay knows a whole diagnostic, but the
two say the same about it.  What they say is a story, which can be read off an entry of a
document (`Story.ofEntry?`) and can be told line by line (`Story.text`).  An explanation is
the text of the story that a replay exports for each diagnostic with that code and kind; if
the context of the diagnostic names a method, the exported story has one more hint.
-/

namespace DmlReport

open Json (Value)

namespace Json.Value

/-- The texts of an array of texts. -/
def texts? : Value → Option (List String)
  | .array items => items.mapM asString?
  | _ => none

/-- A text, or null for none. -/
def textOrNull? : Value → Option (Option String)
  | .null => some none
  | .string s => some (some s)
  | _ => none

theorem texts?_map_string (texts : List String) :
    (array (texts.map .string)).texts? = some texts := by
  show (texts.map string).mapM asString? = some texts
  induction texts with
  | nil => rfl
  | cons text texts ih =>
    rw [List.map_cons, List.mapM_cons, ih]
    rfl

theorem textOrNull?_ofOption (text : Option String) :
    (ofOption string text).textOrNull? = some text := by
  cases text <;> rfl

end Json.Value

/-- What is said about a diagnostic, apart from its own text and place. -/
structure Story where
  severity : String
  category : String
  fixes : List String
  link : Option String
deriving DecidableEq, Repr

namespace Story

/-- The story of an entry of a document. -/
def ofEntry? (entry : Value) : Option Story := do
  return {
    severity := ← entry.text? "severity"
    category := ← entry.text? "category"
    fixes := ← (entry.member? "fix_suggestions").bind (·.texts?)
    link := ← (entry.member? "documentation_url").bind (·.textOrNull?) }

/-- The story with a hint about a method, if there is one. -/
def about (s : Story) (method : Option String) : Story :=
  { s with fixes := s.fixes ++ (method.map Handbook.methodHint).toList }

/-- The lines that tell a story about a code of some kind. -/
def lines (code : String) (kind : Kind) (s : Story) : List String :=
  [s!"{code} ({kind.name}, severity {s.severity})", s!"category: {s.category}"] ++
    (if s.fixes = [] then ["suggestions: none"]
      else "suggestions:" :: s.fixes.map fun fix => s!"  - {fix}") ++
    (s.link.map fun url => s!"documentation: {url}").toList

/-- The text of those lines. -/
def text (code : String) (kind : Kind) (s : Story) : String :=
  String.join ((s.lines code kind).map (· ++ "\n"))

/-- The story of a code of some kind, under a handbook. -/
def ofCode (h : Handbook) (code : String) (kind : Kind) : Story :=
  let category := Taxonomy.classify (some code) kind
  let advice := h.advise (some code) category none
  ⟨kind.severity.name, category.name, advice.fixes, advice.link⟩

end Story

/-! ## Entries -/

theorem Finding.ofEntry?_toValue (f : Finding) :
    Story.ofEntry? f.toValue =
      some ⟨f.severity.name, f.category.name, f.advice.fixes, f.advice.link⟩ := by
  have hfixes : (f.toValue.member? "fix_suggestions").bind (·.texts?) = some f.advice.fixes := by
    simp [toValue, Value.texts?_map_string]
  have hlink : (f.toValue.member? "documentation_url").bind (·.textOrNull?) =
      some f.advice.link := by
    simp [toValue, Value.textOrNull?_ofOption]
  have hseverity : f.toValue.text? "severity" = some f.severity.name := by
    simp [toValue, Value.text?, Value.asString?]
  unfold Story.ofEntry?
  rw [hfixes, hlink, hseverity, f.text?_category]
  rfl

/-- The entry of a diagnostic tells the story of its code and kind. -/
theorem Finding.ofEntry?_ofDiagnostic (h : Handbook) {d : Diagnostic} {code : String}
    (hcode : d.code = some code) :
    Story.ofEntry? (ofDiagnostic h d).toValue =
      some ((Story.ofCode h code d.kind).about (d.context.bind (·.text? "method"))) := by
  have hadvice : (ofDiagnostic h d).advice = h.advise (some code)
      (Taxonomy.classify (some code) d.kind) d.members := by
    rw [← hcode]
    rfl
  have hcategory : (ofDiagnostic h d).category = Taxonomy.classify (some code) d.kind := by
    rw [← hcode]
    rfl
  rw [ofEntry?_toValue, hadvice, hcategory, Handbook.advise_eq, d.method?_members]
  rfl

namespace Command

/-! ## Explanations -/

/-- An explanation tells the story of its code and kind, line by line. -/
theorem explanation_eq_text (code : String) (kind : Kind) (category : Category)
    (advice : Advice) :
    explanation code kind category advice =
      (Story.mk kind.severity.name category.name advice.fixes advice.link).text code kind := by
  have hheader : s!"{code} ({kind.name}, severity {kind.severity.name})\n" ++
      s!"category: {category.name}\n" =
        s!"{code} ({kind.name}, severity {kind.severity.name})\ncategory: {category.name}\n" := by
    apply String.toList_injective
    simp [toString]
  have hfixes : String.join ((if advice.fixes = [] then ["suggestions: none"]
      else "suggestions:" :: advice.fixes.map fun fix => s!"  - {fix}").map (· ++ "\n")) =
        if advice.fixes.isEmpty then "suggestions: none\n"
        else "suggestions:\n" ++ String.join (advice.fixes.map fun fix => s!"  - {fix}\n") := by
    cases advice.fixes with
    | nil => rfl
    | cons fix fixes => simp [toString, String.append_assoc, Function.comp_def]
  have hlink : String.join
      (((advice.link.map fun url => s!"documentation: {url}").toList).map (· ++ "\n")) =
        (advice.link.map fun url => s!"documentation: {url}\n").getD "" := by
    cases advice.link with
    | none => rfl
    | some url => simp [toString, String.append_assoc]
  unfold explanation Story.text Story.lines
  rw [List.map_append, List.map_append, String.join_append, String.join_append, hfixes, hlink,
    ← hheader]
  simp [toString, String.append_assoc]

/-! ## Runs of the program -/

variable {arguments : List String} {globals : Globals} {settings : Settings} {d : Disk}

/-- A command line that asks for an explanation, with settings that load, prints a story. -/
theorem run_explain {code : String} {kind : Kind}
    (hrequest : Request.parse arguments = .ok (.explain globals ⟨code, kind⟩))
    (hsettings : (loadSettings Disk.store globals d).1 = .ok settings) :
    run Disk.store arguments d =
      (.printed ((Story.ofCode settings.handbook code kind).text code kind), d) := by
  have hload : loadSettings Disk.store globals d = (.ok settings, d) :=
    Prod.ext hsettings (loadSettings_disk globals d)
  rw [run, hrequest]
  show perform Disk.store (.explain globals ⟨code, kind⟩) d = _
  rw [perform, Disk.bind_apply, hload]
  show (explain settings ⟨code, kind⟩, d) = _
  rw [explain, explanation_eq_text]
  rfl

theorem entries_exported (settings : Settings) (options : ReplayOptions) (d : Disk) :
    (exported settings options d).member? "diagnostics" =
      some (.array ((Stream.diagnostics (d.read options.diagnostics)).map fun raw =>
        (Finding.ofDiagnostic settings.handbook raw).toValue)) := by
  rw [exported, Layout.member?_diagnostics, replayed, List.map_map]
  rfl

/-- An explanation exits with zero, changes no file, and prints a story that every replay
under the same settings exports for each diagnostic with that code and kind. -/
theorem run_tells_story {code : String} {kind : Kind}
    (hrequest : Request.parse arguments = .ok (.explain globals ⟨code, kind⟩))
    (hsettings : (loadSettings Disk.store globals d).1 = .ok settings) :
    ∃ story : Story,
      run Disk.store arguments d = (⟨0, story.text code kind, [], none⟩, d) ∧
      ∀ replaying globals' options path d',
        Request.parse replaying = .ok (.replay globals' options) →
        options.destination = some path →
        (loadSettings Disk.store globals' d').1 = .ok settings →
        ∃ written entries,
          Disk.PutOnce path ((exported settings options d').indented settings.layout.indent)
            d' written (run Disk.store replaying d').2 ∧
          (exported settings options d').member? "diagnostics" = some (.array entries) ∧
          List.Forall₂ (fun raw entry => raw.code = some code → raw.kind = kind →
              Story.ofEntry? entry = some (story.about (raw.context.bind (·.text? "method"))))
            (Stream.diagnostics (d'.read options.diagnostics)) entries := by
  refine ⟨_, run_explain hrequest hsettings, ?_⟩
  intro replaying globals' options path d' hreplay hpath hsettings'
  have hdisk := (replay_replays settings globals' options d').disk
  obtain ⟨written, hput, -⟩ := replayedScope_write settings hpath
    (Stream.diagnostics (d'.read options.diagnostics)) d'
  rw [← hdisk, ← run_replay hreplay hsettings'] at hput
  refine ⟨written, _, hput, entries_exported settings options d', ?_⟩
  rw [List.forall₂_map_right_iff, List.forall₂_same]
  rintro raw - hcode rfl
  exact Finding.ofEntry?_ofDiagnostic settings.handbook hcode

/-- A disk with a diagnostic whose context names a method. -/
def methodDisk : Disk :=
  .reliable ⟨[(["d.jsonl"], .file (storedBytes
    "\x7b\"kind\":\"error\",\"code\":\"EUNDEF\",\"context\":\x7b\"method\":\"m\"\x7d\x7d\n"))], []⟩

theorem run_tells_story_methodDisk :
    Request.parse ["explain", "EUNDEF"] =
      .ok (.explain ⟨false, false, none⟩ ⟨"EUNDEF", .error⟩) ∧
    (loadSettings Disk.store ⟨false, false, none⟩ methodDisk).1 = .ok Settings.defaults ∧
    ∃ story : Story,
      run Disk.store ["explain", "EUNDEF"] methodDisk =
        (⟨0, story.text "EUNDEF" .error, [], none⟩, methodDisk) ∧
      ∃ entry, (exported Settings.defaults ⟨⟨"d.jsonl"⟩, some ⟨"o.json"⟩, none, none⟩
          methodDisk).member? "diagnostics" = some (.array [entry]) ∧
        Story.ofEntry? entry = some (story.about (some "m")) := by
  have hrequest : Request.parse ["explain", "EUNDEF"] =
      .ok (.explain ⟨false, false, none⟩ ⟨"EUNDEF", .error⟩) := by decide +kernel
  have hsettings : (loadSettings Disk.store ⟨false, false, none⟩ methodDisk).1 =
      .ok Settings.defaults := by decide +kernel
  obtain ⟨story, hrun, htells⟩ := run_tells_story hrequest hsettings
  obtain ⟨-, entries, -, hentries, hstories⟩ :=
    htells _ _ _ _ _ parse_garbledArguments rfl hsettings
  refine ⟨hrequest, hsettings, story, hrun, ?_⟩
  have hread : (Stream.diagnostics (methodDisk.read ⟨"d.jsonl"⟩)).map
      (fun raw => (raw.code, raw.kind, raw.context.bind (·.text? "method"))) =
        [(some "EUNDEF", .error, some "m")] := by decide +kernel
  obtain ⟨raw, hraw, hparts⟩ := List.map_eq_singleton_iff.1 hread
  obtain ⟨hcode, hkind, hmethod⟩ : raw.code = some "EUNDEF" ∧ raw.kind = .error ∧
      raw.context.bind (·.text? "method") = some "m" := by
    simpa using hparts
  rw [hraw] at hstories
  obtain ⟨entry, rest, hentry, hrest, rfl⟩ := List.forall₂_cons_left_iff.1 hstories
  cases hrest
  rw [hmethod] at hentry
  exact ⟨entry, hentries, hentry hcode hkind⟩

end Command

end DmlReport
