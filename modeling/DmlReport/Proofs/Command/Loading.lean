import DmlReport.Proofs.Replay.Capture
import DmlReport.Proofs.Settings.Accepted
import DmlReport.Proofs.Storage.Atomic
import DmlReport.Proofs.Text.Encoded

/-!
# Loading settings

The settings of a run come from the file that is named, or from the one in the working
directory.  Such a file is not passed over, whatever is wrong with it (`load_of_source`), and
neither is a working directory that is gone; the defaults stand in only where there is a
directory without such a file (`load_of_no_source`).  If the settings cannot be loaded, the
run shows why and leaves the disk as it found it (`run_unsettled`).
`settings_as_a_whole` puts this together with what a text of settings means and with what
is refused of it.
-/

namespace DmlReport.Command

/-! ## Files -/

/-- What the settings in a file come to. -/
inductive Gives (d : Disk) (path : Path) : Except RunError Settings → Prop where
  | unreadable {cause : Failure} (hread : d.read path = .error cause) :
      Gives d path (.error (.settings (.unreadable path cause)))
  | garbled {bytes : List UInt8} (hread : d.read path = .ok bytes)
      (htext : ∀ toml, storedBytes toml ≠ bytes) :
      Gives d path (.error (.settings (.unreadable path .notText)))
  | text {toml : String} (hread : d.read path = .ok (storedBytes toml)) :
      Gives d path ((Settings.parse toml).mapError .settings)

section Files

variable {d : Disk} {path : Path} {loaded : Except RunError Settings}

theorem decode?_storedBytes_iff {bytes : List UInt8} {toml : String} :
    Text.decode? bytes = some toml ↔ storedBytes toml = bytes := by
  rw [Text.decode?_eq_some_iff, Text.encode_toList]
  rfl

theorem loadFile_iff :
    (Settings.loadFile Disk.store path d).1.mapError .settings = loaded ↔
      Gives d path loaded := by
  show (Settings.ofContents path (d.read path)).mapError .settings = loaded ↔ _
  constructor
  · rintro rfl
    cases hread : d.read path with
    | error cause => exact .unreadable hread
    | ok bytes =>
      simp only [Settings.ofContents]
      cases htext : Text.decode? bytes with
      | none =>
        refine .garbled hread fun toml hbytes => ?_
        rw [decode?_storedBytes_iff.2 hbytes] at htext
        cases htext
      | some toml =>
        rw [decode?_storedBytes_iff] at htext
        exact .text (hread.trans (congrArg _ htext.symm))
  · intro hgives
    cases hgives with
    | unreadable hread =>
      rw [hread, Settings.ofContents]
      rfl
    | garbled hread htext =>
      have hnone : Text.decode? _ = none :=
        Option.eq_none_iff_forall_ne_some.2 fun toml h => htext toml (decode?_storedBytes_iff.1 h)
      simp only [hread, Settings.ofContents, hnone]
      rfl
    | @text toml hread =>
      have hsome : Text.decode? (storedBytes toml) = some toml := decode?_storedBytes_iff.2 rfl
      simp only [hread, Settings.ofContents, hsome]

/-- The settings that a file gives are those that its text means, and they are sound. -/
theorem Gives.sound (h : Gives d path loaded) {s : Settings} (hs : loaded = .ok s) :
    ∃ toml, d.read path = .ok (storedBytes toml) ∧ Settings.decode toml = .ok s ∧ s.Sound := by
  cases h with
  | unreadable hread => cases hs
  | garbled hread htext => cases hs
  | @text toml hread =>
    refine ⟨toml, hread, Settings.parse_eq_ok_iff.1 ?_⟩
    cases hparse : Settings.parse toml with
    | error e =>
      rw [hparse] at hs
      cases hs
    | ok s' =>
      rw [hparse] at hs
      exact congrArg _ (Except.ok.inj hs)

end Files

/-! ## Sources -/

/-- The file of settings in a directory. -/
def ownFile (directory : Path) : Path :=
  directory.child Settings.fileName

/-- The file that the settings of a run come from. -/
inductive Source (globals : Globals) (d : Disk) : Path → Prop where
  | named {path : Path} (hnamed : globals.config = some path) : Source globals d path
  | own {directory : Path} {contents : List UInt8} (hnamed : globals.config = none)
      (hdirectory : d.tree.workingDirectory = .ok directory)
      (hfile : d.tree.at? (ownFile directory) = some (.file contents)) :
      Source globals d (ownFile directory)

theorem asksForDirectory_ownFile (directory : Path) :
    Tree.asksForDirectory (ownFile directory) = false := by
  have hlast (cs : List Char) :
      (Path.appendSegment cs Settings.fileName.toList).getLast? = some 'l' := by
    unfold Path.appendSegment
    split <;> simp [Settings.fileName, List.getLast?_append]
  rw [Tree.asksForDirectory, ownFile, Path.child, String.toList_ofList, hlast]
  rfl

theorem isFile_ownFile_iff (t : Tree) (directory : Path) :
    t.isFile (ownFile directory) = true ↔
      ∃ contents, t.at? (ownFile directory) = some (.file contents) := by
  unfold Tree.isFile Tree.read Tree.at?
  cases t.resolve (ownFile directory) with
  | error e => simp
  | ok place =>
    simp only [asksForDirectory_ownFile]
    cases t.get? place with
    | none => simp
    | some entry => cases entry <;> simp

section Sources

variable {globals : Globals} {d : Disk} {path : Path} {loaded : Except RunError Settings}

theorem loadDirectory_of_isFile {directory : Path}
    (h : d.tree.isFile (ownFile directory) = true) :
    Settings.loadDirectory Disk.store directory d =
      Settings.loadFile Disk.store (ownFile directory) d := by
  have hstore : Disk.store.isFile (ownFile directory) d = (true, d) := Prod.ext h rfl
  unfold ownFile at hstore
  unfold Settings.loadDirectory
  simp only [Disk.bind_apply, hstore]
  rfl

theorem loadDirectory_of_not_isFile {directory : Path}
    (h : d.tree.isFile (ownFile directory) = false) :
    Settings.loadDirectory Disk.store directory d = (.ok Settings.defaults, d) := by
  have hstore : Disk.store.isFile (ownFile directory) d = (false, d) := Prod.ext h rfl
  unfold ownFile at hstore
  unfold Settings.loadDirectory
  simp only [Disk.bind_apply, hstore]
  rfl

/-- A file that is the source of the settings decides what is loaded. -/
theorem load_of_source (h : Source globals d path) :
    (loadSettings Disk.store globals d).1 = loaded ↔ Gives d path loaded := by
  rw [← loadFile_iff]
  cases h with
  | named hnamed => rw [loadSettings_named hnamed]
  | own hnamed hdirectory hfile =>
    have hisFile := (isFile_ownFile_iff d.tree _).2 ⟨_, hfile⟩
    rw [loadSettings_unnamed hnamed hdirectory, loadDirectory_of_isFile hisFile]

theorem load_of_no_source {directory : Path}
    (hdirectory : d.tree.workingDirectory = .ok directory)
    (h : ∀ path, ¬Source globals d path) :
    (loadSettings Disk.store globals d).1 = .ok Settings.defaults := by
  cases hnamed : globals.config with
  | some path => exact absurd (.named hnamed) (h path)
  | none =>
    have hisFile : d.tree.isFile (ownFile directory) = false := by
      rw [Bool.eq_false_iff, Ne, isFile_ownFile_iff]
      rintro ⟨contents, hfile⟩
      exact h _ (.own hnamed hdirectory hfile)
    rw [loadSettings_unnamed hnamed hdirectory, loadDirectory_of_not_isFile hisFile]
    rfl

end Sources

/-! ## Runs -/

/-- A command line that asks for one of the two commands. -/
inductive Asks (arguments : List String) (globals : Globals) : Prop where
  | replay {options : ReplayOptions} (h : Request.parse arguments = .ok (.replay globals options))
  | explain {options : ExplainOptions}
      (h : Request.parse arguments = .ok (.explain globals options))

/-- A run whose settings cannot be loaded shows why, and does nothing else. -/
theorem run_unsettled {arguments : List String} {globals : Globals} {d : Disk} {e : RunError}
    (hasks : Asks arguments globals) (hload : (loadSettings Disk.store globals d).1 = .error e) :
    run Disk.store arguments d = (⟨1, "", [], some e⟩, d) := by
  have hsame : loadSettings Disk.store globals d = (.error e, d) :=
    Prod.ext hload (loadSettings_disk globals d)
  cases hasks with
  | @replay options h =>
    rw [run, h]
    show perform Disk.store (.replay globals options) d = _
    rw [perform, Disk.bind_apply, hsame]
    rfl
  | @explain options h =>
    rw [run, h]
    show perform Disk.store (.explain globals options) d = _
    rw [perform, Disk.bind_apply, hsame]
    rfl

/-- A section gives each setting its value or leaves it at its default.  A text is accepted
with the settings that it means exactly if they are sound, and otherwise refused for their
first fault.  The file that is named, or else the one in the working directory, decides what
is loaded, and loads nothing but what its text means; the defaults are loaded only where there
is a working directory and no such file, and without either the failure is that of looking for
the directory.  A run of either command whose settings cannot be loaded exits with 1, prints
nothing, and leaves the disk as it is, whatever else its command line says. -/
theorem settings_as_a_whole :
    (∀ toml document, Toml.read? toml = some document →
      (document.lookup "export" = none → Settings.decode toml = .ok Settings.defaults) ∧
      ∀ origin entries, document.lookup "export" = some (.table origin entries) →
        ∀ s, Settings.decode toml = .ok s ↔ s.GivenBy entries) ∧
    (∀ toml s, Settings.decode toml = .ok s →
      (∀ s', Settings.parse toml = .ok s' ↔ s' = s ∧ s.Sound) ∧
      ∀ e, Settings.parse toml = .error e ↔ s.FirstFault e) ∧
    (∀ globals d path, Source globals d path → ∀ loaded,
      (loadSettings Disk.store globals d).1 = loaded ↔ Gives d path loaded) ∧
    (∀ globals d directory, d.tree.workingDirectory = .ok directory →
      (∀ path, ¬Source globals d path) →
        (loadSettings Disk.store globals d).1 = .ok Settings.defaults) ∧
    (∀ globals d cause, globals.config = none → d.tree.workingDirectory = .error cause →
      (loadSettings Disk.store globals d).1 = .error (.nowhere cause)) ∧
    (∀ globals d path s, Source globals d path →
      (loadSettings Disk.store globals d).1 = .ok s →
        ∃ toml, d.read path = .ok (storedBytes toml) ∧ Settings.decode toml = .ok s ∧ s.Sound) ∧
    ∀ arguments globals d e, Asks arguments globals →
      (loadSettings Disk.store globals d).1 = .error e →
        run Disk.store arguments d = (⟨1, "", [], some e⟩, d) := by
  refine ⟨fun toml document hread => ⟨Settings.decode_absent hread, fun origin entries hexport s =>
      Settings.decode_table_iff hread hexport s⟩, fun toml s hdecode => ?_,
    fun globals d path hsource loaded => load_of_source hsource,
    fun globals d directory hdirectory hnone => load_of_no_source hdirectory hnone,
    fun globals d cause hnamed hfound => congrArg Prod.fst (loadSettings_nowhere hnamed hfound),
    fun globals d path s hsource hload => ?_,
    fun arguments globals d e hasks hload => run_unsettled hasks hload⟩
  · rw [Settings.parse_of_decode hdecode]
    exact ⟨fun s' => Settings.check_eq_ok_iff, fun e => Settings.check_eq_error_iff⟩
  · exact ((load_of_source hsource).1 hload).sound rfl

/-- A disk with settings whose levels are too wide, and with a file to replay. -/
def tooWideDisk : Disk :=
  .reliable ⟨[(["triage.toml"], .file (storedBytes "[export]\nindent = 9\n")),
    (["d.jsonl"], .file [123, 125, 10])], []⟩

theorem settings_as_a_whole_tooWideDisk :
    Settings.parse "[export]\nindent = 9\n" = .error (.tooWide 9) ∧
    (loadSettings Disk.store ⟨false, false, none⟩ tooWideDisk).1 =
      .error (.settings (.tooWide 9)) ∧
    run Disk.store garbledArguments tooWideDisk =
      (⟨1, "", [], some (.settings (.tooWide 9))⟩, tooWideDisk) := by
  have hdecode : Settings.decode "[export]\nindent = 9\n" =
      .ok { Settings.defaults with indent := 9 } := by decide +kernel
  have hdirectory : tooWideDisk.tree.workingDirectory = .ok ⟨"/"⟩ := by decide +kernel
  have hfile : tooWideDisk.tree.at? (ownFile ⟨"/"⟩) =
      some (.file (storedBytes "[export]\nindent = 9\n")) := by decide +kernel
  have hread : tooWideDisk.read (ownFile ⟨"/"⟩) =
      .ok (storedBytes "[export]\nindent = 9\n") := by decide +kernel
  obtain ⟨-, hchecked, hloaded, -, -, -, hrun⟩ := settings_as_a_whole
  have hparse : Settings.parse "[export]\nindent = 9\n" = .error (.tooWide 9) :=
    ((hchecked _ _ hdecode).2 _).2 (.indent ⟨Text.legible_iff.2 (by decide +kernel),
      Text.legible_iff.2 (by decide +kernel), Settings.isOnWeb_iff_onWeb.1 (by decide +kernel)⟩
      (by decide))
  have hload : (loadSettings Disk.store ⟨false, false, none⟩ tooWideDisk).1 =
      .error (.settings (.tooWide 9)) := by
    have hgives : Gives tooWideDisk (ownFile ⟨"/"⟩) (.error (.settings (.tooWide 9))) := by
      have htext := Gives.text hread
      rwa [hparse] at htext
    exact (hloaded _ _ _ (.own rfl hdirectory hfile) _).2 hgives
  exact ⟨hparse, hload, hrun _ _ _ _ (.replay parse_garbledArguments) hload⟩

end DmlReport.Command
