import DmlReport.Proofs.Citation.Legible
import DmlReport.Settings

/-!
# Accepted settings

A section gives each setting its value, or leaves it at its default
(`decode_table_iff`).  Settings are accepted as they are decoded if they are sound
(`check_eq_ok_iff`), and otherwise refused for the first of four reasons
(`check_eq_error_iff`); nothing is mended and nothing is accepted in part.
-/

namespace DmlReport.Settings

open Text (Legible)

/-! ## Decoding -/

/-- A setting has the value that entries give to its key, or its default if they do not
have the key. -/
def Sets {α : Type} (entries : Toml.Entries) (key : String) (toValue : α → Toml.Value)
    (default a : α) : Prop :=
  entries.lookup key = some (toValue a) ∨ entries.lookup key = none ∧ a = default

/-- The settings that the entries of a section give. -/
structure GivenBy (entries : Toml.Entries) (s : Settings) : Prop where
  generator : Sets entries "generator" .string defaults.generator s.generator
  indent : Sets entries "indent" (fun n : Nat => .integer n) defaults.indent s.indent
  docRoot : Sets entries "doc_base_url" .string defaults.docRoot s.docRoot

theorem textSetting_iff {default s : String} {v : Option Toml.Value} :
    textSetting default v = .ok s ↔ v = some (.string s) ∨ v = none ∧ s = default := by
  cases v with
  | none => simp [textSetting, eq_comm]
  | some v => cases v <;> simp [textSetting]

theorem numberSetting_iff {default n : Nat} {v : Option Toml.Value} :
    numberSetting default v = .ok n ↔ v = some (.integer n) ∨ v = none ∧ n = default := by
  cases v with
  | none => simp [numberSetting, eq_comm]
  | some v =>
    cases v with
    | integer i =>
      show (if 0 ≤ i then .ok i.toNat else .error .unparsable : Except SettingsError Nat) =
        .ok n ↔ _
      simp only [Option.some.injEq, Toml.Value.integer.injEq, reduceCtorEq, false_and, or_false]
      split
      · rw [Except.ok.injEq]
        omega
      · simp only [reduceCtorEq, false_iff]
        omega
    | _ => simp [numberSetting]

theorem ofFields_iff {generator indent docRoot : Option Toml.Value} {s : Settings} :
    ofFields generator indent docRoot = .ok s ↔
      textSetting defaults.generator generator = .ok s.generator ∧
        numberSetting defaults.indent indent = .ok s.indent ∧
        textSetting defaults.docRoot docRoot = .ok s.docRoot := by
  obtain ⟨g, i, r⟩ := s
  unfold ofFields
  cases textSetting defaults.generator generator <;> cases numberSetting defaults.indent indent <;>
    cases textSetting defaults.docRoot docRoot <;>
    simp [bind, Except.bind, pure, Except.pure]

section Decoding

variable {toml : String} {document : Toml.Entries}

theorem decode_absent (hread : Toml.read? toml = some document)
    (h : document.lookup "export" = none) : decode toml = .ok defaults := by
  simp only [decode, hread, h]

/-- A section gives each setting its value, or leaves it at its default. -/
theorem decode_table_iff (hread : Toml.read? toml = some document) {origin : Toml.Origin}
    {entries : Toml.Entries} (h : document.lookup "export" = some (.table origin entries))
    (s : Settings) :
    decode toml = .ok s ↔ s.GivenBy entries := by
  simp only [decode, hread, h, ofSection, ofEntries, ofFields_iff, textSetting_iff,
    numberSetting_iff]
  exact ⟨fun ⟨hgenerator, hindent, hdocRoot⟩ => ⟨hgenerator, hindent, hdocRoot⟩,
    fun hgiven => ⟨hgiven.generator, hgiven.indent, hgiven.docRoot⟩⟩

end Decoding

/-! ## Checking -/

/-- A URL starts with a scheme of the web. -/
def OnWeb (url : String) : Prop :=
  "http://".toList <+: url.toList ∨ "https://".toList <+: url.toList

/-- Settings that make sense. -/
structure Sound (s : Settings) : Prop where
  generator : Legible s.generator
  docRoot : Legible s.docRoot
  scheme : OnWeb s.docRoot
  indent : s.indent ≤ 8

/-- The first reason, in their order, why settings make no sense. -/
inductive FirstFault (s : Settings) : SettingsError → Prop where
  | generator (h : ¬Legible s.generator) : FirstFault s (.blank "generator")
  | docRoot (before : Legible s.generator) (h : ¬Legible s.docRoot) :
      FirstFault s (.blank "doc_base_url")
  | scheme (before : Legible s.generator ∧ Legible s.docRoot) (h : ¬OnWeb s.docRoot) :
      FirstFault s (.notOnWeb s.docRoot)
  | indent (before : Legible s.generator ∧ Legible s.docRoot ∧ OnWeb s.docRoot)
      (h : 8 < s.indent) : FirstFault s (.tooWide s.indent)

theorem isOnWeb_iff_onWeb {url : String} : isOnWeb url = true ↔ OnWeb url := by
  rw [OnWeb, isOnWeb, Bool.or_eq_true, List.isPrefixOf_iff_prefix, List.isPrefixOf_iff_prefix,
    or_comm]

theorem not_legible_iff {s : String} : ¬Legible s ↔ Text.allBlank s = true := by
  rw [Text.legible_iff, Bool.not_eq_false]

section Checking

variable {s : Settings}

theorem check_of_sound (h : s.Sound) : check s = .ok s := by
  have hgenerator := Text.legible_iff.1 h.generator
  have hdocRoot := Text.legible_iff.1 h.docRoot
  have hscheme := isOnWeb_iff_onWeb.2 h.scheme
  have hindent : ¬maxIndent < s.indent := Nat.not_lt.2 h.indent
  simp only [check, hgenerator, hdocRoot, hscheme, hindent, Bool.false_eq_true, Bool.not_true,
    if_false]

theorem check_of_fault {e : SettingsError} (h : FirstFault s e) : check s = .error e := by
  cases h with
  | generator h => simp only [check, not_legible_iff.1 h, if_true]
  | docRoot hgenerator h =>
    simp only [check, Text.legible_iff.1 hgenerator, not_legible_iff.1 h, Bool.false_eq_true,
      if_false, if_true]
  | scheme before h =>
    obtain ⟨hgenerator, hdocRoot⟩ := before
    have hscheme : isOnWeb s.docRoot = false :=
      Bool.eq_false_iff.2 fun hweb => h (isOnWeb_iff_onWeb.1 hweb)
    simp only [check, Text.legible_iff.1 hgenerator, Text.legible_iff.1 hdocRoot, hscheme,
      Bool.false_eq_true, Bool.not_false, if_false, if_true]
  | indent before h =>
    obtain ⟨hgenerator, hdocRoot, hscheme⟩ := before
    have hindent : maxIndent < s.indent := h
    simp only [check, Text.legible_iff.1 hgenerator, Text.legible_iff.1 hdocRoot,
      isOnWeb_iff_onWeb.2 hscheme, hindent, Bool.false_eq_true, Bool.not_true, if_false, if_true]

theorem sound_or_fault (s : Settings) : s.Sound ∨ ∃ e, FirstFault s e := by
  by_cases hgenerator : Legible s.generator
  · by_cases hdocRoot : Legible s.docRoot
    · by_cases hscheme : OnWeb s.docRoot
      · rcases Nat.lt_or_ge 8 s.indent with hindent | hindent
        · exact Or.inr ⟨_, .indent ⟨hgenerator, hdocRoot, hscheme⟩ hindent⟩
        · exact Or.inl ⟨hgenerator, hdocRoot, hscheme, hindent⟩
      · exact Or.inr ⟨_, .scheme ⟨hgenerator, hdocRoot⟩ hscheme⟩
    · exact Or.inr ⟨_, .docRoot hgenerator hdocRoot⟩
  · exact Or.inr ⟨_, .generator hgenerator⟩

theorem check_eq_ok_iff {s' : Settings} : check s = .ok s' ↔ s' = s ∧ s.Sound := by
  constructor
  · intro hcheck
    rcases sound_or_fault s with hsound | ⟨e, hfault⟩
    · rw [check_of_sound hsound] at hcheck
      exact ⟨(Except.ok.inj hcheck).symm, hsound⟩
    · rw [check_of_fault hfault] at hcheck
      cases hcheck
  · rintro ⟨rfl, hsound⟩
    exact check_of_sound hsound

theorem check_eq_error_iff {e : SettingsError} : check s = .error e ↔ FirstFault s e := by
  refine ⟨fun hcheck => ?_, check_of_fault⟩
  rcases sound_or_fault s with hsound | ⟨e', hfault⟩
  · rw [check_of_sound hsound] at hcheck
    cases hcheck
  · rw [check_of_fault hfault] at hcheck
    exact Except.error.inj hcheck ▸ hfault

theorem parse_of_decode {toml : String} (h : decode toml = .ok s) : parse toml = check s := by
  unfold parse
  rw [h]
  rfl

/-- A text gives the settings that it means, if they are sound. -/
theorem parse_eq_ok_iff {toml : String} : parse toml = .ok s ↔ decode toml = .ok s ∧ s.Sound := by
  unfold parse
  cases hdecode : decode toml with
  | error e => simp [bind, Except.bind]
  | ok s' =>
    show check s' = .ok s ↔ _
    rw [check_eq_ok_iff, Except.ok.injEq, eq_comm]
    exact ⟨fun ⟨h, hsound⟩ => ⟨h, h ▸ hsound⟩, fun ⟨h, hsound⟩ => ⟨h, h ▸ hsound⟩⟩

end Checking

end DmlReport.Settings
