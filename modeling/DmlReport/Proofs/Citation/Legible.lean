import DmlReport.Proofs.Diagnostic.Usable

/-!
# Citations that can be read

A citation has a text for people.  A text rendered beforehand is passed over if it is blank,
and a location of which nothing is known is cited by a placeholder, but the name of a file is
taken as it is.  So the text of a citation is blank exactly if it is that of a blank file name
and no line (`Finding.citation_legible_iff`); a line number can be read, and so can the
stand-in for an unknown file.
-/

namespace DmlReport

namespace Text

/-- A text says something: a character of it is not blank. -/
def Legible (s : String) : Prop :=
  ∃ c ∈ s.toList, isBlank c = false

theorem legible_iff {s : String} : Legible s ↔ allBlank s = false := by
  unfold Legible allBlank
  simp

theorem legible_append {s t : String} : Legible (s ++ t) ↔ Legible s ∨ Legible t := by
  unfold Legible
  simp only [String.toList_append, List.mem_append, or_and_right, exists_or]

end Text

open Text (Legible)

/-! ## Descriptions of a location -/

namespace Location

variable {l : Location}

/-- No stage has rendered the location, or only as a blank text. -/
def Undisplayed (l : Location) : Prop :=
  ∀ s, l.display = some s → ¬Legible s

theorem shownAs?_eq_some_iff {s : String} :
    l.shownAs? = some s ↔ l.display = some s ∧ Legible s := by
  rw [shownAs?, Option.filter_eq_some_iff, Bool.not_eq_true', Text.legible_iff]

theorem not_undisplayed_iff : ¬l.Undisplayed ↔ ∃ s, l.display = some s ∧ Legible s := by
  simp [Undisplayed]

theorem shownAs?_eq_none_iff : l.shownAs? = none ↔ l.Undisplayed := by
  simp only [Option.eq_none_iff_forall_ne_some, Ne, shownAs?_eq_some_iff, not_and]
  rfl

theorem isUnknown_iff :
    l.isUnknown = true ↔ l.file = none ∧ l.line = none ∧ l.Undisplayed := by
  rw [isUnknown, Bool.and_eq_true, Bool.and_eq_true, Option.isNone_iff_eq_none,
    Option.isNone_iff_eq_none, Option.isNone_iff_eq_none, shownAs?_eq_none_iff, and_assoc]

theorem describe_of_legible {s : String} (hs : l.display = some s) (h : Legible s) :
    l.describe = s := by
  unfold describe
  rw [shownAs?_eq_some_iff.2 ⟨hs, h⟩]

theorem describe_of_undisplayed (h : l.Undisplayed) :
    l.describe = l.file.getD "<unknown>" ++ l.position := by
  unfold describe
  rw [shownAs?_eq_none_iff.2 h]

theorem legible_position : Legible l.position ↔ l.line ≠ none := by
  unfold position
  cases l.line with
  | none => simp [Legible]
  | some line =>
    have hcolon (rest : String) : Legible (":" ++ rest) :=
      Text.legible_append.2 (Or.inl ⟨':', by simp, rfl⟩)
    cases l.column <;> simp [toString, String.append_assoc, hcolon]

/-- A description is blank only for want of anything but a blank file name. -/
theorem legible_describe : Legible l.describe ↔ ¬∃ file, l.Undisplayed ∧
    l.file = some file ∧ ¬Legible file ∧ l.line = none := by
  by_cases hdisplay : l.Undisplayed
  · rw [describe_of_undisplayed hdisplay, Text.legible_append, legible_position]
    cases l.file with
    | none =>
      have hunknown : Legible "<unknown>" := ⟨'<', by decide, rfl⟩
      simp [hunknown]
    | some file => simp [hdisplay, or_iff_not_imp_left]
  · obtain ⟨s, hs, hlegible⟩ := not_undisplayed_iff.1 hdisplay
    rw [describe_of_legible hs hlegible]
    simp [hdisplay, hlegible]

end Location

theorem oneIndexed_eq_none_iff {n : Option UInt32} :
    oneIndexed n = none ↔ n = none ∨ n = some 0 := by
  cases n <;> simp [oneIndexed]

namespace Citation

variable {l : Location}

theorem ofLocation?_of_unknown (h : l.isUnknown = true) : ofLocation? (some l) = unknown :=
  if_pos h

theorem ofLocation?_of_known (h : l.isUnknown ≠ true) :
    ofLocation? (some l) = ⟨l.file, l.line, l.describe⟩ :=
  if_neg h

theorem legible_unknown : Legible unknown.text :=
  ⟨'<', by decide, rfl⟩

theorem legible_ofLocation? : Legible (ofLocation? (some l)).text ↔ ¬∃ file, l.Undisplayed ∧
    l.file = some file ∧ ¬Legible file ∧ l.line = none := by
  by_cases hunknown : l.isUnknown = true
  · rw [ofLocation?_of_unknown hunknown]
    simp [legible_unknown, (Location.isUnknown_iff.1 hunknown).1]
  · rw [ofLocation?_of_known hunknown]
    exact Location.legible_describe

end Citation

namespace Finding

/-- The text that a finding cites its location by says something, except where the location
is that of a file with a blank name, without a line that counts from one and without a text
rendered beforehand.  Where nothing is known, the citation is the placeholder. -/
theorem citation_legible_iff (h : Handbook) (d : Diagnostic) :
    (Legible (ofDiagnostic h d).citation.text ↔
      ¬∃ l file, d.location = some l ∧ l.Undisplayed ∧ l.file = some file ∧ ¬Legible file ∧
        (l.line = none ∨ l.line = some 0)) ∧
    ((∀ l, d.location = some l →
      l.Undisplayed ∧ l.file = none ∧ (l.line = none ∨ l.line = some 0)) →
      (ofDiagnostic h d).citation = .unknown) := by
  have hcitation : (ofDiagnostic h d).citation =
      .ofLocation? (d.location.map Location.normalized) := rfl
  rw [hcitation]
  cases d.location with
  | none => simp [Citation.ofLocation?, Citation.legible_unknown]
  | some l =>
    have hline : l.normalized.line = none ↔ l.line = none ∨ l.line = some 0 :=
      oneIndexed_eq_none_iff
    rw [Option.map_some, Citation.legible_ofLocation?, hline]
    constructor
    · simp only [Option.some.injEq, exists_and_left, exists_eq_left']
      rfl
    · intro hnothing
      obtain ⟨hdisplay, hfile, hnumber⟩ := hnothing l rfl
      exact Citation.ofLocation?_of_unknown
        (Location.isUnknown_iff.2 ⟨hfile, hline.2 hnumber, hdisplay⟩)

/-- An error in a file with an empty name. -/
def namelessFile : Diagnostic :=
  ⟨.error, none, none, some (.inFile ""), [], none⟩

/-- A diagnostic that is cited by a text that says nothing. -/
theorem citation_namelessFile :
    (ofDiagnostic .published namelessFile).citation.text = "" ∧
    ¬Legible (ofDiagnostic .published namelessFile).citation.text := by
  have htext : (ofDiagnostic .published namelessFile).citation.text = "" := by decide +kernel
  refine ⟨htext, ?_⟩
  rw [htext]
  simp [Legible]

end Finding

end DmlReport
