import DmlReport.Command.Replay
import DmlReport.Proofs.Citation.Legible

/-!
# Printed and exported locations

A diagnostic is printed with its location as it was raised, and exported with the location
less the numbers that do not count from one.  Both are described alike, so the two texts agree
except where such a number stands in the printed one: a line 0, or a column 0 after a line
(`Diagnostic.printed_agrees_iff`).  No number counts if a stage has rendered the location
itself.
-/

namespace DmlReport

open Command
open Text (Legible)

theorem oneIndexed_of_ne_zero {n : Option UInt32} (h : n ≠ some 0) : oneIndexed n = n := by
  cases n with
  | none => rfl
  | some n => simpa [oneIndexed] using h

/-! ## Numbers in a description -/

namespace Location

variable {l : Location}

/-- A number that does not count from one is part of the description. -/
def Misnumbered (l : Location) : Prop :=
  l.line = some 0 ∨ l.line ≠ none ∧ l.column = some 0

theorem position_of_none (h : l.line = none) : l.position = "" := by
  unfold position
  rw [h]

theorem position_of_some {line : UInt32} (h : l.line = some line) :
    l.position = ":" ++ toString line.toNat ++
      (l.column.map fun column => ":" ++ toString column.toNat).getD "" := by
  unfold position
  rw [h]
  cases l.column <;> simp [toString, String.append_assoc]

theorem line_normalized (h : ¬l.Misnumbered) : l.normalized.line = l.line :=
  oneIndexed_of_ne_zero fun hline => h (Or.inl hline)

theorem position_normalized (h : ¬l.Misnumbered) : l.normalized.position = l.position := by
  have hline := line_normalized h
  cases hl : l.line with
  | none => rw [position_of_none hl, position_of_none (hline.trans hl)]
  | some line =>
    have hcolumn : l.normalized.column = l.column :=
      oneIndexed_of_ne_zero fun hcolumn => h (Or.inr ⟨by simp [hl], hcolumn⟩)
    rw [position_of_some hl, position_of_some (hline.trans hl), hcolumn]

theorem position_normalized_ne (h : l.Misnumbered) : l.normalized.position ≠ l.position := by
  by_cases hzero : l.line = some 0
  · have hline : l.normalized.line = none := oneIndexed_eq_none_iff.2 (Or.inr hzero)
    rw [position_of_none hline, position_of_some hzero]
    simp [← String.toList_inj]
  · obtain ⟨hsome, hcolumn⟩ := h.resolve_left hzero
    obtain ⟨line, hl⟩ := Option.ne_none_iff_exists'.1 hsome
    have hline : l.normalized.line = some line := (oneIndexed_of_ne_zero hzero).trans hl
    have hdropped : l.normalized.column = none := oneIndexed_eq_none_iff.2 (Or.inr hcolumn)
    rw [position_of_some hline, position_of_some hl, hdropped, hcolumn, Ne,
      String.append_right_inj]
    decide

theorem describe_normalized (h : ¬l.Misnumbered) : l.normalized.describe = l.describe := by
  unfold describe
  rw [position_normalized h]
  rfl

theorem describe_normalized_ne (hdisplay : l.Undisplayed) (h : l.Misnumbered) :
    l.normalized.describe ≠ l.describe := by
  have hnormalized : l.normalized.Undisplayed := hdisplay
  rw [describe_of_undisplayed hnormalized, describe_of_undisplayed hdisplay]
  intro heq
  exact position_normalized_ne h ((String.append_right_inj _).1 heq)

theorem isUnknown_normalized (h : ¬l.Misnumbered) : l.normalized.isUnknown = l.isUnknown := by
  unfold isUnknown
  rw [line_normalized h]
  rfl

end Location

/-! ## Agreement -/

/-- What stands in front of the primary line of a diagnostic, if anything. -/
def Diagnostic.locationPrefix? (d : Diagnostic) : Option String :=
  (d.location.bind Location.render?).map (· ++ ": ")

/-- The primary line of a diagnostic from its kind on. -/
def Diagnostic.announcement (d : Diagnostic) : String :=
  d.kind.name ++ (d.code.map (" " ++ ·)).getD "" ++ ": " ++ d.message.getD ""

namespace Citation

/-- A citation agrees with what stands in front of a line: its text does, or nothing does and
the citation is the placeholder. -/
def Agrees (c : Citation) : Option String → Prop
  | none => c = unknown
  | some s => s = c.text ++ ": "

variable {l : Location}

theorem agrees_of_counting (h : ¬l.Misnumbered) :
    (ofLocation? (some l.normalized)).Agrees (l.render?.map (· ++ ": ")) := by
  unfold Location.render?
  by_cases hunknown : l.isUnknown = true
  · rw [if_pos hunknown, ofLocation?_of_unknown ((Location.isUnknown_normalized h).trans hunknown)]
    rfl
  · have hknown : l.normalized.isUnknown ≠ true := by rwa [Location.isUnknown_normalized h]
    rw [if_neg hunknown, ofLocation?_of_known hknown, Location.describe_normalized h]
    rfl

theorem agrees_of_displayed {s : String} (hs : l.display = some s) (h : Legible s) :
    l.render? = some s ∧ (ofLocation? (some l.normalized)).text = s := by
  have hdisplay : ¬l.Undisplayed := Location.not_undisplayed_iff.2 ⟨s, hs, h⟩
  have hknown : l.isUnknown ≠ true := by simp [Location.isUnknown_iff, hdisplay]
  have hnormalized : l.normalized.isUnknown ≠ true := fun hunknown =>
    hdisplay (Location.isUnknown_iff.1 hunknown).2.2
  have hcited : l.normalized.display = some s := hs
  rw [Location.render?, if_neg hknown, ofLocation?_of_known hnormalized,
    Location.describe_of_legible hs h, Location.describe_of_legible hcited h]
  exact ⟨rfl, rfl⟩

theorem disagrees_of_misnumbered (hdisplay : l.Undisplayed) (h : l.Misnumbered) :
    ¬(ofLocation? (some l.normalized)).Agrees (l.render?.map (· ++ ": ")) := by
  have hline : l.line ≠ none := by
    rcases h with hzero | ⟨hsome, -⟩
    · simp [hzero]
    · exact hsome
  have hknown : l.isUnknown ≠ true := by simp [Location.isUnknown_iff, hline]
  rw [Location.render?, if_neg hknown]
  intro hagrees
  have htext : l.describe = (ofLocation? (some l.normalized)).text :=
    (String.append_left_inj ": ").1 hagrees
  by_cases hunknown : l.normalized.isUnknown = true
  · -- Without its line the location is unknown, and the two stand-ins differ.
    have hfile : l.file = none := (Location.isUnknown_iff.1 hunknown).1
    rw [ofLocation?_of_unknown hunknown, Location.describe_of_undisplayed hdisplay,
      hfile] at htext
    simp [unknown, ← String.toList_inj] at htext
  · rw [ofLocation?_of_known hunknown] at htext
    exact Location.describe_normalized_ne hdisplay h htext.symm

theorem agrees_iff : (ofLocation? (some l.normalized)).Agrees (l.render?.map (· ++ ": ")) ↔
    ¬(l.Undisplayed ∧ l.Misnumbered) := by
  constructor
  · rintro hagrees ⟨hdisplay, hnumbers⟩
    exact disagrees_of_misnumbered hdisplay hnumbers hagrees
  · intro h
    by_cases hdisplay : l.Undisplayed
    · exact agrees_of_counting fun hnumbers => h ⟨hdisplay, hnumbers⟩
    · obtain ⟨s, hs, hlegible⟩ := Location.not_undisplayed_iff.1 hdisplay
      obtain ⟨hprinted, hcited⟩ := agrees_of_displayed hs hlegible
      rw [hprinted]
      exact congrArg (· ++ ": ") hcited.symm

end Citation

namespace Diagnostic

theorem primaryLine_eq (d : Diagnostic) :
    primaryLine d = d.locationPrefix?.getD "" ++ d.announcement := by
  simp only [primaryLine, locationPrefix?, announcement, String.append_assoc]

theorem locationPrefix?_eq_none_iff {d : Diagnostic} : d.locationPrefix? = none ↔
    ∀ l, d.location = some l → l.file = none ∧ l.line = none ∧ l.Undisplayed := by
  rw [locationPrefix?, Option.map_eq_none_iff, Option.bind_eq_none_iff]
  simp only [Location.render?, ite_eq_left_iff, reduceCtorEq, imp_false, Classical.not_not,
    Location.isUnknown_iff]

/-- The primary line starts with a location unless nothing is known of it.  What it starts
with and the citation agree, except if the description has a line 0, or a column 0 after a
line, and no text rendered beforehand takes its place. -/
theorem printed_agrees_iff (h : Handbook) (d : Diagnostic) :
    let citation := (Finding.ofDiagnostic h d).citation
    primaryLine d = d.locationPrefix?.getD "" ++ d.announcement ∧
    (d.locationPrefix? = none ↔
      ∀ l, d.location = some l → l.file = none ∧ l.line = none ∧ l.Undisplayed) ∧
    (citation.Agrees d.locationPrefix? ↔ ¬∃ l, d.location = some l ∧ l.Undisplayed ∧
      (l.line = some 0 ∨ l.line ≠ none ∧ l.column = some 0)) ∧
    (∀ l s, d.location = some l → l.display = some s → Legible s →
      d.locationPrefix? = some (s ++ ": ") ∧ citation.text = s) ∧
    ∀ l, d.location = some l → l.line = none → citation.Agrees d.locationPrefix? := by
  intro citation
  have hcitation : citation = .ofLocation? (d.location.map Location.normalized) := rfl
  have hagrees : citation.Agrees d.locationPrefix? ↔
      ¬∃ l, d.location = some l ∧ l.Undisplayed ∧ l.Misnumbered := by
    rw [hcitation, locationPrefix?]
    cases d.location with
    | none => simp [Citation.Agrees, Citation.ofLocation?]
    | some l =>
      rw [Option.map_some, Option.bind_some, Citation.agrees_iff]
      simp
  refine ⟨d.primaryLine_eq, locationPrefix?_eq_none_iff, hagrees, ?_, ?_⟩
  · intro l s hl hs hlegible
    obtain ⟨hprinted, hcited⟩ := Citation.agrees_of_displayed hs hlegible
    rw [hcitation, locationPrefix?, hl, Option.bind_some, hprinted]
    exact ⟨rfl, hcited⟩
  · intro l hl hline
    rw [hagrees]
    rintro ⟨l', hl', -, hnumbers⟩
    obtain rfl : l = l' := Option.some.inj (hl.symm.trans hl')
    simp [Location.Misnumbered, hline] at hnumbers

end Diagnostic

end DmlReport
