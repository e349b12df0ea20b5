import DmlReport.Text.Blank
import Mathlib.Data.List.DropRight

/-!
# Texts without the blanks at their ends

Trimming takes blanks off the two ends of a text and stops where a character is not
blank.  `IsTrimmed` says so of a text and what is left of it, and it holds of nothing
but what `trim` gives (`isTrimmed_iff`).
-/

namespace DmlReport.Text

/-- Nothing but blanks. -/
def Blank (cs : List Char) : Prop :=
  ∀ c ∈ cs, isBlank c = true

theorem blank_of_allBlank {s : String} (h : allBlank s = true) : Blank s.toList :=
  List.all_eq_true.1 h

/-- What is left of a text without the blanks at its two ends. -/
structure IsTrimmed (s t : String) : Prop where
  around : ∃ before after, Blank before ∧ Blank after ∧
    s.toList = before ++ t.toList ++ after
  first : ∀ c ∈ t.toList.head?, isBlank c = false
  last : ∀ c ∈ t.toList.getLast?, isBlank c = false

theorem trimChars_eq (cs : List Char) :
    trimChars cs = (cs.dropWhile isBlank).rdropWhile isBlank := rfl

/-- Blanks around a text that neither starts nor ends with one are taken off. -/
theorem trimChars_around {before core after : List Char} (hbefore : Blank before)
    (hafter : Blank after) (hfirst : ∀ c ∈ core.head?, isBlank c = false)
    (hlast : ∀ c ∈ core.getLast?, isBlank c = false) :
    trimChars (before ++ core ++ after) = core := by
  rw [trimChars_eq, List.append_assoc, List.dropWhile_append_of_pos hbefore]
  cases hcore : core with
  | nil =>
    rw [List.nil_append, List.rdropWhile_eq_nil_iff]
    intro c hc
    exact hafter c ((List.dropWhile_sublist _).subset hc)
  | cons c rest =>
    rw [hcore] at hfirst hlast
    have hc : isBlank c = false := hfirst c rfl
    have hdrop : (c :: rest ++ after).dropWhile isBlank = c :: rest ++ after := by
      rw [List.cons_append]
      exact List.dropWhile_cons_of_neg (by simp [hc])
    have hstop : (c :: rest).rdropWhile isBlank = c :: rest := by
      rw [List.rdropWhile_eq_self_iff]
      intro hne
      simp [hlast _ (List.getLast?_eq_some_getLast hne)]
    have hreverse : Blank after.reverse := fun c hc => hafter c (List.mem_reverse.1 hc)
    rw [hdrop, List.rdropWhile, List.reverse_append, List.dropWhile_append_of_pos hreverse]
    exact hstop

theorem isTrimmed_trim (s : String) : IsTrimmed s (trim s) where
  around := by
    refine ⟨s.toList.takeWhile isBlank, (s.toList.dropWhile isBlank).rtakeWhile isBlank,
      fun c hc => List.mem_takeWhile_imp hc, fun c hc => List.mem_rtakeWhile_imp hc, ?_⟩
    rw [trim, String.toList_ofList, trimChars_eq, List.append_assoc,
      List.rdropWhile_append_rtakeWhile, List.takeWhile_append_dropWhile]
  first := by
    intro c hc
    rw [trim, String.toList_ofList, trimChars_eq] at hc
    -- The first character that stays is the first of the longer text too.
    obtain ⟨rest, hrest⟩ := List.rdropWhile_prefix isBlank (l := s.toList.dropWhile isBlank)
    have hhead : (s.toList.dropWhile isBlank).head? = some c := by
      rw [← hrest, List.head?_append, hc]
      rfl
    have hnot := List.head?_dropWhile_not isBlank s.toList
    rw [hhead] at hnot
    simpa using hnot
  last := by
    intro c hc
    rw [trim, String.toList_ofList, trimChars_eq] at hc
    have hne : (s.toList.dropWhile isBlank).rdropWhile isBlank ≠ [] := by
      intro hnil
      rw [hnil] at hc
      cases hc
    have hnot := List.rdropWhile_last_not isBlank (s.toList.dropWhile isBlank) hne
    rw [List.getLast?_eq_some_getLast hne] at hc
    cases hc
    simpa using hnot

/-- One text is left of a text without the blanks at its ends. -/
theorem isTrimmed_iff {s t : String} : IsTrimmed s t ↔ trim s = t := by
  constructor
  · intro ⟨⟨before, after, hbefore, hafter, hs⟩, hfirst, hlast⟩
    rw [trim, hs, trimChars_around hbefore hafter hfirst hlast, String.ofList_toList]
  · rintro rfl
    exact isTrimmed_trim s

end DmlReport.Text
