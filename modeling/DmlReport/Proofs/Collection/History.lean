import DmlReport.Collection
import Mathlib.Data.List.DropRight

/-!
# A collection is a function of its history

Diagnostics are added to a collection, contexts are reported to it, and it is
cleared, in any order and any number of times.  What it holds then are the findings
for the diagnostics added after the last clearing, in order, and the context that
was reported last (`gather_eq`).
-/

namespace DmlReport.Collection

/-- What can be done to a collection. -/
inductive Change where
  | add (d : Diagnostic)
  | report (context : Context)
  | clear

namespace Change

def diagnostic? : Change → Option Diagnostic
  | .add d => some d
  | _ => none

def context? : Change → Option Context
  | .report context => some context
  | _ => none

def clears : Change → Bool
  | .clear => true
  | _ => false

end Change

def apply (c : Collection) : Change → Collection
  | .add d => c.add d
  | .report context => c.withContext context
  | .clear => c.clear

/-- The collection that changes make of an empty one. -/
def gather (h : Handbook) (changes : List Change) : Collection :=
  changes.foldl apply (empty h)

/-- The diagnostics added after the last clearing. -/
def added (changes : List Change) : List Diagnostic :=
  (changes.rtakeWhile fun x => !x.clears).filterMap Change.diagnostic?

/-- The context that was reported last. -/
def reported (changes : List Change) : Context :=
  (changes.filterMap Change.context?).getLast?.getD .unknown

section

variable (changes : List Change) (x : Change)

theorem gather_snoc (h : Handbook) : gather h (changes ++ [x]) = (gather h changes).apply x := by
  rw [gather, List.foldl_append]
  rfl

theorem added_snoc :
    added (changes ++ [x]) = if x.clears then [] else added changes ++ x.diagnostic?.toList := by
  unfold added
  rw [List.rtakeWhile_concat]
  by_cases hx : x.clears
  · simp only [hx, Bool.not_true, Bool.false_eq_true, if_false, if_true, List.filterMap_nil]
  · simp only [hx, Bool.not_false, if_true, Bool.false_eq_true, if_false, List.filterMap_append]
    cases hd : x.diagnostic? <;> simp [hd]

theorem reported_snoc : reported (changes ++ [x]) = x.context?.getD (reported changes) := by
  unfold reported
  rw [List.filterMap_append]
  cases hx : x.context? <;> simp [hx]

end

/-- A collection holds what its history says. -/
theorem gather_eq (h : Handbook) (changes : List Change) :
    gather h changes = ⟨h, reported changes, (added changes).map (Finding.ofDiagnostic h)⟩ := by
  induction changes using List.reverseRecOn with
  | nil => rfl
  | append_singleton before x ih =>
    rw [gather_snoc, ih, added_snoc, reported_snoc]
    cases x with
    | add d =>
      simp [apply, Collection.add, Change.clears, Change.diagnostic?, Change.context?]
    | report context => simp [apply, withContext, Change.clears, Change.diagnostic?, Change.context?]
    | clear => simp [apply, Collection.clear, Change.clears, Change.context?]

end DmlReport.Collection
