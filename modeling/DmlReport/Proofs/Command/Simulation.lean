import DmlReport.Command.Run
import DmlReport.Proofs.Document.Rendering

/-!
# Programs that run side by side

Two programs simulate each other if, started in related states, they give the same result
and leave related states.  Sequencing keeps that (`Simulates.bind`).  The programs that
write a document use a store for its steps alone, so on two stores whose steps simulate
each other they do as well, up to the end of a replay (`Simulates.endReplay`).
-/

namespace DmlReport

open Command

/-- Started in related states, two programs give the same and leave related states. -/
def Simulates {σ τ α : Type} (R : σ → τ → Prop) (x : StateM σ α) (y : StateM τ α) : Prop :=
  ∀ s t, R s t → (x s).1 = (y t).1 ∧ R (x s).2 (y t).2

namespace Simulates

variable {σ τ α β : Type} {R : σ → τ → Prop}

theorem pure (a : α) : Simulates R (Pure.pure a) (Pure.pure a) :=
  fun _ _ h => ⟨rfl, h⟩

theorem bind {x : StateM σ α} {y : StateM τ α} {f : α → StateM σ β} {g : α → StateM τ β}
    (hx : Simulates R x y) (hf : ∀ a, Simulates R (f a) (g a)) :
    Simulates R (x >>= f) (y >>= g) := by
  intro s t h
  obtain ⟨hresult, hstates⟩ := hx s t h
  have hnext := hf (x s).1 (x s).2 (y t).2 hstates
  rw [hresult] at hnext
  show (f (x s).1 (x s).2).1 = (g (y t).1 (y t).2).1 ∧
    R (f (x s).1 (x s).2).2 (g (y t).1 (y t).2).2
  rw [hresult]
  exact hnext

/-! ## Writing a document -/

section

variable {store : Store (StateM σ)} {store' : Store (StateM τ)}
  (hperform : ∀ step, Simulates R (store.perform step) (store'.perform step))
include hperform

theorem performAll (steps : List FileStep) :
    Simulates R (store.performAll steps) (store'.performAll steps) := by
  induction steps with
  | nil => exact pure _
  | cons step rest ih =>
    refine bind (hperform step) fun result => ?_
    cases result with
    | ok => exact ih
    | error e => exact pure _

theorem replace (path : Path) (contents : String) :
    Simulates R (store.replace path contents) (store'.replace path contents) := by
  refine bind (performAll hperform _) fun result => ?_
  cases result with
  | ok => exact pure _
  | error e => exact bind (hperform _) fun _ => pure _

theorem exportTo (l : Layout) (c : Collection) (path : Path) :
    Simulates R (l.exportTo store c path) (l.exportTo store' c path) := by
  rw [l.exportTo_eq, l.exportTo_eq]
  refine bind (replace hperform path (l.render c)) fun result => ?_
  cases result with
  | ok => exact pure _
  | error e => exact pure _

theorem write (s : Scope) : Simulates R (s.write store) (s.write store') := by
  unfold Scope.write
  cases s.destination with
  | none => exact pure _
  | some path =>
    cases s.gate.active with
    | none => exact pure _
    | some c =>
      refine bind (exportTo hperform s.layout c path) fun result => ?_
      obtain ⟨e | ⟨⟩, events⟩ := result
      · exact pure _
      · exact pure _

theorem release (s : Scope) (crashed : Bool) :
    Simulates R (s.release store crashed) (s.release store' crashed) := by
  unfold Scope.release
  split
  · exact pure _
  · exact bind (write hperform s) fun _ => pure _

theorem close (s : Scope) (ending : Ending) :
    Simulates R (s.close store ending) (s.close store' ending) := by
  cases ending with
  | finished =>
    exact bind (write hperform _) fun _ => bind (release hperform _ false) fun _ => pure _
  | left => exact release hperform s false
  | crashed => exact release hperform s true

theorem endReplay (s : Scope) (p : Progress) (flaw : Option StreamError) :
    Simulates R (Command.endReplay store s p flaw) (Command.endReplay store' s p flaw) := by
  cases flaw with
  | some e => exact bind (close hperform s .left) fun _ => pure _
  | none =>
    refine bind (close hperform s .finished) fun r => ?_
    obtain ⟨e | b, events⟩ := r
    · exact pure _
    · exact pure _

end

end Simulates

end DmlReport
