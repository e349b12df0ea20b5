import DmlReport.Proofs.Document.Rendering
import DmlReport.Proofs.Gate.History
import DmlReport.Proofs.Storage.Replacement
import DmlReport.Scope

/-!
# The endings of a scope

However a scope ends, its export is the same program on the store: `close`
always comes down to one `Scope.write` (`close_finished`, `close_left` and
`close_crashed`), since the release of a finished scope does nothing.  What is
written depends on the history of the gate alone, and on a disk it is written by
one attempt (`close_once`).
-/

namespace DmlReport

/-- The answer to a write at a path. -/
def ExportError.answer (path : Path) : Except Failure Unit → Except ExportError Bool
  | .ok () => .ok true
  | .error e => .error (.unwritable path e)

namespace Scope

/-- A scope after operations on its gate. -/
def run (s : Scope) (ops : List Gate.Operation) : Scope :=
  { s with gate := (s.gate.run ops).1 }

/-! ## One write at any store -/

section

variable {m : Type → Type} [Monad m] [LawfulMonad m] {s : Scope} (store : Store m)

omit [LawfulMonad m] in
/-- Nothing is left to do for a scope that was finished. -/
theorem release_of_isFinished (h : s.isFinished = true) (crashed : Bool) :
    s.release store crashed = pure (.ok false, []) := by
  unfold release
  rw [h]
  rfl

theorem release_of_not_isFinished (h : s.isFinished = false) (crashed : Bool) :
    s.release store crashed =
      (fun r => (r.1, (if crashed then [.unwound] else []) ++ r.2 ++ complaint r.1)) <$>
        s.write store := by
  unfold release
  simp only [h, Bool.false_eq_true, if_false, map_eq_pure_bind]

theorem close_finished (s : Scope) : s.close store .finished = s.write store := by
  have hrelease := release_of_isFinished (s := { s with isFinished := true }) store rfl false
  have heq : s.close store .finished = (do
      let r ← s.write store
      let later ← release { s with isFinished := true } store false
      pure (r.1, r.2 ++ later.2)) := rfl
  rw [heq, hrelease]
  simp only [pure_bind, List.append_nil]
  exact bind_pure (s.write store)

theorem close_left (h : s.isFinished = false) :
    s.close store .left = (fun r => (r.1, r.2 ++ complaint r.1)) <$> s.write store :=
  release_of_not_isFinished store h false

theorem close_crashed (h : s.isFinished = false) :
    s.close store .crashed =
      (fun r => (r.1, .unwound :: (r.2 ++ complaint r.1))) <$> s.write store :=
  release_of_not_isFinished store h true

/-- A write asks the store for one replacement, if there is a destination and
the gate is open, and otherwise for nothing. -/
theorem write_eq (s : Scope) :
    s.write store =
      match s.destination, s.gate.active with
      | some path, some c =>
        (fun r => (ExportError.answer path r,
          match r with
          | .ok () => [.exported path.text c.size]
          | .error _ => [])) <$> store.replace path (s.layout.render c)
      | _, _ => pure (.ok false, []) := by
  unfold write
  simp only [Layout.exportTo_eq]
  cases s.destination with
  | none => rfl
  | some path =>
    cases s.gate.active with
    | none => rfl
    | some c =>
      simp only [bind_assoc, map_eq_pure_bind]
      congr 1
      funext r
      rcases r with e | ⟨⟩ <;> simp only [pure_bind] <;> rfl

end

/-! ## The gate at the end -/

/-- If there is a destination, the gate at the end is described by the history
that starts when the scope does, whatever the gate was before. -/
theorem gate_run_start (gate : Gate) (layout : Layout) (path : Path)
    (ops : List Gate.Operation) :
    ((start gate layout (some path)).run ops).gate =
      Gate.History.gate gate.handbook (.enable :: ops) :=
  Gate.run_gate gate.handbook (.enable :: ops)

/-! ## One attempt on a disk -/

/-- With a destination and an open gate, a write is one attempt to put the
document there, and it answers with the result. -/
theorem write_on_disk {s : Scope} {path : Path} {c : Collection} (hpath : s.destination = some path)
    (hactive : s.gate.active = some c) (d : Disk) :
    ∃ result,
      Disk.PutOnce path (s.layout.render c) d result (s.write Disk.store d).2 ∧
      (s.write Disk.store d).1.1 = ExportError.answer path result := by
  rw [write_eq, hpath, hactive]
  exact ⟨_, Disk.replace_putOnce path (s.layout.render c) d, rfl⟩

/-- Without a destination or with a shut gate, a write does nothing. -/
theorem write_nothing {s : Scope} (h : s.destination = none ∨ s.gate.active = none) (d : Disk) :
    s.write Disk.store d = ((.ok false, []), d) := by
  rw [write_eq]
  rcases h with h | h
  · rw [h]
    rfl
  · rw [h]
    cases s.destination <;> rfl

/-- Every ending leaves the disk that one write leaves, and gives its answer. -/
theorem close_on_disk {s : Scope} (h : s.isFinished = false) (ending : Ending) (d : Disk) :
    (s.close Disk.store ending d).2 = (s.write Disk.store d).2 ∧
      (s.close Disk.store ending d).1.1 = (s.write Disk.store d).1.1 := by
  cases ending with
  | finished =>
    rw [close_finished]
    exact ⟨rfl, rfl⟩
  | left =>
    rw [close_left Disk.store h]
    exact ⟨rfl, rfl⟩
  | crashed =>
    rw [close_crashed Disk.store h]
    exact ⟨rfl, rfl⟩

/-- However a scope ends, after any operations on its gate and on any disk, the
disk is the same.  If there is a destination and the gate is open by then, the
document of what it has collected is put there by one attempt, whose result is
the answer to who finishes the scope; otherwise nothing is tried. -/
theorem close_once (gate : Gate) (layout : Layout) (destination : Option Path)
    (ops : List Gate.Operation) (d : Disk) :
    let s := (start gate layout destination).run ops
    (∀ ending, (s.close Disk.store ending d).2 = (s.close Disk.store .finished d).2) ∧
    match destination, (Gate.History.gate gate.handbook (.enable :: ops)).active with
    | some path, some c =>
      ∃ result,
        Disk.PutOnce path (layout.render c) d result (s.close Disk.store .finished d).2 ∧
        (s.close Disk.store .finished d).1.1 = ExportError.answer path result
    | _, _ => s.close Disk.store .finished d = ((.ok false, []), d) := by
  intro s
  have hclose := fun ending => close_on_disk (s := s) rfl ending d
  refine ⟨fun ending => (hclose ending).1.trans (hclose .finished).1.symm, ?_⟩
  rw [close_finished]
  cases hd : destination with
  | none => exact write_nothing (Or.inl hd) d
  | some path =>
    have hgate : s.gate = Gate.History.gate gate.handbook (.enable :: ops) := by
      rw [← gate_run_start gate layout path ops, ← hd]
    cases hc : (Gate.History.gate gate.handbook (.enable :: ops)).active with
    | none => exact write_nothing (Or.inr (by rw [hgate, hc])) d
    | some c => exact write_on_disk (s := s) hd (by rw [hgate, hc]) d

end Scope

end DmlReport
