import DmlReport.Session
import Mathlib.Data.List.DropRight

/-!
# A gate is a function of its history

What a gate holds can be read off the operations that were done to it, without
following them one by one: whether the last switch opened it, what was logged
after the last reset, and which context came last.  `History.gate` says so, and
`run_refines_history` proves it of every run that starts at a shut gate.  The
proof follows the history from its end: each part of the description has a
lemma for one more operation, and `History.gate_snoc` puts them together.
-/

namespace DmlReport.Gate

namespace Operation

/-- Whether an operation opens or shuts the gate. -/
def switch? : Operation → Option Bool
  | .enable => some true
  | .disable => some false
  | _ => none

/-- The diagnostic that an operation sends to the gate. -/
def logged? : Operation → Option Diagnostic
  | .log d => some d
  | _ => none

/-- The context that an operation reports. -/
def context? : Operation → Option Context
  | .setContext c => some c
  | _ => none

/-- Whether an operation starts a new collection. -/
def isEnable : Operation → Bool
  | .enable => true
  | _ => false

/-- Whether no finding from before an operation is collected after it, unless
the gate was shut. -/
def isReset : Operation → Bool
  | .enable => true
  | .clear => true
  | _ => false

/-- Whether an operation is idle at a gate that is open or not: a question
always is, and at a shut gate everything but a switch is. -/
def isIdle (isOpen : Bool) : Operation → Bool
  | .enable => false
  | .disable => false
  | .log _ => !isOpen
  | .setContext _ => !isOpen
  | .clear => !isOpen
  | .summary => true
  | .findings => true
  | .context => true
  | .render _ => true

end Operation

/-- The collection that an answer hands over. -/
def Answer.handedOver? : Answer → Option (Option Collection)
  | .handedOver c => some c
  | _ => none

/-! ## The description -/

namespace History

/-- The operations after the last one that is a boundary; all of them if none
is. -/
def since (boundary : Operation → Bool) (h : List Operation) : List Operation :=
  h.rtakeWhile fun op => !boundary op

/-- Whether the last switch opened the gate. -/
def isOpen (h : List Operation) : Bool :=
  (h.filterMap Operation.switch?).getLast?.getD false

/-- The diagnostics logged after the last reset, in order. -/
def logged (h : List Operation) : List Diagnostic :=
  (since Operation.isReset h).filterMap Operation.logged?

/-- The last context reported after the gate was last enabled. -/
def context (h : List Operation) : Context :=
  ((since Operation.isEnable h).filterMap Operation.context?).getLast?.getD .unknown

/-- What the gate has collected if it is open. -/
def collection (hb : Handbook) (h : List Operation) : Collection :=
  ⟨hb, context h, (logged h).map (Finding.ofDiagnostic hb)⟩

/-- The gate after a history that starts at a shut gate. -/
def gate (hb : Handbook) (h : List Operation) : Gate :=
  ⟨hb, if isOpen h then some (collection hb h) else none⟩

/-- A history without its idle operations. -/
def effective (isOpen : Bool) : List Operation → List Operation
  | [] => []
  | op :: rest =>
    let others := effective (op.switch?.getD isOpen) rest
    if op.isIdle isOpen then others else op :: others

/-! ## One more operation -/

variable (h : List Operation) (op : Operation)

theorem since_snoc (boundary : Operation → Bool) :
    since boundary (h ++ [op]) = if boundary op then [] else since boundary h ++ [op] := by
  unfold since
  rw [List.rtakeWhile_concat]
  cases boundary op <;> rfl

theorem isOpen_snoc : isOpen (h ++ [op]) = op.switch?.getD (isOpen h) := by
  unfold isOpen
  rw [List.filterMap_append]
  cases hs : op.switch? with
  | none => simp [hs]
  | some b => simp [hs]

theorem logged_snoc :
    logged (h ++ [op]) = if op.isReset then [] else logged h ++ op.logged?.toList := by
  unfold logged
  rw [since_snoc]
  by_cases hr : op.isReset
  · simp only [hr, if_true, List.filterMap_nil]
  · simp only [hr, if_false, Bool.false_eq_true, List.filterMap_append]
    cases hl : op.logged? <;> simp [hl]

theorem context_snoc :
    context (h ++ [op]) =
      if op.isEnable then .unknown else op.context?.getD (context h) := by
  unfold context
  rw [since_snoc]
  by_cases he : op.isEnable
  · simp only [he, if_true, List.filterMap_nil]
    rfl
  · simp only [he, if_false, Bool.false_eq_true, List.filterMap_append]
    cases hc : op.context? <;> simp [hc]

/-- An operation takes the gate of a history to that of the longer one. -/
theorem gate_snoc (hb : Handbook) : gate hb (h ++ [op]) = ((gate hb h).perform op).1 := by
  unfold gate collection
  rw [isOpen_snoc, logged_snoc, context_snoc]
  -- One case for each operation: a switch decides by itself whether the gate is
  -- open, and any other operation changes the collection of an open gate only.
  cases op with
  | enable => rfl
  | disable => rfl
  | log d =>
    simp only [Operation.switch?, Operation.isReset, Operation.logged?, Operation.isEnable,
      Operation.context?]
    cases isOpen h <;> simp [perform, log, modify, Collection.add]
  | setContext c =>
    simp only [Operation.switch?, Operation.isReset, Operation.logged?, Operation.isEnable,
      Operation.context?]
    cases isOpen h <;> simp [perform, setContext, modify, Collection.withContext]
  | clear =>
    simp only [Operation.switch?, Operation.isReset, Operation.isEnable, Operation.context?]
    cases isOpen h <;> simp [perform, Gate.clear, modify, Collection.clear]
  | _ =>
    simp [perform, Operation.switch?, Operation.isReset, Operation.logged?, Operation.isEnable,
      Operation.context?]

end History

/-! ## Runs -/

theorem run_append (g : Gate) (before after : List Operation) :
    g.run (before ++ after) =
      (((g.run before).1.run after).1, (g.run before).2 ++ ((g.run before).1.run after).2) := by
  induction before generalizing g with
  | nil => rfl
  | cons op rest ih =>
    show (((g.perform op).1.run (rest ++ after)).1, _ :: ((g.perform op).1.run (rest ++ after)).2) = _
    rw [ih]
    rfl

/-- There is one answer for each operation. -/
theorem length_answers (g : Gate) (h : List Operation) : (g.run h).2.length = h.length := by
  induction h generalizing g with
  | nil => rfl
  | cons op rest ih => exact congrArg (· + 1) (ih (g.perform op).1)

/-- The gate after a run is the one that its history describes. -/
theorem run_gate (hb : Handbook) (h : List Operation) :
    ((shut hb).run h).1 = History.gate hb h := by
  induction h using List.reverseRecOn with
  | nil => rfl
  | append_singleton before op ih =>
    rw [run_append, History.gate_snoc, ← ih]
    rfl

/-- Every operation is answered by the gate that the history before it
describes, whatever is done afterwards. -/
theorem answer_at (hb : Handbook) (before : List Operation) (op : Operation)
    (after : List Operation) :
    ((shut hb).run (before ++ op :: after)).2[before.length]? =
      some ((History.gate hb before).perform op).2 := by
  rw [run_append, run_gate, List.getElem?_append_right (by rw [length_answers]), length_answers,
    Nat.sub_self]
  rfl

/-! ## Idle operations -/

variable {op : Operation}

theorem isOpen_perform (g : Gate) (op : Operation) :
    (g.perform op).1.isOpen = op.switch?.getD g.isOpen := by
  cases op <;>
    simp [perform, isOpen, enable, disable, log, setContext, clear, modify, Operation.switch?]

/-- At a shut gate nothing changes a collection. -/
theorem modify_of_shut {g : Gate} (h : g.isOpen = false) (change : Collection → Collection) :
    g.modify change = g := by
  obtain ⟨hb, active⟩ := g
  cases active with
  | none => rfl
  | some c => cases h

/-- An idle operation leaves the gate as it is. -/
theorem perform_of_isIdle {g : Gate} (h : op.isIdle g.isOpen = true) : (g.perform op).1 = g := by
  cases op with
  | enable | disable => cases h
  | log | setContext | clear => exact modify_of_shut (by simpa [Operation.isIdle] using h) _
  | _ => rfl

/-- An idle operation hands nothing over. -/
theorem handedOver?_of_isIdle {g : Gate} (h : op.isIdle g.isOpen = true) :
    (g.perform op).2.handedOver? = none := by
  cases op with
  | disable => cases h
  | _ => rfl

/-- Without its idle operations a history leads to the same gate and hands over
the same collections. -/
theorem run_effective (g : Gate) (h : List Operation) :
    (g.run (History.effective g.isOpen h)).1 = (g.run h).1 ∧
      (g.run (History.effective g.isOpen h)).2.filterMap Answer.handedOver? =
        (g.run h).2.filterMap Answer.handedOver? := by
  -- The gate is general: whether it is open decides which operations are idle, and
  -- an idle one leaves the same gate for the rest of both histories.
  induction h generalizing g with
  | nil => exact ⟨rfl, rfl⟩
  | cons op rest ih =>
    have hrest := ih (g.perform op).1
    rw [isOpen_perform] at hrest
    by_cases hi : op.isIdle g.isOpen
    · have hsame := perform_of_isIdle hi
      have hnone := handedOver?_of_isIdle hi
      simp only [History.effective, hi, if_true, run, List.filterMap_cons, hnone]
      rw [hsame] at hrest ⊢
      exact hrest
    · simp only [History.effective, hi, run, List.filterMap_cons]
      refine ⟨hrest.1, ?_⟩
      simp only [Bool.false_eq_true, if_false, run, List.filterMap_cons, hrest.2]

/-- After any run that starts at a shut gate, the gate is the one that its
history describes; the idle operations have no part in that or in what was
handed over; and every operation, the handing over of a collection among them,
was answered from the history before it alone. -/
theorem run_refines_history (hb : Handbook) (h : List Operation) :
    ((shut hb).run h).1 = History.gate hb h ∧
    ((shut hb).run (History.effective false h)).1 = History.gate hb h ∧
    ((shut hb).run (History.effective false h)).2.filterMap Answer.handedOver? =
      ((shut hb).run h).2.filterMap Answer.handedOver? ∧
    (∀ before op after,
      ((shut hb).run (before ++ op :: after)).2[before.length]? =
        some ((History.gate hb before).perform op).2) ∧
    ∀ before after,
      ((shut hb).run (before ++ .disable :: after)).2[before.length]? =
        some (.handedOver
          (if History.isOpen before then some (History.collection hb before) else none)) := by
  obtain ⟨hgate, hhanded⟩ := run_effective (shut hb) h
  have hrun := run_gate hb h
  exact ⟨hrun, hgate.trans hrun, hhanded, answer_at hb,
    fun before after => answer_at hb before .disable after⟩

end DmlReport.Gate
