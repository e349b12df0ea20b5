import DmlReport.Command.Replay
import DmlReport.Proofs.Json.Schema
import DmlReport.Proofs.Text.Encoded

/-!
# What a replay reads

A replay goes through a file line by line and stops at the first flaw.  Here the
same is said of the file as a whole: `Stream.diagnostics` are the diagnostics on
the lines before the first flaw, and `Stream.flaw?` is that flaw, numbered as the
line is in the file.  `replayContents_eq` proves that the loop computes both, and
that nothing else of the file has a part in how far the replay comes.
-/

namespace DmlReport.Command

/-- What a line says. -/
inductive LineContent where
  /-- Nothing is left of it when it is trimmed. -/
  | blank
  | diagnostic (d : Diagnostic)
  /-- Its text is no diagnostic. -/
  | garbled (fault : Json.Fault)
  /-- It is not valid UTF-8. -/
  | noText

namespace LineContent

/-- What the bytes of a line say. -/
def ofBytes (bytes : List UInt8) : LineContent :=
  match Text.decode? bytes with
  | none => .noText
  | some s =>
    if Text.trim s = "" then .blank
    else
      match Json.decodeText Diagnostic.decode s with
      | .ok d => .diagnostic d
      | .error fault => .garbled fault

/-- The diagnostic on a line. -/
def diagnostic? : LineContent → Option Diagnostic
  | .diagnostic d => some d
  | _ => none

/-- How a line with the given number breaks the stream. -/
def flaw? (path : Path) (number : Nat) : LineContent → Option StreamError
  | .garbled fault => some (.malformed path number fault)
  | .noText => some (.unreadable path .notText)
  | _ => none

/-- Whether a line breaks the stream. -/
def breaks : LineContent → Bool
  | .garbled _ => true
  | .noText => true
  | _ => false

theorem flaw?_eq_none_iff (path : Path) (number : Nat) (c : LineContent) :
    c.flaw? path number = none ↔ c.breaks = false := by
  cases c <;> simp [flaw?, breaks]

theorem flaw?_eq_malformed_iff (path : Path) (number k : Nat) (fault : Json.Fault)
    (c : LineContent) :
    c.flaw? path number = some (.malformed path k fault) ↔ c = .garbled fault ∧ k = number := by
  cases c <;> simp [flaw?, and_comm, eq_comm]

/-- A line with the compact text of a container is not blank. -/
theorem ofBytes_compact {v : Json.Value} (hv : v.isContainer = true) :
    ofBytes (Text.encode v.compact.toList) =
      match Json.decodeText Diagnostic.decode v.compact with
      | .ok d => .diagnostic d
      | .error fault => .garbled fault := by
  have hvisible : Text.trim v.compact ≠ "" := by
    rw [Ne, ← Text.allBlank_iff_trim_eq_empty]
    intro hall
    obtain ⟨c, hmem, hc⟩ := Json.Value.exists_bracket hv
    have hblank := List.all_eq_true.1 hall c hmem
    rcases hc with rfl | rfl <;> exact absurd hblank (by decide)
  rw [ofBytes, Text.decode?_encode, String.ofList_toList]
  exact if_neg hvisible

end LineContent

namespace Stream

/-- One line is read as its content says. -/
theorem ofLine_eq (path : Path) (number : Nat) (bytes : List UInt8) :
    ofLine path number bytes =
      match (LineContent.ofBytes bytes).flaw? path number with
      | some e => .error e
      | none => .ok (LineContent.ofBytes bytes).diagnostic? := by
  unfold ofLine LineContent.ofBytes
  cases Text.decode? bytes with
  | none => rfl
  | some s =>
    by_cases hb : Text.trim s = ""
    · simp only [hb, (Text.allBlank_iff_trim_eq_empty s).2 hb, if_true]
      rfl
    · simp only [hb, mt (Text.allBlank_iff_trim_eq_empty s).1 hb, if_false]
      cases Json.decodeText Diagnostic.decode s <;> rfl

/-! ## Lines up to the first flaw -/

/-- The diagnostics on the lines before the first that breaks the stream. -/
def readable (lines : List (List UInt8)) : List Diagnostic :=
  (lines.takeWhile fun l => !(LineContent.ofBytes l).breaks).filterMap fun l =>
    (LineContent.ofBytes l).diagnostic?

/-- The flaw of the first line that breaks the stream; the lines are numbered on
from the given number. -/
def firstFlaw (path : Path) (number : Nat) (lines : List (List UInt8)) : Option StreamError :=
  (lines.zipIdx number).findSome? fun (l, n) => (LineContent.ofBytes l).flaw? path n

variable {path : Path} {bytes : List UInt8} {rest : List (List UInt8)}

theorem readable_cons (h : (LineContent.ofBytes bytes).breaks = false) :
    readable (bytes :: rest) = (LineContent.ofBytes bytes).diagnostic?.toList ++ readable rest := by
  unfold readable
  rw [List.takeWhile_cons_of_pos (by rw [h]; rfl), List.filterMap_cons]
  cases (LineContent.ofBytes bytes).diagnostic? <;> rfl

theorem readable_cons_of_breaks (h : (LineContent.ofBytes bytes).breaks = true) :
    readable (bytes :: rest) = [] := by
  unfold readable
  rw [List.takeWhile_cons_of_neg (by rw [h]; simp)]
  rfl

theorem firstFlaw_cons (number : Nat) :
    firstFlaw path number (bytes :: rest) =
      ((LineContent.ofBytes bytes).flaw? path number).or (firstFlaw path (number + 1) rest) := by
  unfold firstFlaw
  rw [List.zipIdx_cons, List.findSome?_cons]
  cases hf : (LineContent.ofBytes bytes).flaw? path number <;> simp only [hf] <;> rfl

/-- The first flaw is that of a line before which no other breaks the stream,
and its number counts all lines before it. -/
theorem firstFlaw_eq_some_iff (number : Nat) (lines : List (List UInt8)) (e : StreamError) :
    firstFlaw path number lines = some e ↔
      ∃ before line after, lines = before ++ line :: after ∧
        (∀ l ∈ before, (LineContent.ofBytes l).breaks = false) ∧
        (LineContent.ofBytes line).flaw? path (number + before.length) = some e := by
  -- A line that is passed moves the number on by one, and so does one more line
  -- in `before`.
  induction lines generalizing number with
  | nil => simp [firstFlaw]
  | cons bytes rest ih =>
    rw [firstFlaw_cons]
    cases hf : (LineContent.ofBytes bytes).flaw? path number with
    | none =>
      have hbytes := (LineContent.flaw?_eq_none_iff path number _).1 hf
      rw [Option.none_or, ih]
      constructor
      · rintro ⟨before, line, after, rfl, hbefore, hline⟩
        refine ⟨bytes :: before, line, after, rfl, List.forall_mem_cons.2 ⟨hbytes, hbefore⟩, ?_⟩
        rw [List.length_cons, ← Nat.add_assoc, Nat.add_right_comm]
        exact hline
      · rintro ⟨_ | ⟨first, before⟩, line, after, heq, hbefore, hline⟩
        · cases heq
          rw [List.length_nil, Nat.add_zero, hf] at hline
          cases hline
        · cases heq
          refine ⟨before, line, after, rfl, fun l hl => hbefore l (List.mem_cons_of_mem _ hl), ?_⟩
          rw [List.length_cons, ← Nat.add_assoc, Nat.add_right_comm] at hline
          exact hline
    | some e' =>
      rw [Option.some_or]
      constructor
      · rintro heq
        exact ⟨[], bytes, rest, rfl, by simp, hf.trans heq⟩
      · rintro ⟨_ | ⟨first, before⟩, line, after, heq, hbefore, hline⟩
        · cases heq
          rwa [List.length_nil, Nat.add_zero, hf] at hline
        · cases heq
          have hfirst := (LineContent.flaw?_eq_none_iff path number _).2
            (hbefore bytes List.mem_cons_self)
          rw [hf] at hfirst
          cases hfirst

theorem firstFlaw_eq_none_iff (number : Nat) (lines : List (List UInt8)) :
    firstFlaw path number lines = none ↔ ∀ l ∈ lines, (LineContent.ofBytes l).breaks = false := by
  induction lines generalizing number with
  | nil => simp [firstFlaw]
  | cons bytes rest ih =>
    rw [firstFlaw_cons, Option.or_eq_none_iff, LineContent.flaw?_eq_none_iff, ih,
      List.forall_mem_cons]

/-- Every diagnostic that is read is decoded from some text. -/
theorem mem_readable {d : Diagnostic} {lines : List (List UInt8)} (h : d ∈ readable lines) :
    ∃ s, Json.decodeText Diagnostic.decode s = .ok d := by
  obtain ⟨line, -, hline⟩ := List.mem_filterMap.1 h
  unfold LineContent.ofBytes at hline
  split at hline
  · cases hline
  · split at hline
    · cases hline
    · split at hline
      · rename_i hdecode
        cases hline
        exact ⟨_, hdecode⟩
      · cases hline

/-! ## Files -/

/-- The diagnostics that can be read from a file's contents. -/
def diagnostics : Except Failure (List UInt8) → List Diagnostic
  | .error _ => []
  | .ok bytes => readable (Text.linesOfPieces (bytes.splitOn 10))

/-- The flaw that ends the reading of a file's contents, if one does. -/
def flaw? (path : Path) : Except Failure (List UInt8) → Option StreamError
  | .error e => some (.unreadable path e)
  | .ok bytes => firstFlaw path 1 (Text.linesOfPieces (bytes.splitOn 10))

/-- The flaw is a malformed line if and only if that line is garbled and no line
before it breaks the stream; the number counts all lines up to it. -/
theorem flaw?_eq_malformed_iff (path : Path) (contents : Except Failure (List UInt8)) (k : Nat)
    (fault : Json.Fault) :
    flaw? path contents = some (.malformed path k fault) ↔
      ∃ bytes before line after, contents = .ok bytes ∧
        Text.linesOfPieces (bytes.splitOn 10) = before ++ line :: after ∧
        (∀ l ∈ before, (LineContent.ofBytes l).breaks = false) ∧
        LineContent.ofBytes line = .garbled fault ∧ k = before.length + 1 := by
  cases contents with
  | error e => simp [flaw?]
  | ok bytes =>
    show firstFlaw path 1 (Text.linesOfPieces (bytes.splitOn 10)) = _ ↔ _
    rw [firstFlaw_eq_some_iff]
    constructor
    · rintro ⟨before, line, after, heq, hbefore, hline⟩
      rw [LineContent.flaw?_eq_malformed_iff, Nat.add_comm] at hline
      exact ⟨bytes, before, line, after, rfl, heq, hbefore, hline⟩
    · rintro ⟨_, before, line, after, hbytes, heq, hbefore, hline⟩
      cases hbytes
      refine ⟨before, line, after, heq, hbefore, ?_⟩
      rw [LineContent.flaw?_eq_malformed_iff, Nat.add_comm]
      exact hline

end Stream

/-! ## The loop -/

/-- The loop takes the readable diagnostics one after another, and stops at the
first flaw. -/
theorem replayLines_eq (quiet : Bool) (path : Path) (number : Nat) (p : Progress)
    (lines : List (List UInt8)) :
    replayLines quiet path number p lines =
      ((Stream.readable lines).foldl (Progress.next quiet) p,
        Stream.firstFlaw path number lines) := by
  induction lines generalizing number p with
  | nil => rfl
  | cons bytes rest ih =>
    rw [replayLines, Stream.ofLine_eq, Stream.firstFlaw_cons]
    cases hc : LineContent.ofBytes bytes with
    | blank =>
      rw [Stream.readable_cons (by rw [hc]; rfl), hc]
      exact ih (number + 1) p
    | diagnostic d =>
      rw [Stream.readable_cons (by rw [hc]; rfl), hc]
      exact ih (number + 1) (p.next quiet d)
    | garbled fault =>
      rw [Stream.readable_cons_of_breaks (by rw [hc]; rfl)]
      rfl
    | noText =>
      rw [Stream.readable_cons_of_breaks (by rw [hc]; rfl)]
      rfl

/-- A replay of a file's contents takes the readable diagnostics. -/
theorem replayContents_eq (quiet : Bool) (path : Path) (gate : Gate)
    (contents : Except Failure (List UInt8)) :
    replayContents quiet path gate contents =
      ((Stream.diagnostics contents).foldl (Progress.next quiet) (.start gate),
        Stream.flaw? path contents) := by
  cases contents with
  | error e => rfl
  | ok bytes =>
    rw [replayContents, Text.physicalLines_eq]
    exact replayLines_eq quiet path 1 (.start gate) _

/-! ## How far a replay comes -/

variable (quiet : Bool) (p : Progress) (ds : List Diagnostic)

theorem gate_foldl_next :
    (ds.foldl (Progress.next quiet) p).gate = ds.foldl Gate.log p.gate := by
  induction ds generalizing p with
  | nil => rfl
  | cons d rest ih => exact ih (p.next quiet d)

theorem errors_foldl_next :
    (ds.foldl (Progress.next quiet) p).errors =
      p.errors + ds.countP (·.kind.countsAsError) := by
  induction ds generalizing p with
  | nil => rfl
  | cons d rest ih =>
    rw [List.foldl_cons, ih, List.countP_cons]
    unfold Progress.next
    by_cases hd : d.kind.countsAsError
    · simp only [hd, if_true]
      omega
    · simp only [hd, Bool.false_eq_true, if_false]
      omega

/-- Diagnostics that pass a gate are collected in order, and change nothing
else. -/
theorem foldl_log (g : Gate) :
    ds.foldl Gate.log g = g.modify fun c =>
      { c with findings := c.findings ++ ds.map (Finding.ofDiagnostic c.handbook) } := by
  induction ds generalizing g with
  | nil =>
    obtain ⟨hb, active⟩ := g
    cases active <;> simp [Gate.modify]
  | cons d rest ih =>
    obtain ⟨hb, active⟩ := g
    rw [List.foldl_cons, ih]
    cases active <;> simp [Gate.modify, Gate.log, Collection.add]

end DmlReport.Command
