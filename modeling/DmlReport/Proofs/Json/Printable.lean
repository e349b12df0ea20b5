import DmlReport.Proofs.Json.Numeral
import Mathlib.Tactic.SplitIfs

/-!
# Compact text is one line

Every control character of a text is written as an escape, and compact text has no space
between its parts, so the compact text of a value has no control character in it
(`Writer.printable_write`): it is one line, and a carriage return at its end is not its
own.
-/

namespace DmlReport.Json.Writer

/-- No character of a text is a control character below U+0020. -/
def Printable (text : List Char) : Prop :=
  ∀ c ∈ text, 0x20 ≤ c.toNat

instance : DecidablePred Printable := fun text =>
  List.decidableBAll (fun c : Char => 0x20 ≤ c.toNat) text

theorem printable_append {text rest : List Char} :
    Printable (text ++ rest) ↔ Printable text ∧ Printable rest :=
  List.forall_mem_append

theorem printable_cons {c : Char} {rest : List Char} :
    Printable (c :: rest) ↔ 0x20 ≤ c.toNat ∧ Printable rest :=
  List.forall_mem_cons

theorem printable_hexDigit (n : Nat) : 0x20 ≤ (hexDigit n).toNat := by
  have hdigit : ∀ m < 16, 0x20 ≤ (Nat.digitChar m).toNat := by decide
  exact hdigit _ (Nat.mod_lt n (by decide))

theorem printable_escape (c : Char) : Printable (escape c) := by
  unfold escape
  split_ifs with hquote hslash hplain
  · decide
  · decide
  · exact printable_cons.2 ⟨hplain, by decide⟩
  all_goals first
    | decide
    | simp only [printable_cons]
      exact ⟨by decide, by decide, by decide, by decide, printable_hexDigit _,
        printable_hexDigit _, by decide⟩

theorem printable_quote (s : String) : Printable (quote s) := by
  have hescaped : Printable (s.toList.flatMap escape) := by
    intro c hc
    obtain ⟨c', -, hc'⟩ := List.mem_flatMap.1 hc
    exact printable_escape c' c hc'
  rw [quote, printable_cons, printable_append]
  exact ⟨by decide, hescaped, by decide⟩

theorem printable_number (n : Number) : Printable n.chars := by
  intro c hc
  rcases Number.mem_chars hc with hdigit | hmark
  · exact Nat.le_trans (by decide) (Char.isDigit_iff_toNat.1 hdigit).1
  · have hmarks : Printable ['-', '+', '.', 'e'] := by decide
    exact hmarks c hmark

theorem printable_lineBreak (depth : Nat) : Printable (Style.compact.lineBreak depth) :=
  List.forall_mem_nil _

theorem printable_writeItems {items : List Value}
    (h : ∀ v ∈ items, ∀ depth, Printable (write .compact depth v)) (depth : Nat) :
    Printable (writeItems .compact depth items) := by
  induction items with
  | nil =>
    rw [writeItems]
    decide
  | cons item items ih =>
    obtain ⟨hitem, hitems⟩ := List.forall_mem_cons.1 h
    rw [writeItems, printable_cons, printable_append, printable_append]
    exact ⟨by decide, ⟨printable_lineBreak _, hitem depth⟩, ih hitems⟩

theorem printable_writeMembers {members : Members}
    (h : ∀ m ∈ members, ∀ depth, Printable (write .compact depth m.2)) (depth : Nat) :
    Printable (writeMembers .compact depth members) := by
  induction members with
  | nil =>
    rw [writeMembers]
    decide
  | cons m members ih =>
    obtain ⟨hvalue, hmembers⟩ := List.forall_mem_cons.1 h
    rw [writeMembers]
    simp only [printable_cons, printable_append]
    exact ⟨by decide, ⟨⟨⟨printable_lineBreak _, printable_quote m.1⟩, by decide⟩,
      hvalue depth⟩, ih hmembers⟩

/-- The compact text of a value has no control character in it. -/
theorem printable_write (v : Value) (depth : Nat) : Printable (write .compact depth v) := by
  induction v using Value.parts generalizing depth with
  | null =>
    rw [write]
    decide
  | bool b => cases b <;> rw [write] <;> decide
  | number n =>
    rw [write]
    exact printable_number n
  | string s =>
    rw [write]
    exact printable_quote s
  | array items ih =>
    cases items with
    | nil =>
      rw [write]
      decide
    | cons item items =>
      obtain ⟨hitem, hitems⟩ := List.forall_mem_cons.1 ih
      rw [write]
      simp only [printable_cons, printable_append]
      exact ⟨by decide, ⟨⟨⟨printable_lineBreak _, hitem _⟩, printable_writeItems hitems _⟩,
        printable_lineBreak _⟩, by decide⟩
  | object members ih =>
    cases members with
    | nil =>
      rw [write]
      decide
    | cons m members =>
      obtain ⟨hvalue, hmembers⟩ := List.forall_mem_cons.1 ih
      rw [write]
      simp only [printable_cons, printable_append]
      exact ⟨by decide, ⟨⟨⟨⟨⟨printable_lineBreak _, printable_quote m.1⟩, by decide⟩, hvalue _⟩,
        printable_writeMembers hmembers _⟩, printable_lineBreak _⟩, by decide⟩

end DmlReport.Json.Writer
