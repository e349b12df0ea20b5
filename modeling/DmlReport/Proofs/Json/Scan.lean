import DmlReport.Proofs.Json.Lines
import Mathlib.Data.List.Forall2

/-!
# Scanning a text

A `Scan` of a text looks at quotes, backslashes and brackets only.  It tells which
containers are open after each part of the text, and which literals the text has, as they
are spelled.  Over the lines of a value it is outside of any literal whenever a line
starts, with as many containers open as the line is deep (`Chained.lines`,
`Scan.run_lines`).  The literals it finds are the keys and strings of the value in order
(`Value.strings_lines`), and each character of them is spelled on its own
(`Writer.spelling_spelled`).
-/

namespace DmlReport.Json

/-! ## Literals -/

/-- A character stands for itself inside quotes. -/
def IsVerbatim (c : Char) : Prop :=
  0x20 ≤ c.toNat ∧ c ≠ '"' ∧ c ≠ '\\'

/-- How a character is spelled inside quotes. -/
inductive SpelledAs (c : Char) : List Char → Prop where
  | verbatim (h : IsVerbatim c) : SpelledAs c [c]
  | escaped (h : ¬IsVerbatim c) {mark : Char} {digits : List Char}
      (hdigits : ∀ d ∈ digits, d ≠ '"' ∧ d ≠ '\\') : SpelledAs c ('\\' :: mark :: digits)

/-- A literal spells a text, one character after another. -/
def Spelling (s : String) (literal : List Char) : Prop :=
  ∃ pieces, literal = pieces.flatten ∧ List.Forall₂ SpelledAs s.toList pieces

namespace Writer

/-- A text between its quotes. -/
def spelled (s : String) : List Char :=
  s.toList.flatMap escape

theorem hexDigit_ne (n : Nat) : hexDigit n ≠ '"' ∧ hexDigit n ≠ '\\' := by
  have hdigit : ∀ m < 16, Nat.digitChar m ≠ '"' ∧ Nat.digitChar m ≠ '\\' := by decide
  exact hdigit _ (Nat.mod_lt n (by decide))

theorem spelledAs_escape (c : Char) : SpelledAs c (escape c) := by
  unfold escape
  split_ifs with hquote hslash hplain
  · exact .escaped (fun h => h.2.1 hquote) (by simp)
  · exact .escaped (fun h => h.2.2 hslash) (by simp)
  · exact .verbatim ⟨hplain, hquote, hslash⟩
  all_goals
    refine .escaped (fun h => hplain h.1) ?_
    simp [hexDigit_ne]

theorem spelling_spelled (s : String) : Spelling s (spelled s) := by
  refine ⟨s.toList.map escape, List.flatMap_def, ?_⟩
  rw [List.forall₂_map_right_iff, List.forall₂_same]
  exact fun c _ => spelledAs_escape c

end Writer

/-! ## Scans -/

/-- What is known after a part of a text. -/
structure Scan where
  /-- How many containers are open. -/
  opened : Nat
  /-- The literals so far, as they are spelled. -/
  literals : List (List Char)
  /-- What there is so far of a literal that is open. -/
  inside : Option (List Char)
  /-- Whether a backslash in a literal is still to be followed by its character. -/
  escaped : Bool

namespace Scan

/-- Outside of any literal. -/
def outside (opened : Nat) (literals : List (List Char)) : Scan :=
  ⟨opened, literals, none, false⟩

def step (s : Scan) (c : Char) : Scan :=
  match s.inside with
  | some literal =>
    if s.escaped then { s with inside := some (literal ++ [c]), escaped := false }
    else if c = '"' then { s with inside := none, literals := s.literals ++ [literal] }
    else { s with inside := some (literal ++ [c]), escaped := c == '\\' }
  | none =>
    if c = '"' then { s with inside := some [] }
    else if opens c then { s with opened := s.opened + 1 }
    else if closes c then { s with opened := s.opened - 1 }
    else s

def run (s : Scan) (text : List Char) : Scan :=
  text.foldl step s

/-- The scan of a text. -/
def of (text : List Char) : Scan :=
  (outside 0 []).run text

/-- The depth of a line that starts after what was scanned. -/
def depth (s : Scan) (line : List Char) : Nat :=
  match line.dropWhile (· == ' ') with
  | [] => s.opened
  | c :: _ => if closes c then s.opened - 1 else s.opened

theorem run_append (s : Scan) (text rest : List Char) :
    s.run (text ++ rest) = (s.run text).run rest :=
  List.foldl_append

theorem run_cons (s : Scan) (c : Char) (rest : List Char) :
    s.run (c :: rest) = (s.step c).run rest := rfl

variable {n : Nat} {literals : List (List Char)}

theorem run_plain {text : List Char} (h : ∀ c ∈ text, c ∉ ['"', '[', '\x7b', ']', '\x7d']) :
    (outside n literals).run text = outside n literals := by
  induction text with
  | nil => rfl
  | cons c text ih =>
    obtain ⟨hc, htext⟩ := List.forall_mem_cons.1 h
    simp only [List.mem_cons, List.not_mem_nil, or_false, not_or] at hc
    have hstep : (outside n literals).step c = outside n literals := by
      simp [step, outside, opens, closes, hc]
    rw [run_cons, hstep, ih htext]

theorem run_inside {literal text : List Char} (h : ∀ c ∈ text, c ≠ '"' ∧ c ≠ '\\') :
    (⟨n, literals, some literal, false⟩ : Scan).run text =
      ⟨n, literals, some (literal ++ text), false⟩ := by
  induction text generalizing literal with
  | nil => rw [List.append_nil]; rfl
  | cons c text ih =>
    obtain ⟨⟨hquote, hslash⟩, htext⟩ := List.forall_mem_cons.1 h
    have hstep : (⟨n, literals, some literal, false⟩ : Scan).step c =
        ⟨n, literals, some (literal ++ [c]), false⟩ := by
      simp [step, hquote, hslash]
    rw [run_cons, hstep, ih htext, List.append_assoc]
    rfl

theorem run_spelledAs {c : Char} {piece literal : List Char} (h : SpelledAs c piece) :
    (⟨n, literals, some literal, false⟩ : Scan).run piece =
      ⟨n, literals, some (literal ++ piece), false⟩ := by
  cases h with
  | verbatim h => exact run_inside (List.forall_mem_singleton.2 h.2)
  | @escaped _ mark digits hdigits =>
    have hmark : (⟨n, literals, some literal, false⟩ : Scan).run ('\\' :: mark :: digits) =
        (⟨n, literals, some (literal ++ ['\\', mark]), false⟩ : Scan).run digits := by
      rw [run_cons, run_cons]
      simp [step]
    rw [hmark, run_inside hdigits, List.append_assoc]
    rfl

theorem run_spelled (cs literal : List Char) :
    (⟨n, literals, some literal, false⟩ : Scan).run (cs.flatMap Writer.escape) =
      ⟨n, literals, some (literal ++ cs.flatMap Writer.escape), false⟩ := by
  induction cs generalizing literal with
  | nil => rw [List.flatMap_nil, List.append_nil]; rfl
  | cons c cs ih =>
    rw [List.flatMap_cons, run_append, run_spelledAs (Writer.spelledAs_escape c), ih,
      List.append_assoc]

/-- A text in quotes is one literal. -/
theorem run_quote (s : String) :
    (outside n literals).run (Writer.quote s) = outside n (literals ++ [Writer.spelled s]) := by
  rw [Writer.quote, run_cons, run_append]
  show Scan.run (Scan.run ⟨n, literals, some [], false⟩ (s.toList.flatMap Writer.escape)) ['"'] = _
  rw [run_spelled]
  rfl

end Scan

/-! ## Lines -/

/-- The texts in a line, in their order. -/
def Body.strings : Body → List String
  | .string s => [s]
  | _ => []

def Line.strings (l : Line) : List String :=
  l.key.toList ++ l.body.strings

/-- How many containers are open after a line. -/
def Body.opened (n : Nat) : Body → Nat
  | .opening _ => n + 1
  | .closing _ => n - 1
  | _ => n

namespace Scan

variable {n : Nat} {literals : List (List Char)}

theorem run_body (body : Body) :
    (outside n literals).run body.chars =
      outside (body.opened n) (literals ++ body.strings.map Writer.spelled) := by
  have hnone : literals ++ [] = literals := List.append_nil literals
  cases body with
  | null => exact congrArg (outside n) hnone.symm
  | bool b => cases b <;> exact congrArg (outside n) hnone.symm
  | number x =>
    have hplain : (outside n literals).run x.chars = outside n literals :=
      run_plain fun c hc => List.not_mem_of_not_mem_cons (Number.plain_chars hc)
    exact hplain.trans (congrArg (outside n) hnone.symm)
  | string s => exact run_quote s
  | empty b => cases b <;> exact congrArg (outside n) hnone.symm
  | opening b => cases b <;> exact congrArg (outside (n + 1)) hnone.symm
  | closing b => cases b <;> exact congrArg (outside (n - 1)) hnone.symm

theorem run_text (l : Line) :
    (outside n literals).run l.text =
      outside (l.body.opened n) (literals ++ l.strings.map Writer.spelled) := by
  have hkey : (outside n literals).run (Line.keyChars l.key) =
      outside n (literals ++ l.key.toList.map Writer.spelled) := by
    cases l.key with
    | none => rw [Option.toList_none, List.map_nil, List.append_nil]; rfl
    | some key => rw [Line.keyChars, run_append, run_quote]; rfl
  have hcomma (n : Nat) (literals : List (List Char)) :
      (outside n literals).run (Line.commaChars l.comma) = outside n literals := by
    cases l.comma <;> rfl
  rw [Line.text, run_append, run_append, hkey, run_body, hcomma, Line.strings, List.map_append,
    List.append_assoc]

theorem run_indented (width : Nat) (l : Line) :
    (outside n literals).run (l.indented width) = (outside n literals).run l.text := by
  have hspaces : (outside n literals).run (List.replicate (width * l.depth) ' ') =
      outside n literals := by
    refine run_plain fun c hc => ?_
    rw [List.eq_of_mem_replicate hc]
    decide
  rw [Line.indented, run_append, hspaces]

end Scan

/-! ## Lines one after another -/

/-- Lines follow one another, from so many open containers to so many: each line is as deep
as there are open containers, without the one that it closes first. -/
inductive Chained : Nat → List Line → Nat → Prop where
  | nil (n : Nat) : Chained n [] n
  | cons {n m : Nat} {l : Line} {ls : List Line} (hl : n = l.depth + l.isClosing.toNat)
      (h : Chained (l.body.opened n) ls m) : Chained n (l :: ls) m

namespace Chained

theorem append {n k m : Nat} {ls rest : List Line} (h : Chained n ls k) (hrest : Chained k rest m) :
    Chained n (ls ++ rest) m := by
  induction h with
  | nil => exact hrest
  | cons hl h ih => exact .cons hl (ih hrest)

theorem single {depth : Nat} {key : Option String} {body : Body} {comma : Bool}
    (hclosing : body.isClosing = false) (hopened : body.opened depth = depth) :
    Chained depth (Lines.single body depth key comma) depth := by
  refine .cons ?_ (hopened.symm ▸ .nil depth)
  simp [Line.isClosing, hclosing]

variable {parts : List (Option String × Lines)}

theorem ofParts (h : ∀ p ∈ parts, ∀ depth key comma, Chained depth (p.2 depth key comma) depth)
    (depth : Nat) : Chained depth (Lines.ofParts depth parts) depth := by
  induction parts with
  | nil => exact .nil depth
  | cons p parts ih =>
    obtain ⟨hp, hparts⟩ := List.forall_mem_cons.1 h
    exact (hp depth _ _).append (ih hparts)

theorem enclosed (b : Bracket)
    (h : ∀ p ∈ parts, ∀ depth key comma, Chained depth (p.2 depth key comma) depth)
    (depth : Nat) (key : Option String) (comma : Bool) :
    Chained depth (Lines.enclosed b parts depth key comma) depth := by
  unfold Lines.enclosed
  split
  · exact single rfl rfl
  · have hclosing : Chained (depth + 1) [⟨depth, none, .closing b, comma⟩] depth :=
      .cons rfl (.nil depth)
    -- The opening bracket leaves one more container open for the parts.
    refine .cons ?_ ((ofParts h (depth + 1)).append hclosing)
    simp [Line.isClosing, Body.isClosing]

theorem lines (v : Value) (depth : Nat) (key : Option String) (comma : Bool) :
    Chained depth (v.lines depth key comma) depth := by
  induction v using Value.parts generalizing depth key comma with
  | null => exact single rfl rfl
  | bool b => exact single rfl rfl
  | number n => exact single rfl rfl
  | string s => exact single rfl rfl
  | array items ih =>
    rw [Value.lines_array]
    exact enclosed .square (List.forall_mem_map.2 ih) depth key comma
  | object members ih =>
    rw [Value.lines_object]
    exact enclosed .curly (List.forall_mem_map.2 ih) depth key comma

theorem split {n m : Nat} {before after : List Line} {l : Line}
    (h : Chained n (before ++ l :: after) m) :
    ∃ k, Chained n before k ∧ k = l.depth + l.isClosing.toNat := by
  induction before generalizing n with
  | nil =>
    cases h with
    | cons hl h => exact ⟨n, .nil n, hl⟩
  | cons first before ih =>
    cases h with
    | cons hfirst h =>
      obtain ⟨k, hbefore, hl⟩ := ih h
      exact ⟨k, .cons hfirst hbefore, hl⟩

end Chained

/-- The scan of lines, whatever stands between them. -/
theorem Scan.run_lines {n m : Nat} {ls : List Line} (h : Chained n ls m)
    {written : Line → List Char}
    (hwritten : ∀ l n literals,
      (outside n literals).run (written l) = (outside n literals).run l.text)
    (literals : List (List Char)) :
    (outside n literals).run (ls.flatMap written) =
      outside m (literals ++ (ls.flatMap Line.strings).map Writer.spelled) := by
  induction h generalizing literals with
  | nil => rw [List.flatMap_nil, List.flatMap_nil, List.map_nil, List.append_nil]; rfl
  | cons hl h ih =>
    rw [List.flatMap_cons, List.flatMap_cons, run_append, hwritten, run_text, ih,
      List.map_append, List.append_assoc]

/-! ## Texts of a value -/

/-- The keys and strings of a value, in their order. -/
def Value.strings : Value → List String :=
  fold {
    null := []
    bool _ := []
    number _ := []
    string s := [s]
    array parts := parts.flatten
    object members := members.flatMap fun m => m.1 :: m.2 }

theorem Value.strings_array (items : List Value) :
    (array items).strings = items.flatMap strings := by
  have heq : (array items).strings = (items.map strings).flatten := fold_array _ items
  rw [heq, List.flatMap_def]

theorem Value.strings_object (members : Members) :
    (object members).strings = members.flatMap fun m => m.1 :: m.2.strings := by
  have heq : (object members).strings =
      (members.map fun m => (m.1, m.2.strings)).flatMap fun m => m.1 :: m.2 := fold_object _ members
  rw [heq, List.flatMap_map]

section

variable {α : Type} {xs : List α} {part : α → Option String × Lines} {texts : α → List String}

theorem Lines.strings_ofParts (h : ∀ a ∈ xs, ∀ depth comma,
      ((part a).2 depth (part a).1 comma).flatMap Line.strings = texts a) (depth : Nat) :
    (ofParts depth (xs.map part)).flatMap Line.strings = xs.flatMap texts := by
  induction xs with
  | nil => rfl
  | cons a xs ih =>
    obtain ⟨ha, hxs⟩ := List.forall_mem_cons.1 h
    rw [List.map_cons, ofParts, List.flatMap_append, ha, ih hxs, List.flatMap_cons]

theorem Lines.strings_enclosed (b : Bracket) (h : ∀ a ∈ xs, ∀ depth comma,
      ((part a).2 depth (part a).1 comma).flatMap Line.strings = texts a)
    (depth : Nat) (key : Option String) (comma : Bool) :
    (enclosed b (xs.map part) depth key comma).flatMap Line.strings =
      key.toList ++ xs.flatMap texts := by
  unfold enclosed
  split
  · rename_i hempty
    rw [List.isEmpty_iff, List.map_eq_nil_iff] at hempty
    subst hempty
    simp [Line.strings, Body.strings]
  · rw [List.flatMap_cons, List.flatMap_append, strings_ofParts h]
    simp [Line.strings, Body.strings]

end

/-- The lines of a value have its texts, after its key. -/
theorem Value.strings_lines (v : Value) (depth : Nat) (key : Option String) (comma : Bool) :
    (v.lines depth key comma).flatMap Line.strings = key.toList ++ v.strings := by
  induction v using Value.parts generalizing depth key comma with
  | null => simp [Lines.single, Line.strings, Body.strings, strings, fold]
  | bool b => simp [Lines.single, Line.strings, Body.strings, strings, fold]
  | number n => simp [Lines.single, Line.strings, Body.strings, strings, fold]
  | string s => simp [Lines.single, Line.strings, Body.strings, strings, fold]
  | array items ih =>
    rw [lines_array, strings_array]
    exact Lines.strings_enclosed .square (fun v hv depth comma => ih v hv depth none comma)
      depth key comma
  | object members ih =>
    rw [lines_object, strings_object]
    exact Lines.strings_enclosed .curly (fun m hm depth comma => ih m hm depth (some m.1) comma)
      depth key comma

/-! ## Written values -/

namespace Writer

variable (width : Nat) (v : Value)

/-- The scan of a text ends outside of any literal and of all containers. -/
theorem scan_write :
    Scan.of (write (.indented width) 0 v) = .outside 0 (v.strings.map spelled) := by
  have hbroken : Scan.of (broken width (v.lines 0 none false)) =
      .outside 0 ([] ++ ((v.lines 0 none false).flatMap Line.strings).map spelled) := by
    -- A line feed outside of a literal changes nothing.
    refine Scan.run_lines (Chained.lines v 0 none false) (fun l n literals => ?_) []
    exact Scan.run_indented width l
  rwa [Value.strings_lines, broken_eq_intercalate (lines_ne_nil v 0 none false),
    ← write_indented] at hbroken

end Writer

end DmlReport.Json
