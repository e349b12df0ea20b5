import DmlReport.Proofs.Json.Printable

/-!
# The lines of an indented text

An indented text has one line for each scalar, for each empty container, and for each
bracket of any other.  `Value.lines` lists them with their depths, and the text is these
lines, each after as many spaces as its depth asks for (`write_indented`).  The width of a
level decides about those spaces and about nothing else.
-/

namespace DmlReport.Json

/-- The brackets around the parts of a container. -/
inductive Bracket where
  | square
  | curly

def Bracket.opens : Bracket → Char
  | .square => '['
  | .curly => '\x7b'

def Bracket.closes : Bracket → Char
  | .square => ']'
  | .curly => '\x7d'

/-- What a line holds, apart from a key and a comma. -/
inductive Body where
  | null
  | bool (b : Bool)
  | number (n : Number)
  | string (s : String)
  | empty (b : Bracket)
  | opening (b : Bracket)
  | closing (b : Bracket)

def Body.chars : Body → List Char
  | .null => "null".toList
  | .bool true => "true".toList
  | .bool false => "false".toList
  | .number n => n.chars
  | .string s => Writer.quote s
  | .empty b => [b.opens, b.closes]
  | .opening b => [b.opens]
  | .closing b => [b.closes]

/-- A line of an indented text. -/
structure Line where
  depth : Nat
  key : Option String
  body : Body
  comma : Bool

namespace Line

def keyChars : Option String → List Char
  | none => []
  | some key => Writer.quote key ++ [':', ' ']

def commaChars (comma : Bool) : List Char :=
  if comma then [','] else []

/-- A line without the spaces before it. -/
def text (l : Line) : List Char :=
  keyChars l.key ++ (l.body.chars ++ commaChars l.comma)

/-- A line after its spaces. -/
def indented (width : Nat) (l : Line) : List Char :=
  List.replicate (width * l.depth) ' ' ++ l.text

end Line

/-- The lines of a value at a depth, after a key if there is one, and before a comma if
something follows. -/
abbrev Lines := Nat → Option String → Bool → List Line

namespace Lines

/-- The lines of a value that needs one. -/
def single (body : Body) : Lines := fun depth key comma => [⟨depth, key, body, comma⟩]

/-- The lines of parts, each after its key. -/
def ofParts (depth : Nat) : List (Option String × Lines) → List Line
  | [] => []
  | (key, lines) :: parts => lines depth key (!parts.isEmpty) ++ ofParts depth parts

/-- The lines of a container with these parts. -/
def enclosed (b : Bracket) (parts : List (Option String × Lines)) : Lines :=
  fun depth key comma =>
    if parts.isEmpty then [⟨depth, key, .empty b, comma⟩]
    else
      ⟨depth, key, .opening b, false⟩ ::
        (ofParts (depth + 1) parts ++ [⟨depth, none, .closing b, comma⟩])

end Lines

/-- The lines of a value. -/
def Value.lines : Value → Lines :=
  fold {
    null := .single .null
    bool b := .single (.bool b)
    number n := .single (.number n)
    string s := .single (.string s)
    array parts := .enclosed .square (parts.map (none, ·))
    object parts := .enclosed .curly (parts.map fun p => (some p.1, p.2)) }

namespace Value

@[simp] theorem lines_null : null.lines = .single .null := rfl

@[simp] theorem lines_bool (b : Bool) : (bool b).lines = .single (.bool b) := rfl

@[simp] theorem lines_number (n : Number) : (number n).lines = .single (.number n) := rfl

@[simp] theorem lines_string (s : String) : (string s).lines = .single (.string s) := rfl

theorem lines_array (items : List Value) :
    (array items).lines = .enclosed .square (items.map fun v => (none, v.lines)) := by
  have heq : (array items).lines = .enclosed .square ((items.map lines).map (none, ·)) :=
    fold_array _ items
  rw [heq, List.map_map]
  rfl

theorem lines_object (members : Members) :
    (object members).lines = .enclosed .curly (members.map fun m => (some m.1, m.2.lines)) := by
  have heq : (object members).lines =
      .enclosed .curly ((members.map fun m => (m.1, m.2.lines)).map fun p => (some p.1, p.2)) :=
    fold_object _ members
  rw [heq, List.map_map]
  rfl

end Value

/-! ## Written values -/

namespace Writer

/-- Lines that each start anew. -/
def broken (width : Nat) (ls : List Line) : List Char :=
  ls.flatMap fun l => '\n' :: l.indented width

theorem broken_append (width : Nat) (ls rest : List Line) :
    broken width (ls ++ rest) = broken width ls ++ broken width rest :=
  List.flatMap_append

theorem broken_cons (width : Nat) (l : Line) (rest : List Line) :
    broken width (l :: rest) =
      (Style.indented width).lineBreak l.depth ++ (l.text ++ broken width rest) := by
  rw [broken, List.flatMap_cons]
  simp only [Line.indented, Style.indented, List.cons_append, List.append_assoc]
  rfl

/-- A value is written in its lines, after its key and before its comma. -/
def Lined (width : Nat) (v : Value) : Prop :=
  ∀ depth key comma, broken width (v.lines depth key comma) =
    (Style.indented width).lineBreak depth ++
      (Line.keyChars key ++ (write (.indented width) depth v ++ Line.commaChars comma))

variable {width : Nat}

theorem lined_of_single {v : Value} {body : Body} (hlines : v.lines = .single body)
    (hwrite : ∀ depth, write (.indented width) depth v = body.chars) : Lined width v := by
  intro depth key comma
  rw [hlines, Lines.single, broken_cons, hwrite]
  simp only [Line.text, broken, List.flatMap_nil, List.append_nil]

theorem broken_items {item : Value} {items : List Value}
    (h : ∀ v ∈ item :: items, Lined width v) (depth : Nat) :
    broken width (Lines.ofParts depth ((item :: items).map fun v => (none, v.lines))) =
      (Style.indented width).lineBreak depth ++ (write (.indented width) depth item ++
        writeItems (.indented width) depth items) := by
  induction items generalizing item with
  | nil =>
    rw [List.map_singleton, Lines.ofParts, broken_append, h item List.mem_cons_self, writeItems]
    simp [Line.keyChars, Line.commaChars, Lines.ofParts, broken]
  | cons next items ih =>
    obtain ⟨hitem, hitems⟩ := List.forall_mem_cons.1 h
    rw [List.map_cons, Lines.ofParts, broken_append, hitem, ih hitems, writeItems]
    simp [Line.keyChars, Line.commaChars]

theorem broken_members {m : String × Value} {members : Members}
    (h : ∀ n ∈ m :: members, Lined width n.2) (depth : Nat) :
    broken width (Lines.ofParts depth ((m :: members).map fun n => (some n.1, n.2.lines))) =
      (Style.indented width).lineBreak depth ++ (Line.keyChars (some m.1) ++
        (write (.indented width) depth m.2 ++
          writeMembers (.indented width) depth members)) := by
  induction members generalizing m with
  | nil =>
    rw [List.map_singleton, Lines.ofParts, broken_append, h m List.mem_cons_self, writeMembers]
    simp [Line.commaChars, Lines.ofParts, broken]
  | cons next members ih =>
    obtain ⟨hm, hmembers⟩ := List.forall_mem_cons.1 h
    rw [List.map_cons, Lines.ofParts, broken_append, hm, ih hmembers, writeMembers]
    simp [Line.keyChars, Line.commaChars, Style.indented]

theorem broken_enclosed (b : Bracket) {parts : List (Option String × Lines)} (hne : parts ≠ [])
    (depth : Nat) (key : Option String) (comma : Bool) :
    broken width (Lines.enclosed b parts depth key comma) =
      (Style.indented width).lineBreak depth ++ (Line.keyChars key ++
        (b.opens :: (broken width (Lines.ofParts (depth + 1) parts) ++
          ((Style.indented width).lineBreak depth ++ (b.closes :: Line.commaChars comma))))) := by
  rw [Lines.enclosed, if_neg (by rwa [List.isEmpty_iff]), broken_cons, broken_append, broken_cons]
  simp [Line.text, Line.keyChars, Line.commaChars, Body.chars, broken]

/-- Every value is written in its lines. -/
theorem lined (width : Nat) (v : Value) : Lined width v := by
  induction v using Value.parts with
  | null => exact lined_of_single Value.lines_null fun _ => by rw [write]; rfl
  | bool b =>
    refine lined_of_single (Value.lines_bool b) fun _ => ?_
    cases b <;> rw [write] <;> rfl
  | number n => exact lined_of_single (Value.lines_number n) fun _ => by rw [write]; rfl
  | string s => exact lined_of_single (Value.lines_string s) fun _ => by rw [write]; rfl
  | array items ih =>
    cases items with
    | nil =>
      have hlines : (Value.array []).lines = .single (.empty .square) := Value.lines_array []
      exact lined_of_single hlines fun _ => by rw [write]; rfl
    | cons item items =>
      intro depth key comma
      rw [Value.lines_array, broken_enclosed _ (by simp), broken_items ih, write]
      simp [Bracket.opens, Bracket.closes]
  | object members ih =>
    cases members with
    | nil =>
      have hlines : (Value.object []).lines = .single (.empty .curly) := Value.lines_object []
      exact lined_of_single hlines fun _ => by rw [write]; rfl
    | cons m members =>
      intro depth key comma
      rw [Value.lines_object, broken_enclosed _ (by simp), broken_members ih, write]
      simp [Bracket.opens, Bracket.closes, Line.keyChars, Style.indented]

theorem broken_eq_intercalate {ls : List Line} (hne : ls ≠ []) :
    broken width ls = '\n' :: ['\n'].intercalate (ls.map (Line.indented width)) := by
  induction ls with
  | nil => exact absurd rfl hne
  | cons l ls ih =>
    cases ls with
    | nil => simp [broken]
    | cons next ls =>
      rw [broken, List.flatMap_cons, ← broken, ih (List.cons_ne_nil _ _)]
      simp

theorem lines_ne_nil (v : Value) (depth : Nat) (key : Option String) (comma : Bool) :
    v.lines depth key comma ≠ [] := by
  -- Without lines nothing is written, but there is a line feed at least.
  intro hnil
  have hlined := lined 0 v depth key comma
  rw [hnil] at hlined
  cases hlined

/-- The indented text of a value is its lines, one after another. -/
theorem write_indented (width : Nat) (v : Value) :
    write (.indented width) 0 v =
      ['\n'].intercalate ((v.lines 0 none false).map (Line.indented width)) := by
  have hlined := lined width v 0 none false
  rw [broken_eq_intercalate (lines_ne_nil v 0 none false)] at hlined
  simpa [Style.indented, Line.keyChars, Line.commaChars] using hlined.symm

end Writer

/-! ## Characters of lines -/

theorem Body.printable_chars (body : Body) : Writer.Printable body.chars := by
  cases body with
  | null => decide
  | bool b => cases b <;> decide
  | number n => exact Writer.printable_number n
  | string s => exact Writer.printable_quote s
  | empty b => cases b <;> decide
  | opening b => cases b <;> decide
  | closing b => cases b <;> decide

theorem Line.printable_text (l : Line) : Writer.Printable l.text := by
  rw [text, Writer.printable_append, Writer.printable_append]
  refine ⟨?_, l.body.printable_chars, ?_⟩
  · cases l.key with
    | none => decide
    | some key => exact Writer.printable_append.2 ⟨Writer.printable_quote key, by decide⟩
  · cases l.comma <;> decide

theorem Line.printable_indented (width : Nat) (l : Line) : Writer.Printable (l.indented width) := by
  refine Writer.printable_append.2 ⟨fun c hc => ?_, l.printable_text⟩
  rw [List.eq_of_mem_replicate hc]
  decide

/-- Whether a character opens a container. -/
def opens (c : Char) : Bool :=
  c == '[' || c == '\x7b'

/-- Whether a character closes a container. -/
def closes (c : Char) : Bool :=
  c == ']' || c == '\x7d'

def Body.isClosing : Body → Bool
  | .closing _ => true
  | _ => false

/-- Whether a line starts with a closing bracket. -/
def Line.isClosing (l : Line) : Bool :=
  l.key.isNone && l.body.isClosing

theorem Body.chars_eq_cons (body : Body) :
    ∃ c tail, body.chars = c :: tail ∧ c ≠ ' ' ∧ closes c = body.isClosing := by
  cases body with
  | null => exact ⟨'n', _, rfl, by decide, rfl⟩
  | bool b => cases b <;> exact ⟨_, _, rfl, by decide, rfl⟩
  | number n =>
    obtain ⟨c, tail, hchars⟩ := n.chars_eq_cons
    have hc : c ∈ n.chars := by
      rw [hchars]
      exact List.mem_cons_self
    have hplain := Number.plain_chars hc
    simp only [List.mem_cons, List.not_mem_nil, or_false, not_or] at hplain
    exact ⟨c, tail, hchars, hplain.1, by simp [closes, isClosing, hplain]⟩
  | string s => exact ⟨'"', _, rfl, by decide, rfl⟩
  | empty b => cases b <;> exact ⟨_, _, rfl, by decide, rfl⟩
  | opening b => cases b <;> exact ⟨_, _, rfl, by decide, rfl⟩
  | closing b => cases b <;> exact ⟨_, _, rfl, by decide, rfl⟩

theorem Line.text_eq_cons (l : Line) :
    ∃ c tail, l.text = c :: tail ∧ c ≠ ' ' ∧ closes c = l.isClosing := by
  obtain ⟨depth, key, body, comma⟩ := l
  cases key with
  | some key => exact ⟨'"', _, rfl, by decide, rfl⟩
  | none =>
    obtain ⟨c, tail, hchars, hspace, hcloses⟩ := body.chars_eq_cons
    refine ⟨c, tail ++ commaChars comma, ?_, hspace, hcloses⟩
    rw [text, hchars]
    rfl

namespace Writer

/-- The lines of an indented text. -/
theorem splitOn_write (width : Nat) (v : Value) :
    (write (.indented width) 0 v).splitOn '\n' =
      (v.lines 0 none false).map (Line.indented width) := by
  rw [write_indented]
  refine List.splitOn_intercalate '\n' ?_ ?_
  · rintro _ hmem hbreak
    obtain ⟨l, -, rfl⟩ := List.mem_map.1 hmem
    exact absurd (l.printable_indented width _ hbreak) (by decide)
  · rw [Ne, List.map_eq_nil_iff]
    exact lines_ne_nil v 0 none false

end Writer

end DmlReport.Json
