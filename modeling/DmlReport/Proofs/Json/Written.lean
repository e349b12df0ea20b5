import DmlReport.Proofs.Json.Numeral

/-!
# Written values are read as their trees

A reader that comes upon a written value, in either style and inside any containers,
delivers the tree of the value and goes on with what follows it (`run_write`).  The
proof follows the value: a scalar is one token, and the items and members of a
container are read one after another by `run_writeItems` and `run_writeMembers`, which
take the statement for the parts as their hypothesis.  A whole text is therefore read
as the tree of the value that was written (`Document.read_tree`), with nothing after it,
and decoding the text is decoding that tree (`decodeText_tree`).
-/

namespace DmlReport.Json

namespace Reader.State

variable (s : State)

/-! ## Steps of a reader -/

@[simp] theorem run_nil (passed : Nat) : s.run passed [] = s := by
  cases s <;> rfl

theorem run_cut (document : Document) (passed : Nat) (cs : List Char) :
    (cut document).run passed cs = .cut document := by
  cases cs <;> rfl

theorem run_succ (passed : Nat) (c : Char) (rest : List Char) :
    s.run (passed + 1) (c :: rest) = s.run passed rest := by
  cases s with
  | cut document => rw [run_cut, run_cut]
  | _ => rfl

theorem run_space {c : Char} (h : isSpace c = true) (rest : List Char) :
    s.run 0 (c :: rest) = s.run 0 rest := by
  cases s with
  | cut document => rw [run_cut, run_cut]
  | _ => exact if_pos h

theorem run_token {c : Char} (h : isSpace c = false) (rest : List Char) :
    s.run 0 (c :: rest) = (s.step (Token.next c rest).1).run (Token.next c rest).2 rest := by
  cases s with
  | cut document =>
    rw [run_cut]
    exact (run_cut _ _ _).symm
  | _ => exact if_neg (by simp [h])

theorem run_passed (tail rest : List Char) :
    s.run tail.length (tail ++ rest) = s.run 0 rest := by
  induction tail with
  | nil => rfl
  | cons c tail ih => rw [List.length_cons, List.cons_append, run_succ, ih]

theorem run_spaces {blank : List Char} (h : ∀ c ∈ blank, isSpace c = true) (rest : List Char) :
    s.run 0 (blank ++ rest) = s.run 0 rest := by
  induction blank with
  | nil => rfl
  | cons c blank ih =>
    obtain ⟨hc, hblank⟩ := List.forall_mem_cons.1 h
    rw [List.cons_append, run_space s hc, ih hblank]

variable {s}

theorem run_spelled {t : Token} {text : List Char} (h : Spells t text) {rest : List Char}
    (hrest : EndsNumber rest) : s.run 0 (text ++ rest) = (s.step t).run 0 rest := by
  obtain ⟨c, tail, rfl, hspace, hnext⟩ := h
  rw [List.cons_append, run_token s hspace, hnext rest hrest, run_passed]

end Reader.State

/-! ## Space between the parts -/

theorem EndsNumber.space {c : Char} (h : isSpace c = true) (rest : List Char) :
    EndsNumber (c :: rest) := by
  simp only [isSpace, Bool.or_eq_true, beq_iff_eq] at h
  rcases h with ((rfl | rfl) | rfl) | rfl <;> exact .of_not_mem rfl (by decide) rest

theorem EndsNumber.after_spaces {blank rest : List Char} (h : ∀ c ∈ blank, isSpace c = true)
    (hrest : EndsNumber rest) : EndsNumber (blank ++ rest) := by
  cases blank with
  | nil => exact hrest
  | cons c blank => exact .space (h c List.mem_cons_self) _

/-- A style puts nothing but space and one colon between the parts of a value. -/
structure Style.Spaced (style : Style) : Prop where
  lineBreak (depth : Nat) : ∀ c ∈ style.lineBreak depth, isSpace c = true
  colon : ∃ blank, style.colon = ':' :: blank ∧ ∀ c ∈ blank, isSpace c = true

theorem Style.compact_spaced : compact.Spaced where
  lineBreak _ := by simp [compact]
  colon := ⟨[], rfl, by simp⟩

theorem Style.indented_spaced (width : Nat) : (indented width).Spaced where
  lineBreak depth c hc := by
    rcases List.mem_cons.1 hc with rfl | hc
    · rfl
    · rw [List.eq_of_mem_replicate hc]
      rfl
  colon := ⟨[' '], rfl, List.forall_mem_singleton.2 rfl⟩

/-! ## Written values -/

namespace Reader

open Writer

/-- A reader takes a token as the start of a value, unless it ends a list. -/
def Awaits (s : State) (up : List Frame) : Prop :=
  ∀ t, t ≠ .closeList → s.step t = startValue t up

theorem awaits_value (up : List Frame) : Awaits (.value up) up := fun _ _ => rfl

theorem awaits_firstItem (up : List Frame) : Awaits (.firstItem up) (.item [] :: up) := by
  intro t ht
  cases t <;> first | rfl | exact absurd rfl ht

/-- A reader that awaits a value reads a written value as its tree, and goes on. -/
def Reads (style : Style) (v : Value) : Prop :=
  ∀ depth s up rest, Awaits s up → EndsNumber rest →
    s.run 0 (write style depth v ++ rest) = (deliver v.tree up).run 0 rest

theorem reads_of_spells {style : Style} {v : Value} {t : Token} {text : List Char}
    (hwrite : ∀ depth, write style depth v = text) (hspells : Spells t text)
    (ht : t ≠ .closeList) (htree : ∀ up, startValue t up = deliver v.tree up) :
    Reads style v := by
  intro depth s up rest hs hrest
  rw [hwrite, State.run_spelled hspells hrest, hs t ht, htree]

section

variable {style : Style}

theorem ends_writeItems {blank : List Char} (hblank : ∀ c ∈ blank, isSpace c = true)
    (depth : Nat) (items : List Value) (rest : List Char) :
    EndsNumber (writeItems style depth items ++ (blank ++ ']' :: rest)) := by
  cases items with
  | nil =>
    rw [writeItems, List.nil_append]
    exact .after_spaces hblank (.of_not_mem rfl (by decide) rest)
  | cons item items => exact .of_not_mem rfl (by decide) _

theorem ends_writeMembers {blank : List Char} (hblank : ∀ c ∈ blank, isSpace c = true)
    (depth : Nat) (members : Members) (rest : List Char) :
    EndsNumber (writeMembers style depth members ++ (blank ++ '\x7d' :: rest)) := by
  cases members with
  | nil =>
    rw [writeMembers, List.nil_append]
    exact .after_spaces hblank (.of_not_mem rfl (by decide) rest)
  | cons m members => exact .of_not_mem rfl (by decide) _

variable (hstyle : style.Spaced)

include hstyle

/-- The items after the first are read one after another, up to the end of the list. -/
theorem run_writeItems {items : List Value} (hitems : ∀ v ∈ items, Reads style v)
    {blank : List Char} (hblank : ∀ c ∈ blank, isSpace c = true) (depth : Nat)
    (before : List Node) (up : List Frame) (rest : List Char) :
    (State.afterItem before up).run 0
        (writeItems style depth items ++ (blank ++ ']' :: rest)) =
      (deliver (.list (before.reverse ++ items.map Value.tree)) up).run 0 rest := by
  induction items generalizing before with
  | nil =>
    rw [writeItems, List.nil_append, State.run_spaces _ hblank, State.run_token _ rfl,
      List.map_nil, List.append_nil]
    rfl
  | cons item items ih =>
    obtain ⟨hitem, hitems⟩ := List.forall_mem_cons.1 hitems
    have hcomma : (State.afterItem before up).run 0
        (writeItems style depth (item :: items) ++ (blank ++ ']' :: rest)) =
        (State.value (.item before :: up)).run 0 (style.lineBreak depth ++
          (write style depth item ++ (writeItems style depth items ++ (blank ++ ']' :: rest)))) := by
      rw [writeItems, List.cons_append, State.run_token _ rfl]
      simp only [List.append_assoc]
      rfl
    rw [hcomma, State.run_spaces _ (hstyle.lineBreak depth),
      hitem depth _ _ _ (awaits_value _) (ends_writeItems hblank depth items rest)]
    show (State.afterItem (item.tree :: before) up).run 0 _ = _
    rw [ih hitems]
    simp

/-- A key, its colon and the space after it. -/
theorem run_key {s : State} {before : List (Key × Node)} {key : String} {up : List Frame}
    (hs : s.step (.string (some key)) = .colon before (.text (some key)) up) (rest : List Char) :
    s.run 0 (quote key ++ (style.colon ++ rest)) =
      (State.value (.member before (.text (some key)) :: up)).run 0 rest := by
  obtain ⟨blank, hcolon, hblank⟩ := hstyle.colon
  rw [hcolon, List.cons_append, State.run_spelled (.quote key) (.of_not_mem rfl (by decide) _),
    hs, State.run_token _ rfl]
  show (State.value (.member before (.text (some key)) :: up)).run 0 (blank ++ rest) = _
  exact State.run_spaces _ hblank rest

theorem run_writeMembers {members : Members} (hmembers : ∀ m ∈ members, Reads style m.2)
    {blank : List Char} (hblank : ∀ c ∈ blank, isSpace c = true) (depth : Nat)
    (before : List (Key × Node)) (up : List Frame) (rest : List Char) :
    (State.afterMember before up).run 0
        (writeMembers style depth members ++ (blank ++ '\x7d' :: rest)) =
      (deliver (.object (before.reverse ++
        members.map fun m => (.text (some m.1), m.2.tree))) up).run 0 rest := by
  induction members generalizing before with
  | nil =>
    rw [writeMembers, List.nil_append, State.run_spaces _ hblank, State.run_token _ rfl,
      List.map_nil, List.append_nil]
    rfl
  | cons m members ih =>
    obtain ⟨key, value⟩ := m
    obtain ⟨hvalue, hmembers⟩ := List.forall_mem_cons.1 hmembers
    have hcomma : (State.afterMember before up).run 0
        (writeMembers style depth ((key, value) :: members) ++ (blank ++ '\x7d' :: rest)) =
        (State.key before up).run 0 (style.lineBreak depth ++ (quote key ++ (style.colon ++
          (write style depth value ++
            (writeMembers style depth members ++ (blank ++ '\x7d' :: rest)))))) := by
      rw [writeMembers, List.cons_append, State.run_token _ rfl]
      simp only [List.append_assoc]
      rfl
    rw [hcomma, State.run_spaces _ (hstyle.lineBreak depth), run_key hstyle rfl,
      hvalue depth _ _ _ (awaits_value _) (ends_writeMembers hblank depth members rest)]
    show (State.afterMember ((.text (some key), value.tree) :: before) up).run 0 _ = _
    rw [ih hmembers]
    simp

theorem reads_array {items : List Value} (hitems : ∀ v ∈ items, Reads style v) :
    Reads style (.array items) := by
  intro depth s up rest hs hrest
  cases items with
  | nil =>
    show s.run 0 ('[' :: ']' :: rest) = _
    rw [State.run_token _ rfl]
    show (s.step .openList).run 0 (']' :: rest) = _
    rw [hs .openList nofun]
    show (State.firstItem up).run 0 (']' :: rest) = _
    rw [State.run_token _ rfl]
    rfl
  | cons item items =>
    obtain ⟨hitem, hitems⟩ := List.forall_mem_cons.1 hitems
    have hwrite : write style depth (.array (item :: items)) ++ rest =
        '[' :: (style.lineBreak (depth + 1) ++ (write style (depth + 1) item ++
          (writeItems style (depth + 1) items ++ (style.lineBreak depth ++ ']' :: rest)))) := by
      rw [write]
      simp
    have hblank := hstyle.lineBreak depth
    rw [hwrite, State.run_token _ rfl]
    show (s.step .openList).run 0 _ = _
    rw [hs .openList nofun]
    show (State.firstItem up).run 0 _ = _
    rw [State.run_spaces _ (hstyle.lineBreak (depth + 1)),
      hitem _ _ _ _ (awaits_firstItem up) (ends_writeItems hblank _ items rest)]
    show (State.afterItem [item.tree] up).run 0 _ = _
    rw [run_writeItems hstyle hitems hblank]
    simp

theorem reads_object {members : Members} (hmembers : ∀ m ∈ members, Reads style m.2) :
    Reads style (.object members) := by
  intro depth s up rest hs hrest
  cases members with
  | nil =>
    show s.run 0 ('\x7b' :: '\x7d' :: rest) = _
    rw [State.run_token _ rfl]
    show (s.step .openObject).run 0 ('\x7d' :: rest) = _
    rw [hs .openObject nofun]
    show (State.firstKey up).run 0 ('\x7d' :: rest) = _
    rw [State.run_token _ rfl]
    rfl
  | cons m members =>
    obtain ⟨key, value⟩ := m
    obtain ⟨hvalue, hmembers⟩ := List.forall_mem_cons.1 hmembers
    have hwrite : write style depth (.object ((key, value) :: members)) ++ rest =
        '\x7b' :: (style.lineBreak (depth + 1) ++ (quote key ++ (style.colon ++
          (write style (depth + 1) value ++ (writeMembers style (depth + 1) members ++
            (style.lineBreak depth ++ '\x7d' :: rest)))))) := by
      rw [write]
      simp
    have hblank := hstyle.lineBreak depth
    rw [hwrite, State.run_token _ rfl]
    show (s.step .openObject).run 0 _ = _
    rw [hs .openObject nofun]
    show (State.firstKey up).run 0 _ = _
    rw [State.run_spaces _ (hstyle.lineBreak (depth + 1)), run_key hstyle rfl,
      hvalue _ _ _ _ (awaits_value _) (ends_writeMembers hblank _ members rest)]
    show (State.afterMember [(.text (some key), value.tree)] up).run 0 _ = _
    rw [run_writeMembers hstyle hmembers hblank]
    simp

/-- A written value is read as its tree. -/
theorem run_write (v : Value) : Reads style v := by
  induction v using Value.parts with
  | null => exact reads_of_spells (fun _ => by rw [write]) .null nofun fun _ => rfl
  | bool b =>
    cases b with
    | true => exact reads_of_spells (fun _ => by rw [write]) .bool_true nofun fun _ => rfl
    | false => exact reads_of_spells (fun _ => by rw [write]) .bool_false nofun fun _ => rfl
  | number n => exact reads_of_spells (fun _ => by rw [write]) (.number n) nofun fun _ => rfl
  | string s => exact reads_of_spells (fun _ => by rw [write]) (.quote s) nofun fun _ => rfl
  | array items ih => exact reads_array hstyle ih
  | object members ih => exact reads_object hstyle ih

end

end Reader

/-- The text of a value is read as the tree of the value, with nothing after it. -/
theorem Document.read_tree {style : Style} (hstyle : style.Spaced) (v : Value) :
    Document.read (Writer.write style 0 v) = ⟨v.tree, true⟩ := by
  have hrun := Reader.run_write hstyle v 0 _ [] [] (Reader.awaits_value []) .nil
  rw [List.append_nil] at hrun
  rw [Document.read, hrun]
  rfl

theorem Document.read_write {style : Style} (hstyle : style.Spaced) {v : Value}
    (hv : v.isIntegral = true) : Document.read (Writer.write style 0 v) = ⟨v.node, true⟩ := by
  rw [read_tree hstyle, Value.tree_eq_node hv]

variable {α : Type} (decode : Decoder α) {style : Style}

/-- Decoding the text of a value is decoding its tree. -/
theorem decodeText_tree (hstyle : style.Spaced) (v : Value) :
    decodeText decode (String.ofList (Writer.write style 0 v)) = decode 0 v.tree := by
  rw [decodeText, String.toList_ofList, Document.read_tree hstyle]
  cases decode 0 v.tree <;> rfl

theorem decodeText_write (hstyle : style.Spaced) {v : Value} (hv : v.isIntegral = true) :
    decodeText decode (String.ofList (Writer.write style 0 v)) = decode 0 v.node := by
  rw [decodeText_tree decode hstyle, Value.tree_eq_node hv]

end DmlReport.Json
