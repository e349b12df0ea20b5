import DmlReport.Proofs.Json.Lexeme

/-!
# Every number is written as a numeral

The text of a binary number is a numeral too, in plain notation or with an exponent
(`Number.chars_literal`), so the text of every value is read as a tree, and the literals in
that tree are those of its numbers (`Value.tree`).
-/

namespace DmlReport.Json

/-! ## Numerals of binary numbers -/

/-- The literal that digits and a decimal point are laid out as. -/
def Literal.ofDigits (negative : Bool) (d : DecimalDigits) : Literal :=
  let e := d.point - 1
  if Number.plainExponents.1 ≤ e ∧ e ≤ Number.plainExponents.2 then
    if d.point ≤ 0 then
      ⟨negative, ['0'], some (List.replicate (-d.point).toNat '0' ++ d.digits), none⟩
    else
      let point := d.point.toNat
      if d.digits.length ≤ point then
        ⟨negative, d.digits ++ List.replicate (point - d.digits.length) '0', some ['0'], none⟩
      else ⟨negative, d.digits.take point, some (d.digits.drop point), none⟩
  else
    ⟨negative, d.digits.take 1, if d.digits.drop 1 = [] then none else some (d.digits.drop 1),
      some (decide (e < 0), Nat.toDigits 10 e.natAbs)⟩

theorem Literal.negative_ofDigits (negative : Bool) (d : DecimalDigits) :
    (ofDigits negative d).negative = negative := by
  dsimp only [ofDigits]
  split
  · split
    · rfl
    · split <;> rfl
  · rfl

theorem Literal.magnitude_ofDigits (negative : Bool) (d : DecimalDigits) :
    (ofDigits negative d).magnitude = Number.layout d := by
  dsimp only [ofDigits, Number.layout]
  split
  · split
    · simp [magnitude, fractionChars, exponentChars]
    · split <;> simp [magnitude, fractionChars, exponentChars]
  · rcases d.digits with _ | ⟨c, _ | ⟨c', rest⟩⟩ <;>
      simp [magnitude, fractionChars, exponentChars]

/-- Proper digits are laid out as a numeral. -/
theorem Literal.proper_ofDigits (negative : Bool) {d : DecimalDigits} (h : d.Proper) :
    (ofDigits negative d).Proper := by
  rcases h.leading with hleading | rfl
  · have hzeros (n : Nat) : ∀ c ∈ List.replicate n '0', c.isDigit = true := fun c hc => by
      rw [List.eq_of_mem_replicate hc]
      rfl
    obtain ⟨c, rest, hdigits⟩ := List.exists_cons_of_ne_nil h.ne_nil
    have hc : c ≠ '0' := by
      rw [hdigits] at hleading
      simpa using hleading
    -- The whole part starts with the first digit, except where it is a lone zero.
    have hwhole {tail : List Char} : Token.isWholePart (c :: tail) = true :=
      Token.isWholePart_of_leading (List.cons_ne_nil _ _) (by simpa using hc)
    dsimp only [ofDigits]
    split
    · split
      · refine ⟨rfl, List.forall_mem_singleton.2 rfl, ?_, nofun⟩
        rintro _ ⟨rfl⟩
        exact ⟨by simp [h.ne_nil], List.forall_mem_append.2 ⟨hzeros _, h.isDigit⟩⟩
      · rename_i hpoint
        split
        · refine ⟨?_, List.forall_mem_append.2 ⟨h.isDigit, hzeros _⟩, ?_, nofun⟩
          · rw [hdigits]
            exact hwhole
          · rintro _ ⟨rfl⟩
            exact ⟨List.cons_ne_nil _ _, List.forall_mem_singleton.2 rfl⟩
        · refine ⟨?_, fun c hc => h.isDigit c (List.mem_of_mem_take hc), ?_, nofun⟩
          · obtain ⟨n, hn⟩ : ∃ n, d.point.toNat = n + 1 := ⟨d.point.toNat - 1, by omega⟩
            rw [hdigits, hn]
            exact hwhole
          · rintro _ ⟨rfl⟩
            exact ⟨by rw [Ne, List.drop_eq_nil_iff]; omega,
              fun c hc => h.isDigit c (List.mem_of_mem_drop hc)⟩
    · refine ⟨?_, fun c hc => h.isDigit c (List.mem_of_mem_take hc), ?_, ?_⟩
      · rw [hdigits]
        exact hwhole
      · split
        · exact nofun
        · rename_i hmore
          rintro _ ⟨rfl⟩
          exact ⟨hmore, fun c hc => h.isDigit c (List.mem_of_mem_drop hc)⟩
      · rintro _ ⟨rfl⟩
        exact ⟨Nat.toDigits_ne_nil, fun c hc =>
          Nat.isDigit_of_mem_toDigits (by decide) (by decide) hc⟩
  · have hzero : ofDigits negative ⟨['0'], 1⟩ = ⟨negative, ['0'], some ['0'], none⟩ := rfl
    rw [hzero]
    refine ⟨rfl, List.forall_mem_singleton.2 rfl, ?_, nofun⟩
    rintro _ ⟨rfl⟩
    exact ⟨List.cons_ne_nil _ _, List.forall_mem_singleton.2 rfl⟩

/-- The literal of a number. -/
def Number.literal : Number → Literal
  | .integer n => .ofInteger n
  | .binary x => .ofDigits x.negative x.shortest

theorem Number.proper_literal (n : Number) : n.literal.Proper := by
  cases n with
  | integer n => exact Literal.proper_ofInteger n
  | binary x => exact Literal.proper_ofDigits x.negative x.shortest_proper

/-- A number is written as its literal. -/
theorem Number.chars_literal (n : Number) : n.literal.chars = n.chars := by
  cases n with
  | integer n => exact Literal.chars_ofInteger n
  | binary x =>
    show Literal.chars (.ofDigits x.negative x.shortest) = binaryChars x
    rw [Literal.chars, Literal.negative_ofDigits, Literal.magnitude_ofDigits]
    rfl

theorem Spells.number (n : Number) : Spells (.number n.literal) n.chars := by
  rw [← n.chars_literal]
  exact .literal n.proper_literal

/-- A number is written with digits and a few marks. -/
theorem Number.mem_chars {n : Number} {c : Char} (h : c ∈ n.chars) :
    c.isDigit = true ∨ c ∈ ['-', '+', '.', 'e'] := by
  have hproper := n.proper_literal
  rw [← n.chars_literal] at h
  have hmagnitude : c ∈ n.literal.magnitude → c.isDigit = true ∨ c ∈ ['-', '+', '.', 'e'] := by
    intro h
    rw [Literal.magnitude, List.mem_append, List.mem_append] at h
    rcases h with h | h | h
    · exact .inl (hproper.isDigit c h)
    · cases hfraction : n.literal.fraction with
      | none => simp [hfraction, Literal.fractionChars] at h
      | some digits =>
        rw [hfraction, Literal.fractionChars, List.mem_cons] at h
        rcases h with rfl | h
        · exact .inr (by decide)
        · exact .inl ((hproper.fraction digits hfraction).2 c h)
    · cases hexponent : n.literal.exponent with
      | none => simp [hexponent, Literal.exponentChars] at h
      | some e =>
        obtain ⟨down, digits⟩ := e
        rw [hexponent, Literal.exponentChars, List.mem_cons, List.mem_cons] at h
        rcases h with rfl | rfl | h
        · exact .inr (by decide)
        · exact .inr (by cases down <;> decide)
        · exact .inl ((hproper.exponent _ hexponent).2 c h)
  unfold Literal.chars at h
  split at h
  · rcases List.mem_cons.1 h with rfl | h
    · exact .inr (by decide)
    · exact hmagnitude h
  · exact hmagnitude h

theorem Number.plain_chars {n : Number} {c : Char} (h : c ∈ n.chars) :
    c ∉ [' ', '"', '[', '\x7b', ']', '\x7d'] := by
  intro hc
  simp only [List.mem_cons, List.not_mem_nil, or_false] at hc
  rcases hc with rfl | rfl | rfl | rfl | rfl | rfl <;> exact absurd (mem_chars h) (by decide)

theorem Number.chars_eq_cons (n : Number) : ∃ c tail, n.chars = c :: tail := by
  obtain ⟨c, tail, hchars, -, -⟩ := Spells.number n
  exact ⟨c, tail, hchars⟩

/-! ## Trees -/

/-- The tree that the text of a value is read as. -/
def Value.tree : Value → Node :=
  fold {
    null := .null
    bool := .bool
    number n := .number n.literal
    string s := .string (some s)
    array := .list
    object members := .object (members.map fun m => (.text (some m.1), m.2)) }

@[simp] theorem Value.tree_null : null.tree = .null := rfl

@[simp] theorem Value.tree_bool (b : Bool) : (bool b).tree = .bool b := rfl

@[simp] theorem Value.tree_number (n : Number) : (number n).tree = .number n.literal := rfl

@[simp] theorem Value.tree_string (s : String) : (string s).tree = .string (some s) := rfl

@[simp] theorem Value.tree_array (items : List Value) :
    (array items).tree = .list (items.map tree) :=
  fold_array _ items

@[simp] theorem Value.tree_object (members : Members) :
    (object members).tree = .object (members.map fun m => (.text (some m.1), m.2.tree)) := by
  have heq : (object members).tree =
      .object ((members.map fun m => (m.1, m.2.tree)).map fun m => (.text (some m.1), m.2)) :=
    fold_object _ members
  rw [heq, List.map_map]
  rfl

/-- If no number of a value is left open, its tree is known. -/
theorem Value.tree_eq_node {v : Value} (hv : v.isIntegral = true) : v.tree = v.node := by
  induction v using parts with
  | null => rfl
  | bool b => rfl
  | number n =>
    cases n with
    | integer n => rfl
    | binary x => cases hv
  | string s => rfl
  | array items ih =>
    have hitems := isIntegral_array.1 hv
    rw [tree_array, node_array, List.map_congr_left fun v h => ih v h (hitems v h)]
  | object members ih =>
    have hmembers := isIntegral_object.1 hv
    rw [tree_object, node_object]
    congr 1
    exact List.map_congr_left fun m h => by rw [ih m h (hmembers m h)]

end DmlReport.Json
