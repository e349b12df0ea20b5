import DmlReport.Proofs.Json.Nesting
import Mathlib.Data.List.Forall2

/-!
# Records are decoded from what was written

A written record is an object with a member for each field, in the order of the fields.
If each value fits its field, all fields are found with their values
(`Record.fieldsOf_node`).  The decoders of single values take back what was written for
them; those of containers, within one more open container.
-/

namespace Except

/-- A computation that gives a result goes on with it. -/
theorem bind_ok {ε α β : Type} {x : Except ε α} {f : α → Except ε β} {a : α} {b : β}
    (hx : x = .ok a) (hf : f a = .ok b) : (x >>= f) = .ok b := by
  rw [hx]
  exact hf

/-- A computation with a result had one on its way. -/
theorem bind_eq_ok {ε α β : Type} {x : Except ε α} {f : α → Except ε β} {b : β}
    (h : (x >>= f) = .ok b) : ∃ a, x = .ok a ∧ f a = .ok b := by
  cases x with
  | ok a => exact ⟨a, rfl, h⟩
  | error e => cases h

end Except

namespace DmlReport.Json

variable {α : Type} {opened : Nat}

/-! ## Single values -/

theorem text_node (s : String) : text opened (Value.string s).node = .ok s := rfl

theorem natBelow_node {bound n : Nat} (wanted : String) (hbound : bound ≤ Literal.maxSignificand)
    (hn : n < bound) : natBelow bound wanted opened (Value.nat n).node = .ok n := by
  have hvalue : (Literal.ofInteger n).value? = some (.integer n) :=
    Literal.value?_ofInteger (by omega) (by omega)
  show natBelow bound wanted opened (.number (Literal.ofInteger n)) = _
  simp [natBelow, hvalue, hn]

theorem uint16_node (n : UInt16) : uint16 opened (Value.nat n.toNat).node = .ok n := by
  rw [uint16, natBelow_node "u16" (by decide) n.toNat_lt]
  exact congrArg Except.ok UInt16.ofNat_toNat

theorem uint32_node (n : UInt32) : uint32 opened (Value.nat n.toNat).node = .ok n := by
  rw [uint32, natBelow_node "u32" (by decide) n.toNat_lt]
  exact congrArg Except.ok UInt32.ofNat_toNat

theorem oneOf_node {names : List (String × α)} {name : String} {a : α}
    (h : names.lookup name = some a) : oneOf names opened (Value.string name).node = .ok a := by
  show named names name = _
  rw [named, h]

section

variable {decode : Decoder α} {toValue : α → Value}

theorem optional_node (hnull : ∀ a, (toValue a).node ≠ .null)
    (h : ∀ a, decode opened (toValue a).node = .ok a) (o : Option α) :
    optional decode opened (Value.ofOption toValue o).node = .ok o := by
  cases o with
  | none => rfl
  | some a =>
    show optional decode opened (toValue a).node = _
    rw [optional, h a]
    · rfl
    · exact hnull a

theorem list_node (hroom : opened < maxDepth) {as : List α}
    (h : ∀ a ∈ as, decode (opened + 1) (toValue a).node = .ok a) :
    list decode opened (Value.array (as.map toValue)).node = .ok as := by
  have hitems : (as.map fun a => (toValue a).node).mapM (decode (opened + 1)) = .ok as := by
    induction as with
    | nil => rfl
    | cons a as ih =>
      obtain ⟨ha, has⟩ := List.forall_mem_cons.1 h
      rw [List.map_cons, List.mapM_cons, ha, ih has]
      rfl
  rw [Value.node_array, List.map_map, list, enter, if_pos hroom]
  exact hitems

end

/-! ## Records -/

/-- A value can be the value of a field of a record within open containers. -/
def Field.Fits (opened : Nat) (field : Field) (v : Value) : Prop :=
  field.check (opened + 1) v.node = .ok ()

theorem Field.Fits.of_decode {decode : Decoder α} {v : Value} {a : α}
    (h : decode (opened + 1) v.node = .ok a) {name : String} {omissible : Bool} :
    (Field.of name omissible decode).Fits opened v := by
  show (fun _ => ()) <$> decode (opened + 1) v.node = _
  rw [h]
  rfl

theorem find?_name {fields : List Field} (hnames : (fields.map (·.name)).Nodup) {field : Field}
    (h : field ∈ fields) : fields.find? (·.name == field.name) = some field := by
  induction fields with
  | nil => cases h
  | cons first fields ih =>
    rw [List.map_cons, List.nodup_cons] at hnames
    rcases List.mem_cons.1 h with rfl | h
    · exact List.find?_cons_of_pos (by simp)
    · have hne : first.name ≠ field.name := fun heq =>
        hnames.1 (heq ▸ List.mem_map_of_mem h)
      rw [List.find?_cons_of_neg (by simpa using hne), ih hnames.2 h]

theorem enter_eq_ok {depth : Nat} (h : enter opened = .ok depth) :
    opened < maxDepth ∧ depth = opened + 1 := by
  unfold enter at h
  split at h
  · cases h
    exact ⟨by assumption, rfl⟩
  · cases h

namespace Record

/-- The fields of a record are inside one more container. -/
theorem depth_of_fieldsOf {r : Record} {n : Node} {fields : Fields}
    (h : r.fieldsOf opened n = .ok fields) : opened < maxDepth ∧ fields.depth = opened + 1 := by
  unfold fieldsOf at h
  split at h
  -- An object and a list are both entered before their parts are looked at.
  case h_1 | h_2 =>
    obtain ⟨depth, hdepth, h⟩ := Except.bind_eq_ok h
    obtain ⟨taken, -, h⟩ := Except.bind_eq_ok h
    cases h
    exact enter_eq_ok hdepth
  case h_3 =>
    unfold mismatch at h
    split at h <;> cases h

variable {r : Record} (hnames : (r.fields.map (·.name)).Nodup)

include hnames

/-- Members that are fields with fitting values are taken one after another. -/
theorem takeMembers_entries {entries : List (Field × Value)} {taken : List (String × Node)}
    (hfields : ∀ e ∈ entries, e.1 ∈ r.fields)
    (hdistinct : (entries.map (·.1.name)).Nodup)
    (hfresh : ∀ e ∈ entries, taken.lookup e.1.name = none)
    (hchecks : ∀ e ∈ entries, e.1.check opened e.2.node = .ok ()) :
    r.takeMembers opened (entries.map fun e => (.text (some e.1.name), e.2.node)) taken =
      .ok ((entries.map fun e => (e.1.name, e.2.node)).reverse ++ taken) := by
  induction entries generalizing taken with
  | nil => rfl
  | cons e entries ih =>
    obtain ⟨hfield, hfields⟩ := List.forall_mem_cons.1 hfields
    obtain ⟨hfree, hfresh⟩ := List.forall_mem_cons.1 hfresh
    obtain ⟨hcheck, hchecks⟩ := List.forall_mem_cons.1 hchecks
    rw [List.map_cons, List.nodup_cons] at hdistinct
    have hlater : ∀ e' ∈ entries, ((e.1.name, e.2.node) :: taken).lookup e'.1.name = none := by
      intro e' he'
      have hne : e'.1.name ≠ e.1.name := fun heq =>
        hdistinct.1 (heq ▸ List.mem_map_of_mem he')
      rw [List.lookup_cons, beq_false_of_ne hne]
      exact hfresh e' he'
    rw [List.map_cons, takeMembers, find?_name hnames hfield, hfree]
    simp only [Option.isSome_none, Bool.false_eq_true, if_false, hcheck]
    rw [ih hfields hdistinct.2 hlater hchecks]
    simp

/-- A written record has all its fields, each with its value. -/
theorem fieldsOf_node (hroom : opened < maxDepth) {values : List Value}
    (hfit : List.Forall₂ (Field.Fits opened) r.fields values) :
    r.fieldsOf opened (Value.object ((r.fields.map (·.name)).zip values)).node =
      .ok ⟨opened + 1, ((r.fields.map (·.name)).zip (values.map Value.node)).reverse⟩ := by
  obtain ⟨hlength, hchecks⟩ := List.forall₂_iff_zip.1 hfit
  have hfields : (r.fields.zip values).map Prod.fst = r.fields :=
    List.map_fst_zip (Nat.le_of_eq hlength)
  have hmem : ∀ e ∈ r.fields.zip values, e.1 ∈ r.fields := fun e he =>
    (List.of_mem_zip he).1
  have hdistinct : ((r.fields.zip values).map (·.1.name)).Nodup := by
    rw [← hfields, List.map_map] at hnames
    exact hnames
  have hfresh : ∀ e ∈ r.fields.zip values, ([] : List (String × Node)).lookup e.1.name = none :=
    fun _ _ => rfl
  have htake := takeMembers_entries hnames hmem hdistinct hfresh fun _ he => hchecks he
  have hnode : (Value.object ((r.fields.map (·.name)).zip values)).node =
      .object ((r.fields.zip values).map fun e => (.text (some e.1.name), e.2.node)) := by
    rw [Value.node_object, List.zip_map_left, List.map_map]
    rfl
  have hvalues : (r.fields.map (·.name)).zip (values.map Value.node) =
      (r.fields.zip values).map fun e => (e.1.name, e.2.node) :=
    List.zip_map
  rw [hnode, hvalues, fieldsOf, enter, if_pos hroom]
  show (do return ⟨opened + 1, ← r.takeMembers (opened + 1) _ []⟩ : Except Fault Fields) = _
  rw [htake, List.append_nil]
  rfl

end Record

/-! ## Whole texts -/

/-- What a text is decoded as, its tree is decoded as. -/
theorem decode_of_decodeText {decode : Decoder α} {s : String} {a : α}
    (h : decodeText decode s = .ok a) : decode 0 (Document.read s.toList).root = .ok a := by
  unfold decodeText at h
  dsimp only at h
  split at h
  · rename_i b hb
    split at h
    · cases h
      exact hb
    · cases h
  · cases h

end DmlReport.Json
