import DmlReport.Json.Decode
import Mathlib.Data.List.Nodup

/-!
# The shape of a value

What is asked of a whole JSON value is asked of its parts first.  An `Algebra` says
what to make of a scalar, and what to make of a container once its parts are done;
`Value.fold` applies one.  The depth of a value, whether its numbers are integers,
its form with sorted members, and the tree that its text is read as are all folds, so
one pair of equations for containers (`fold_array`, `fold_object`) serves them all,
and one induction (`Value.parts`) proves what holds of them.
-/

namespace List

theorem foldr_max_le_iff {ns : List Nat} {n : Nat} : ns.foldr max 0 ≤ n ↔ ∀ m ∈ ns, m ≤ n := by
  induction ns with
  | nil => simp
  | cons m ns ih => rw [foldr_cons, Nat.max_le, ih, forall_mem_cons]

end List

namespace DmlReport.Json

/-- What to make of each sort of value. -/
structure Algebra (α : Type) where
  null : α
  bool : Bool → α
  number : Number → α
  string : String → α
  array : List α → α
  object : List (String × α) → α

namespace Value

variable {α : Type}

mutual

/-- What an algebra makes of a value. -/
def fold (alg : Algebra α) : Value → α
  | .null => alg.null
  | .bool b => alg.bool b
  | .number n => alg.number n
  | .string s => alg.string s
  | .array items => alg.array (foldItems alg items)
  | .object members => alg.object (foldMembers alg members)
termination_by structural v => v

/-- What an algebra makes of the items of an array. -/
def foldItems (alg : Algebra α) : List Value → List α
  | [] => []
  | item :: items => item.fold alg :: foldItems alg items
termination_by structural items => items

/-- What an algebra makes of the members of an object. -/
def foldMembers (alg : Algebra α) : List (String × Value) → List (String × α)
  | [] => []
  | (key, value) :: members => (key, value.fold alg) :: foldMembers alg members
termination_by structural members => members

end

theorem foldItems_eq (alg : Algebra α) (items : List Value) :
    foldItems alg items = items.map (fold alg) := by
  induction items with
  | nil => rfl
  | cons item items ih => rw [foldItems, ih, List.map_cons]

theorem foldMembers_eq (alg : Algebra α) (members : Members) :
    foldMembers alg members = members.map fun m => (m.1, m.2.fold alg) := by
  induction members with
  | nil => rfl
  | cons m members ih => rw [foldMembers, ih, List.map_cons]

theorem fold_array (alg : Algebra α) (items : List Value) :
    (array items).fold alg = alg.array (items.map (fold alg)) := by
  rw [fold, foldItems_eq]

theorem fold_object (alg : Algebra α) (members : Members) :
    (object members).fold alg = alg.object (members.map fun m => (m.1, m.2.fold alg)) := by
  rw [fold, foldMembers_eq]

/-- What holds of scalars, and of containers if it holds of their parts, holds of
every value. -/
theorem parts {P : Value → Prop} (null : P .null) (bool : ∀ b, P (.bool b))
    (number : ∀ n, P (.number n)) (string : ∀ s, P (.string s))
    (array : ∀ items, (∀ v ∈ items, P v) → P (.array items))
    (object : ∀ members : Members, (∀ m ∈ members, P m.2) → P (.object members)) (v : Value) :
    P v :=
  @Value.rec P (fun items => ∀ v ∈ items, P v) (fun members => ∀ m ∈ members, P m.2)
    (fun m => P m.2)
    null bool number string array object
    (by simp) (fun _ _ hv hitems => List.forall_mem_cons.2 ⟨hv, hitems⟩)
    (by simp) (fun _ _ hm hmembers => List.forall_mem_cons.2 ⟨hm, hmembers⟩)
    (fun _ _ hv => hv) v

/-! ## Depth -/

/-- How many containers are open at once at most. -/
def depth : Value → Nat :=
  fold {
    null := 0
    bool _ := 0
    number _ := 0
    string _ := 0
    array depths := depths.foldr max 0 + 1
    object members := (members.map Prod.snd).foldr max 0 + 1 }

@[simp] theorem depth_null : null.depth = 0 := rfl

@[simp] theorem depth_bool (b : Bool) : (bool b).depth = 0 := rfl

@[simp] theorem depth_number (n : Number) : (number n).depth = 0 := rfl

@[simp] theorem depth_string (s : String) : (string s).depth = 0 := rfl

@[simp] theorem depth_nat (n : Nat) : (nat n).depth = 0 := rfl

/-- Within open containers, an array fits if there is room for one more and its items
fit within that. -/
theorem add_depth_array_le_iff {items : List Value} {opened n : Nat} :
    opened + (array items).depth ≤ n ↔ opened < n ∧ ∀ v ∈ items, opened + 1 + v.depth ≤ n := by
  have heq : (array items).depth = (items.map depth).foldr max 0 + 1 := fold_array _ items
  have hle : (items.map depth).foldr max 0 ≤ n - (opened + 1) ↔
      ∀ v ∈ items, v.depth ≤ n - (opened + 1) := by
    rw [List.foldr_max_le_iff, List.forall_mem_map]
  rw [heq]
  constructor
  · intro h
    refine ⟨by omega, fun v hv => ?_⟩
    have := hle.1 (by omega) v hv
    omega
  · rintro ⟨hroom, hitems⟩
    have := hle.2 fun v hv => by
      have := hitems v hv
      omega
    omega

theorem add_depth_object_le_iff {members : Members} {opened n : Nat} :
    opened + (object members).depth ≤ n ↔
      opened < n ∧ ∀ m ∈ members, opened + 1 + m.2.depth ≤ n := by
  have heq : (object members).depth = (array (members.map Prod.snd)).depth := by
    have harray : (array (members.map Prod.snd)).depth =
        ((members.map Prod.snd).map depth).foldr max 0 + 1 := fold_array _ _
    have hobject : (object members).depth =
        ((members.map fun m => (m.1, m.2.depth)).map Prod.snd).foldr max 0 + 1 :=
      fold_object _ members
    rw [harray, hobject, List.map_map, List.map_map]
    rfl
  rw [heq, add_depth_array_le_iff, List.forall_mem_map]

theorem add_depth_ofOption_le_iff {toValue : α → Value} {o : Option α} {opened n : Nat} :
    opened + (ofOption toValue o).depth ≤ n ↔
      opened ≤ n ∧ ∀ a, o = some a → opened + (toValue a).depth ≤ n := by
  cases o with
  | none => simp [ofOption]
  | some a =>
    simp only [ofOption, Option.some.injEq, forall_eq']
    omega

/-! ## Integers -/

/-- Whether all numbers of a value are integers of 64 bits, signed or unsigned. -/
def isIntegral : Value → Bool :=
  fold {
    null := true
    bool _ := true
    number
      | .integer n => -(Literal.maxNegated : Int) ≤ n ∧ n ≤ Literal.maxSignificand
      | .binary _ => false
    string _ := true
    array items := items.all id
    object members := members.all (·.2) }

@[simp] theorem isIntegral_null : null.isIntegral = true := rfl

@[simp] theorem isIntegral_bool (b : Bool) : (bool b).isIntegral = true := rfl

@[simp] theorem isIntegral_string (s : String) : (string s).isIntegral = true := rfl

@[simp] theorem isIntegral_integer {n : Int} :
    (number (.integer n)).isIntegral = true ↔
      -(Literal.maxNegated : Int) ≤ n ∧ n ≤ Literal.maxSignificand :=
  decide_eq_true_iff

theorem isIntegral_nat {n : Nat} (h : n ≤ Literal.maxSignificand) :
    (nat n).isIntegral = true :=
  isIntegral_integer.2 ⟨by omega, by omega⟩

theorem isIntegral_ofOption {toValue : α → Value} {o : Option α}
    (h : ∀ a ∈ o, (toValue a).isIntegral = true) : (ofOption toValue o).isIntegral = true := by
  cases o with
  | none => rfl
  | some a => exact h a rfl

@[simp] theorem isIntegral_binary (x : Binary64) :
    (number (.binary x)).isIntegral = false := rfl

@[simp] theorem isIntegral_array {items : List Value} :
    (array items).isIntegral = true ↔ ∀ v ∈ items, v.isIntegral = true := by
  have heq : (array items).isIntegral = (items.map isIntegral).all id := fold_array _ items
  rw [heq, List.all_map, List.all_eq_true]
  rfl

@[simp] theorem isIntegral_object {members : Members} :
    (object members).isIntegral = true ↔ ∀ m ∈ members, m.2.isIntegral = true := by
  have heq : (object members).isIntegral =
      (members.map fun m => (m.1, m.2.isIntegral)).all (·.2) := fold_object _ members
  rw [heq, List.all_map, List.all_eq_true]
  rfl

end Value

/-! ## Sorted members -/

/-- Members in increasing order of their keys.  Of members with the same key the last
one counts. -/
def Members.sorted (members : Members) : Members :=
  members.foldl (fun before m => before.insert m.1 m.2) []

theorem Members.insert_of_forall_lt {key : String} (value : Value) {members : Members}
    (h : ∀ m ∈ members, m.1 < key) : members.insert key value = members ++ [(key, value)] := by
  induction members with
  | nil => rfl
  | cons m members ih =>
    obtain ⟨hm, hmembers⟩ := List.forall_mem_cons.1 h
    rw [insert, if_neg (String.lt_asymm hm), if_neg (String.ne_of_lt hm).symm, ih hmembers]
    rfl

theorem Members.insert_comm_of_lt {key key' : String} (h : key < key') (v w : Value)
    (members : Members) :
    (members.insert key v).insert key' w = (members.insert key' w).insert key v := by
  have hne : key' ≠ key := (String.ne_of_lt h).symm
  induction members with
  | nil => simp [insert, h, String.lt_asymm h, hne]
  | cons m members ih =>
    obtain ⟨k, u⟩ := m
    rcases Std.lt_trichotomy key' k with hlt' | rfl | hgt'
    · have hlt := String.lt_trans h hlt'
      simp [insert, h, hlt, hlt', String.lt_asymm h, hne]
    · simp [insert, h, String.lt_asymm h, hne]
    · have hfar' : ¬key' < k ∧ key' ≠ k := ⟨String.lt_asymm hgt', (String.ne_of_lt hgt').symm⟩
      rcases Std.lt_trichotomy key k with hlt | rfl | hgt
      · simp [insert, hlt, hfar', String.lt_asymm h, hne]
      · simp [insert, String.lt_asymm h, hne]
      · have hfar : ¬key < k ∧ key ≠ k := ⟨String.lt_asymm hgt, (String.ne_of_lt hgt).symm⟩
        simp [insert, hfar, hfar', ih]

/-- Members with different keys can be added in any order. -/
theorem Members.insert_comm {key key' : String} (h : key ≠ key') (v w : Value)
    (members : Members) :
    (members.insert key v).insert key' w = (members.insert key' w).insert key v := by
  rcases Std.lt_trichotomy key key' with hlt | heq | hgt
  · exact insert_comm_of_lt hlt v w members
  · exact absurd heq h
  · exact (insert_comm_of_lt hgt w v members).symm

theorem Members.lookup_map {α : Type} (members : Members) (f : Value → α) (key : String) :
    (members.map fun m => (m.1, f m.2)).lookup key = (members.get? key).map f := by
  induction members with
  | nil => rfl
  | cons m members ih =>
    rw [List.map_cons, List.lookup_cons, get?_cons, ih]
    by_cases h : key = m.1
    · simp [h]
    · rw [beq_false_of_ne h, if_neg h]

namespace Value

/-- The value with the members of all objects in increasing order of their keys, which
is the form that a reader gives it. -/
def canonical : Value → Value :=
  fold {
    null := .null
    bool := .bool
    number := .number
    string := .string
    array := .array
    object members := .object (Members.sorted members) }

@[simp] theorem canonical_null : null.canonical = null := rfl

@[simp] theorem canonical_bool (b : Bool) : (bool b).canonical = bool b := rfl

@[simp] theorem canonical_number (n : Number) : (number n).canonical = number n := rfl

@[simp] theorem canonical_string (s : String) : (string s).canonical = string s := rfl

@[simp] theorem canonical_array (items : List Value) :
    (array items).canonical = array (items.map canonical) :=
  fold_array _ items

@[simp] theorem canonical_object (members : Members) :
    (object members).canonical =
      object (Members.sorted (members.map fun m => (m.1, m.2.canonical))) :=
  fold_object _ members

/-- Whether the members of all objects are in increasing order of their keys, each key
once. -/
def isSorted : Value → Bool :=
  fold {
    null := true
    bool _ := true
    number _ := true
    string _ := true
    array items := items.all id
    object members := decide (members.Pairwise (·.1 < ·.1)) && members.all (·.2) }

theorem isSorted_array {items : List Value} :
    (array items).isSorted = true ↔ ∀ v ∈ items, v.isSorted = true := by
  have heq : (array items).isSorted = (items.map isSorted).all id := fold_array _ items
  rw [heq, List.all_map, List.all_eq_true]
  rfl

theorem isSorted_object {members : Members} :
    (object members).isSorted = true ↔
      members.Pairwise (·.1 < ·.1) ∧ ∀ m ∈ members, m.2.isSorted = true := by
  have heq : (object members).isSorted =
      (decide ((members.map fun m => (m.1, m.2.isSorted)).Pairwise (·.1 < ·.1)) &&
        (members.map fun m => (m.1, m.2.isSorted)).all (·.2)) := fold_object _ members
  rw [heq, Bool.and_eq_true, decide_eq_true_iff, List.pairwise_map, List.all_map,
    List.all_eq_true]
  rfl

end Value

/-- Sorted members stay as they are. -/
theorem Members.sorted_of_pairwise {members : Members} (h : members.Pairwise (·.1 < ·.1)) :
    members.sorted = members := by
  have hrun : ∀ before : Members, (before ++ members).Pairwise (·.1 < ·.1) →
      members.foldl (fun before m => before.insert m.1 m.2) before = before ++ members := by
    clear h
    induction members with
    | nil => simp
    | cons m members ih =>
      intro before h
      have hlt : ∀ b ∈ before, b.1 < m.1 := fun b hb =>
        (List.pairwise_append.1 h).2.2 b hb m List.mem_cons_self
      rw [List.foldl_cons, insert_of_forall_lt m.2 hlt, ih _ (by simpa using h)]
      simp
  exact hrun [] h

/-- Members that are in order are what is left of sorting the same members. -/
theorem Members.sorted_eq_of_perm {members members' : Members} (hperm : members.Perm members')
    (h : members'.Pairwise (·.1 < ·.1)) : members.sorted = members' := by
  have hkeys : (members.map Prod.fst).Nodup := by
    rw [(hperm.map Prod.fst).nodup_iff, List.Nodup, List.pairwise_map]
    exact h.imp String.ne_of_lt
  have hcomm : ∀ m ∈ members, ∀ m' ∈ members, ∀ before : Members,
      (before.insert m.1 m.2).insert m'.1 m'.2 = (before.insert m'.1 m'.2).insert m.1 m.2 := by
    intro m hm m' hm' before
    by_cases heq : m.1 = m'.1
    · rw [List.inj_on_of_nodup_map hkeys hm hm' heq]
    · exact insert_comm heq m.2 m'.2 before
  have hsorted : members.sorted = members'.sorted := hperm.foldl_eq' hcomm []
  rw [hsorted, sorted_of_pairwise h]

/-- A value with sorted members is the one that a reader gives. -/
theorem Value.canonical_of_isSorted {v : Value} (h : v.isSorted = true) : v.canonical = v := by
  induction v using Value.parts with
  | null => rfl
  | bool b => rfl
  | number n => rfl
  | string s => rfl
  | array items ih =>
    have hitems := isSorted_array.1 h
    rw [canonical_array, List.map_congr_left fun v hv => ih v hv (hitems v hv), List.map_id']
  | object members ih =>
    obtain ⟨hkeys, hmembers⟩ := isSorted_object.1 h
    have hmap : members.map (fun m => (m.1, m.2.canonical)) = members.map id :=
      List.map_congr_left fun m hm => Prod.ext rfl (ih m hm (hmembers m hm))
    rw [canonical_object, hmap, List.map_id, Members.sorted_of_pairwise hkeys]

/-! ## The tree of a text -/

def Literal.ofInteger (n : Int) : Literal :=
  ⟨decide (n < 0), Nat.toDigits 10 n.natAbs, none, none⟩

/-- The tree that the text of a value is read as.  A number that is no integer is left
open. -/
def Value.node : Value → Node :=
  fold {
    null := .null
    bool := .bool
    number
      | .integer n => .number (.ofInteger n)
      | .binary _ => .broken
    string s := .string (some s)
    array := .list
    object members := .object (members.map fun m => (.text (some m.1), m.2)) }

@[simp] theorem Value.node_null : null.node = .null := rfl

@[simp] theorem Value.node_bool (b : Bool) : (bool b).node = .bool b := rfl

@[simp] theorem Value.node_integer (n : Int) :
    (number (.integer n)).node = .number (.ofInteger n) := rfl

@[simp] theorem Value.node_nat (n : Nat) : (nat n).node = .number (.ofInteger n) := rfl

@[simp] theorem Value.node_string (s : String) : (string s).node = .string (some s) := rfl

@[simp] theorem Value.node_array (items : List Value) :
    (array items).node = .list (items.map node) :=
  fold_array _ items

@[simp] theorem Value.node_object (members : Members) :
    (object members).node = .object (members.map fun m => (.text (some m.1), m.2.node)) := by
  have heq : (object members).node =
      .object ((members.map fun m => (m.1, m.2.node)).map fun m => (.text (some m.1), m.2)) :=
    fold_object _ members
  rw [heq, List.map_map]
  rfl

theorem Value.node_ne_null {v : Value} (h : v ≠ null) : v.node ≠ .null := by
  cases v with
  | null => exact absurd rfl h
  | number n => cases n <;> nofun
  | array items => simp
  | object members => simp
  | _ => nofun

end DmlReport.Json
