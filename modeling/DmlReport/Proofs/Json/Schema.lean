import DmlReport.Json.Writer
import DmlReport.Proofs.Json.Shape
import Mathlib.Logic.Relation

/-!
# Values that are laid out differently

The order of the members of an object means nothing, and neither do members that a record
does not have.  A `Schema` says where in a value there are records and which members they
have.  A `Step` changes the layout at one place of a value: it permutes the members of an
object, or adds a member that nobody knows to a record.  Values are `Alike` if some steps,
forwards or backwards, lead from one to the other.
-/

namespace DmlReport.Json

/-- What is known of the members of the objects in a value. -/
inductive Schema where
  /-- Every member of every object counts. -/
  | free
  /-- A record, as an object or as a list in the order of its fields. -/
  | record (fields : List (String × Schema))
  /-- A list of values with one schema. -/
  | list (item : Schema)

namespace Schema

/-- The schema of the member with a key. -/
def member : Schema → String → Schema
  | .record fields, key => (fields.lookup key).getD .free
  | _, _ => .free

/-- The schema of the item at a place. -/
def item : Schema → Nat → Schema
  | .record fields, i => ((fields[i]?).map Prod.snd).getD .free
  | .list s, _ => s
  | .free, _ => .free

/-- Whether a member with a key means nothing. -/
def ignores : Schema → String → Bool
  | .record fields, key => (fields.lookup key).isNone
  | _, _ => false

end Schema

/-! ## Distinct keys -/

namespace Value

/-- Whether no object in a value has two members with the same key. -/
def hasDistinctKeys : Value → Bool :=
  fold {
    null := true
    bool _ := true
    number _ := true
    string _ := true
    array items := items.all id
    object members := decide (members.map Prod.fst).Nodup && members.all (·.2) }

theorem hasDistinctKeys_array {items : List Value} :
    (array items).hasDistinctKeys = true ↔ ∀ v ∈ items, v.hasDistinctKeys = true := by
  have heq : (array items).hasDistinctKeys = (items.map hasDistinctKeys).all id :=
    fold_array _ items
  rw [heq, List.all_map, List.all_eq_true]
  rfl

theorem hasDistinctKeys_object {members : Members} :
    (object members).hasDistinctKeys = true ↔
      (members.map Prod.fst).Nodup ∧ ∀ m ∈ members, m.2.hasDistinctKeys = true := by
  have heq : (object members).hasDistinctKeys =
      (decide ((members.map fun m => (m.1, m.2.hasDistinctKeys)).map Prod.fst).Nodup &&
        (members.map fun m => (m.1, m.2.hasDistinctKeys)).all (·.2)) := fold_object _ members
  rw [heq, Bool.and_eq_true, decide_eq_true_iff, List.map_map, List.all_map, List.all_eq_true]
  rfl

/-- Whether a value is an array or an object. -/
def isContainer : Value → Bool
  | .array _ => true
  | .object _ => true
  | _ => false

theorem exists_bracket {v : Value} (hv : v.isContainer = true) :
    ∃ c ∈ v.compact.toList, c = '[' ∨ c = '\x7b' := by
  rw [compact, String.toList_ofList]
  cases v with
  | null | bool | number | string => cases hv
  | array items =>
    refine ⟨'[', ?_, Or.inl rfl⟩
    cases items <;> exact List.mem_cons_self
  | object members =>
    refine ⟨'\x7b', ?_, Or.inr rfl⟩
    cases members <;> exact List.mem_cons_self

end Value

/-! ## Steps -/

/-- The layout of a value with a schema changes at one place. -/
inductive Step : Schema → Value → Value → Prop
  /-- The members of an object change places. -/
  | permute {s : Schema} {members members' : Members} (hperm : members.Perm members') :
      Step s (.object members) (.object members')
  /-- A record gets a member that means nothing. -/
  | insert {s : Schema} {members : Members} {name : String} {value : Value}
      (hignored : s.ignores name = true) (hfresh : name ∉ members.map Prod.fst)
      (hvalue : value.hasDistinctKeys = true) :
      Step s (.object members) (.object ((name, value) :: members))
  /-- An item of an array changes. -/
  | item {s : Schema} {before after : List Value} {v w : Value}
      (hstep : Step (s.item before.length) v w) :
      Step s (.array (before ++ v :: after)) (.array (before ++ w :: after))
  /-- The value of a member changes. -/
  | member {s : Schema} {before after : Members} {key : String} {v w : Value}
      (hstep : Step (s.member key) v w) :
      Step s (.object (before ++ (key, v) :: after)) (.object (before ++ (key, w) :: after))

/-- Values with a schema that differ in their layout only. -/
def Alike (s : Schema) : Value → Value → Prop :=
  Relation.EqvGen (Step s)

namespace Step

variable {s : Schema} {v w : Value}

theorem isContainer (h : Step s v w) : v.isContainer = true ∧ w.isContainer = true := by
  cases h <;> exact ⟨rfl, rfl⟩

theorem hasDistinctKeys_iff (h : Step s v w) :
    v.hasDistinctKeys = true ↔ w.hasDistinctKeys = true := by
  induction h with
  | permute hperm =>
    rw [Value.hasDistinctKeys_object, Value.hasDistinctKeys_object, (hperm.map _).nodup_iff]
    simp only [hperm.mem_iff]
  | insert _ hfresh hvalue =>
    rw [Value.hasDistinctKeys_object, Value.hasDistinctKeys_object, List.map_cons,
      List.nodup_cons, List.forall_mem_cons]
    simp [hfresh, hvalue]
  | item _ ih =>
    rw [Value.hasDistinctKeys_array, Value.hasDistinctKeys_array]
    simp only [List.forall_mem_append, List.forall_mem_cons, ih]
  | member _ ih =>
    rw [Value.hasDistinctKeys_object, Value.hasDistinctKeys_object]
    simp only [List.map_append, List.map_cons, List.forall_mem_append, List.forall_mem_cons, ih]

end Step

theorem Alike.hasDistinctKeys_iff {s : Schema} {v w : Value} (h : Alike s v w) :
    v.hasDistinctKeys = true ↔ w.hasDistinctKeys = true := by
  induction h with
  | rel _ _ hstep => exact hstep.hasDistinctKeys_iff
  | refl _ => exact Iff.rfl
  | symm _ _ _ ih => exact ih.symm
  | trans _ _ _ _ _ ih ih' => exact ih.trans ih'

/-- Scalars have one layout only. -/
theorem Alike.eq_of_scalar {s : Schema} {v w : Value} (h : Alike s v w)
    (hscalar : v.isContainer = false ∨ w.isContainer = false) : v = w := by
  have hboth : v = w ∨ v.isContainer = true ∧ w.isContainer = true := by
    clear hscalar
    induction h with
    | rel _ _ hstep => exact Or.inr hstep.isContainer
    | refl _ => exact Or.inl rfl
    | symm _ _ _ ih => exact ih.imp Eq.symm And.symm
    | trans _ _ _ _ _ ih ih' =>
      rcases ih with rfl | ⟨hx, hy⟩
      · exact ih'
      · rcases ih' with rfl | ⟨-, hz⟩
        · exact Or.inr ⟨hx, hy⟩
        · exact Or.inr ⟨hx, hz⟩
  rcases hboth with heq | ⟨hv, hw⟩
  · exact heq
  · simp [hv, hw] at hscalar

end DmlReport.Json
