import DmlReport.Proofs.Json.Decoded
import DmlReport.Proofs.Text.ByteOrder

/-!
# Members are read in order

Whatever a text holds, the objects of the value that is decoded from it have their members
in strictly increasing order of their keys (`Value.isSorted_of_decode`), which is the order
of the bytes of the keys (`Value.ascends_of_isSorted`).
-/

namespace DmlReport.Json

namespace Value

/-- A node is decoded as a value with sorted members. -/
def DecodesSorted (n : Node) : Prop :=
  ∀ depth v, decode depth n = .ok v → v.isSorted = true

/-- Every decoded value has its members in order. -/
theorem isSorted_of_decode (n : Node) : DecodesSorted n := by
  have hbuilt : Built fun _ v => v.isSorted = true := by
    refine ⟨?_, ?_, ?_⟩
    · intro _ v hscalar
      cases v <;> first | rfl | cases hscalar
    · exact fun _ _ _ hitems => isSorted_array.2 hitems
    · exact fun _ _ _ hkeys hmembers => isSorted_object.2 ⟨hkeys, hmembers⟩
  exact hbuilt.of_decode n

/-! ## The order of the bytes -/

/-- Whether the members of all objects are in strictly increasing order of the bytes of
their keys. -/
def ascends : Value → Bool :=
  fold {
    null := true
    bool _ := true
    number _ := true
    string _ := true
    array items := items.all id
    object members :=
      decide (members.Pairwise fun m m' => Text.encode m.1.toList < Text.encode m'.1.toList) &&
        members.all (·.2) }

theorem ascends_array {items : List Value} :
    (array items).ascends = true ↔ ∀ v ∈ items, v.ascends = true := by
  have heq : (array items).ascends = (items.map ascends).all id := fold_array _ items
  rw [heq, List.all_map, List.all_eq_true]
  rfl

theorem ascends_object {members : Members} :
    (object members).ascends = true ↔
      (members.Pairwise fun m m' => Text.encode m.1.toList < Text.encode m'.1.toList) ∧
        ∀ m ∈ members, m.2.ascends = true := by
  have heq : (object members).ascends =
      (decide ((members.map fun m => (m.1, m.2.ascends)).Pairwise
          fun m m' => Text.encode m.1.toList < Text.encode m'.1.toList) &&
        (members.map fun m => (m.1, m.2.ascends)).all (·.2)) := fold_object _ members
  rw [heq, Bool.and_eq_true, decide_eq_true_iff, List.pairwise_map, List.all_map,
    List.all_eq_true]
  rfl

theorem ascends_of_isSorted {v : Value} (h : v.isSorted = true) : v.ascends = true := by
  induction v using parts with
  | null | bool | number | string => rfl
  | array items ih =>
    have hitems := isSorted_array.1 h
    exact ascends_array.2 fun v hv => ih v hv (hitems v hv)
  | object members ih =>
    obtain ⟨hkeys, hmembers⟩ := isSorted_object.1 h
    exact ascends_object.2 ⟨hkeys.imp Text.encode_toList_lt, fun m hm => ih m hm (hmembers m hm)⟩

end Value

end DmlReport.Json
