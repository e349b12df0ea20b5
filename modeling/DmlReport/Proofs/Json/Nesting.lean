import DmlReport.Proofs.Json.Written
import Mathlib.Logic.Basic
import Mathlib.Tactic.SplitIfs

/-!
# How deep a text may be nested

Decoding the tree of a written value gives the value with sorted members, if no more
containers are open at once than are allowed, and otherwise refuses it
(`Value.decode_node`).  Nothing else of the value has a part in that, so a text is
refused for its nesting alone.
-/

namespace DmlReport.Json

namespace Value

variable {opened : Nat}

/-- A value is decoded within open containers exactly if it fits. -/
def Decodes (v : Value) : Prop :=
  ∀ opened ≤ maxDepth, decode opened v.node =
    if opened + v.depth ≤ maxDepth then .ok v.canonical else .error .malformed

variable (hopened : opened ≤ maxDepth)

include hopened

theorem decodeItems_node {items : List Value} (hitems : ∀ v ∈ items, v.Decodes) :
    decodeItems opened (items.map node) =
      if ∀ v ∈ items, opened + v.depth ≤ maxDepth then .ok (items.map canonical)
      else .error .malformed := by
  induction items with
  | nil => rfl
  | cons item items ih =>
    obtain ⟨hitem, hitems⟩ := List.forall_mem_cons.1 hitems
    rw [List.map_cons, decodeItems, hitem _ hopened, ih hitems, List.map_cons]
    simp only [List.forall_mem_cons, ite_and]
    split_ifs <;> rfl

theorem decodeMembers_node {members : Members} (hmembers : ∀ m ∈ members, m.2.Decodes)
    (before : Members) :
    decodeMembers opened (members.map fun m => (.text (some m.1), m.2.node)) before =
      if ∀ m ∈ members, opened + m.2.depth ≤ maxDepth then
        .ok ((members.map fun m => (m.1, m.2.canonical)).foldl
          (fun before m => before.insert m.1 m.2) before)
      else .error .malformed := by
  induction members generalizing before with
  | nil => rfl
  | cons m members ih =>
    obtain ⟨hvalue, hmembers⟩ := List.forall_mem_cons.1 hmembers
    have hrest := ih hmembers (before.insert m.1 m.2.canonical)
    rw [List.map_cons, decodeMembers, hvalue _ hopened, List.map_cons, List.foldl_cons]
    simp only [List.forall_mem_cons, ite_and, ← hrest]
    split_ifs <;> rfl

omit hopened

/-- A value with integers only is decoded exactly if it fits, as the value with sorted
members. -/
theorem decode_node {v : Value} (hv : v.isIntegral = true) : v.Decodes := by
  induction v using parts with
  | null => exact fun _ hopened => (if_pos hopened).symm
  | bool b => exact fun _ hopened => (if_pos hopened).symm
  | number n =>
    cases n with
    | integer n =>
      intro opened hopened
      obtain ⟨hleast, hgreatest⟩ := isIntegral_integer.1 hv
      rw [node_integer, decode, Literal.value?_ofInteger hleast hgreatest]
      exact (if_pos hopened).symm
    | binary x => cases hv
  | string s => exact fun _ hopened => (if_pos hopened).symm
  | array items ih =>
    intro opened hopened
    have hitems := isIntegral_array.1 hv
    rw [node_array, decode, canonical_array]
    simp only [add_depth_array_le_iff, ite_and]
    by_cases hroom : opened < maxDepth
    · rw [if_pos hroom, if_pos hroom, decodeItems_node hroom fun v h => ih v h (hitems v h)]
      split_ifs <;> rfl
    · rw [if_neg hroom, if_neg hroom]
  | object members ih =>
    intro opened hopened
    have hmembers := isIntegral_object.1 hv
    rw [node_object, decode, canonical_object]
    simp only [add_depth_object_le_iff, ite_and]
    by_cases hroom : opened < maxDepth
    · rw [if_pos hroom, if_pos hroom, decodeMembers_node hroom fun m h => ih m h (hmembers m h)]
      split_ifs <;> rfl
    · rw [if_neg hroom, if_neg hroom]

/-- The text of a value with integers only, in either style, gives the value back unless
it is nested too deeply, and then it is refused. -/
theorem decodeText_node {style : Style} (hstyle : style.Spaced) {v : Value}
    (hv : v.isIntegral = true) :
    decodeText decode (String.ofList (Writer.write style 0 v)) =
      if v.depth ≤ maxDepth then .ok v.canonical else .error .malformed := by
  rw [decodeText_write decode hstyle hv, decode_node hv 0 (Nat.zero_le _), Nat.zero_add]

end Value

end DmlReport.Json
