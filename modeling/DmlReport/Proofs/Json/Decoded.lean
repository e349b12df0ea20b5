import DmlReport.Proofs.Json.Schema

/-!
# What a reader builds

A decoded value is built from the leaves up: a container stands where one more could be
opened, its parts are decoded one level deeper, and the members of an object are inserted
in the order of their keys.  So whatever holds of scalars, and of such containers if it
holds of their parts, holds of every decoded value (`Value.Built.of_decode`).  In particular, no
decoded value is nested deeper than a text may be (`Value.add_depth_le_of_decode`).
-/

namespace DmlReport.Json

/-! ## Insertion keeps the order -/

namespace Members

theorem mem_insert {key : String} {v : Value} {members : Members} {m : String × Value}
    (h : m ∈ members.insert key v) : m = (key, v) ∨ m ∈ members := by
  induction members with
  | nil => exact Or.inl (List.mem_singleton.1 h)
  | cons first members ih =>
    rw [insert] at h
    split at h
    · exact List.mem_cons.1 h
    · split at h
      · rcases List.mem_cons.1 h with h | h
        · exact Or.inl h
        · exact Or.inr (List.mem_cons_of_mem _ h)
      · rcases List.mem_cons.1 h with rfl | h
        · exact Or.inr List.mem_cons_self
        · exact (ih h).imp_right (List.mem_cons_of_mem _)

theorem pairwise_insert (key : String) (v : Value) {members : Members}
    (h : members.Pairwise (·.1 < ·.1)) : (members.insert key v).Pairwise (·.1 < ·.1) := by
  induction members with
  | nil => exact List.pairwise_singleton _ _
  | cons first members ih =>
    obtain ⟨hfirst, hmembers⟩ := List.pairwise_cons.1 h
    rw [insert]
    split
    · rename_i hlt
      refine List.pairwise_cons.2 ⟨List.forall_mem_cons.2 ⟨hlt, fun m hm => ?_⟩, h⟩
      exact String.lt_trans hlt (hfirst m hm)
    · rename_i hle
      split
      · rename_i heq
        refine List.pairwise_cons.2 ⟨fun m hm => ?_, hmembers⟩
        rw [heq]
        exact hfirst m hm
      · rename_i hne
        refine List.pairwise_cons.2 ⟨fun m hm => ?_, ih hmembers⟩
        rcases mem_insert hm with rfl | hm
        · rcases Std.lt_trichotomy first.1 key with hlt | heq | hgt
          · exact hlt
          · exact absurd heq.symm hne
          · exact absurd hgt hle
        · exact hfirst m hm

end Members

/-! ## Decoded values -/

/-- What holds of scalars, and of containers if it holds of their parts, holds of every
node. -/
theorem Node.parts {P : Node → Prop} (broken : P .broken) (null : P .null)
    (bool : ∀ b, P (.bool b)) (number : ∀ n, P (.number n)) (string : ∀ s, P (.string s))
    (list : ∀ items, (∀ n ∈ items, P n) → P (.list items))
    (object : ∀ members : List (Key × Node), (∀ m ∈ members, P m.2) → P (.object members))
    (n : Node) : P n :=
  @Node.rec P (fun items => ∀ n ∈ items, P n) (fun members => ∀ m ∈ members, P m.2)
    (fun m => P m.2)
    broken null bool number string list object
    (by simp) (fun _ _ hn hitems => List.forall_mem_cons.2 ⟨hn, hitems⟩)
    (by simp) (fun _ _ hm hmembers => List.forall_mem_cons.2 ⟨hm, hmembers⟩)
    (fun _ _ hn => hn) n

namespace Value

variable {P : Nat → Value → Prop}

/-- A property of values at a depth passes from the parts of what a reader builds to the
whole. -/
structure Built (P : Nat → Value → Prop) : Prop where
  scalar : ∀ depth v, v.isContainer = false → P depth v
  array : ∀ depth items, depth < maxDepth → (∀ v ∈ items, P (depth + 1) v) →
    P depth (.array items)
  object : ∀ depth (members : Members), depth < maxDepth → members.Pairwise (·.1 < ·.1) →
    (∀ m ∈ members, P (depth + 1) m.2) → P depth (.object members)

/-- All values that a node is decoded as have a property. -/
def DecodesAs (P : Nat → Value → Prop) (n : Node) : Prop :=
  ∀ depth v, decode depth n = .ok v → P depth v

theorem of_decodeItems {items : List Node} (hitems : ∀ n ∈ items, DecodesAs P n) {depth : Nat}
    {vs : List Value} (h : decodeItems depth items = .ok vs) : ∀ v ∈ vs, P depth v := by
  induction items generalizing vs with
  | nil =>
    cases h
    simp
  | cons n items ih =>
    obtain ⟨hn, hitems⟩ := List.forall_mem_cons.1 hitems
    rw [decodeItems] at h
    cases hv : decode depth n with
    | error e => simp [hv] at h
    | ok v =>
      cases hvs : decodeItems depth items with
      | error e => simp [hv, hvs] at h
      | ok vs' =>
        simp only [hv, hvs, Except.ok.injEq] at h
        rw [← h]
        exact List.forall_mem_cons.2 ⟨hn depth v hv, ih hitems hvs⟩

theorem of_decodeMembers {members : List (Key × Node)} (hmembers : ∀ m ∈ members, DecodesAs P m.2)
    {depth : Nat} {before after : Members} (hsorted : before.Pairwise (·.1 < ·.1))
    (hbefore : ∀ m ∈ before, P depth m.2) (h : decodeMembers depth members before = .ok after) :
    after.Pairwise (·.1 < ·.1) ∧ ∀ m ∈ after, P depth m.2 := by
  induction members generalizing before with
  | nil =>
    cases h
    exact ⟨hsorted, hbefore⟩
  | cons m members ih =>
    obtain ⟨key, n⟩ := m
    obtain ⟨hn, hrest⟩ := List.forall_mem_cons.1 hmembers
    rcases key with _ | _ | key
    · cases h
    · cases h
    · rw [decodeMembers] at h
      cases hv : decode depth n with
      | error e => simp [hv] at h
      | ok v =>
        simp only [hv] at h
        refine ih hrest (Members.pairwise_insert key v hsorted) ?_ h
        intro m hm
        rcases Members.mem_insert hm with rfl | hm
        · exact hn depth v hv
        · exact hbefore m hm

/-- Every decoded value has what a reader builds up. -/
theorem Built.of_decode (hP : Built P) (n : Node) : DecodesAs P n := by
  induction n using Node.parts with
  | broken => exact nofun
  | null | bool b =>
    intro depth v h
    cases h
    exact hP.scalar depth _ rfl
  | number n =>
    intro depth v h
    rw [decode] at h
    split at h <;> cases h
    exact hP.scalar depth _ rfl
  | string s =>
    intro depth v h
    cases s <;> cases h
    exact hP.scalar depth _ rfl
  | list items ih =>
    intro depth v h
    rw [decode] at h
    split at h
    · rename_i hroom
      cases hvs : decodeItems (depth + 1) items with
      | error e => simp [hvs] at h
      | ok vs =>
        simp only [hvs, Except.ok.injEq] at h
        rw [← h]
        exact hP.array depth vs hroom (of_decodeItems ih hvs)
    · cases h
  | object members ih =>
    intro depth v h
    rw [decode] at h
    split at h
    · rename_i hroom
      cases hms : decodeMembers (depth + 1) members [] with
      | error e => simp [hms] at h
      | ok ms =>
        simp only [hms, Except.ok.injEq] at h
        rw [← h]
        obtain ⟨hsorted, hmembers⟩ := of_decodeMembers ih List.Pairwise.nil (by simp) hms
        exact hP.object depth ms hroom hsorted hmembers
    · cases h

/-- Only null is decoded as null. -/
theorem eq_null_of_decode {n : Node} {depth : Nat} (h : decode depth n = .ok null) : n = .null := by
  cases n with
  | null => rfl
  | broken | bool => cases h
  | number =>
    rw [decode] at h
    split at h <;> cases h
  | string s => cases s <;> cases h
  | list | object =>
    rw [decode] at h
    split at h
    · split at h <;> cases h
    · cases h

/-! ## Room -/

theorem depth_of_scalar {v : Value} (h : v.isContainer = false) : v.depth = 0 := by
  cases v <;> first | rfl | cases h

/-- A value is decoded only where there is room for it. -/
theorem add_depth_le_of_decode {n : Node} {opened : Nat} (hopened : opened ≤ maxDepth) {v : Value}
    (h : decode opened n = .ok v) : opened + v.depth ≤ maxDepth := by
  have hbuilt : Built fun opened v => opened ≤ maxDepth → opened + v.depth ≤ maxDepth := by
    refine ⟨?_, ?_, ?_⟩
    · intro opened v hscalar hopened
      rw [depth_of_scalar hscalar]
      exact hopened
    · intro opened items hroom hitems _
      exact add_depth_array_le_iff.2 ⟨hroom, fun v hv => hitems v hv hroom⟩
    · intro opened members hroom _ hmembers _
      exact add_depth_object_le_iff.2 ⟨hroom, fun m hm => hmembers m hm hroom⟩
  exact hbuilt.of_decode n opened v h hopened

end Value

end DmlReport.Json
