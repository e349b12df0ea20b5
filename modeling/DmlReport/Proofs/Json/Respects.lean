import DmlReport.Proofs.Json.Numeral
import DmlReport.Proofs.Json.Schema

/-!
# Decoders that do not see the layout

A decoder respects a schema if, on the trees of values with distinct keys, a step of the
schema changes neither whether it succeeds nor what it gives; which fault it names may
change.  Decoders of scalars refuse all containers, so there is nothing to show.  The
decoder of any value builds its objects by insertion, and insertions of distinct keys
commute (`Members.insert_comm`).
-/

namespace DmlReport.Json

variable {α β γ δ ε : Type}

/-- The members of an object as they are read. -/
def Value.memberTrees (members : Members) : List (Key × Node) :=
  members.map fun m => (.text (some m.1), m.2.tree)

/-! ## Outcomes that agree -/

/-- Both computations fail, or both give results that are related. -/
def Agree (R : α → β → Prop) : Except ε α → Except ε β → Prop
  | .ok a, .ok b => R a b
  | .error _, .error _ => True
  | _, _ => False

namespace Agree

variable {R : α → β → Prop} {S : γ → δ → Prop}

theorem rfl {x : Except ε α} : Agree Eq x x := by
  cases x with
  | ok a => exact Eq.refl a
  | error e => trivial

theorem bind {x : Except ε α} {y : Except ε β} {f : α → Except ε γ} {g : β → Except ε δ}
    (hx : Agree R x y) (hf : ∀ a b, R a b → Agree S (f a) (g b)) : Agree S (x >>= f) (y >>= g) := by
  cases x with
  | ok a =>
    cases y with
    | ok b => exact hf a b hx
    | error _ => exact hx.elim
  | error _ =>
    cases y with
    | ok _ => exact hx.elim
    | error _ => trivial

theorem map {x y : Except ε α} (h : Agree Eq x y) (f : α → γ) : Agree Eq (f <$> x) (f <$> y) :=
  bind (f := fun a => .ok (f a)) (g := fun a => .ok (f a)) h fun _ _ heq => congrArg f heq

/-- Computations that agree on their results fail both, or give one result. -/
theorem outcomes {x y : Except ε α} (h : Agree Eq x y) :
    (∃ a, x = .ok a ∧ y = .ok a) ∨ ∃ e e', x = .error e ∧ y = .error e' := by
  cases x with
  | ok a =>
    cases y with
    | ok b => exact Or.inl ⟨b, congrArg Except.ok h, Eq.refl _⟩
    | error _ => exact h.elim
  | error e =>
    cases y with
    | ok _ => exact h.elim
    | error e' => exact Or.inr ⟨e, e', Eq.refl _, Eq.refl _⟩

theorem trans {x y z : Except ε α} (h : Agree Eq x y) (h' : Agree Eq y z) : Agree Eq x z := by
  rcases h.outcomes with ⟨a, rfl, rfl⟩ | ⟨e, e', rfl, rfl⟩
  · exact h'
  · cases z with
    | ok _ => exact h'.elim
    | error _ => trivial

theorem toOption_eq {x y : Except ε α} (h : Agree Eq x y) : x.toOption = y.toOption := by
  rcases h.outcomes with ⟨a, rfl, rfl⟩ | ⟨e, e', rfl, rfl⟩
  · exact Eq.refl _
  · exact Eq.refl _

theorem of_errors {x : Except ε α} {y : Except ε β} (hx : ∃ e, x = .error e)
    (hy : ∃ e, y = .error e) : Agree R x y := by
  obtain ⟨e, rfl⟩ := hx
  obtain ⟨e', rfl⟩ := hy
  trivial

end Agree

/-- A decoder gives the same for values that differ by a step. -/
def Respects (s : Schema) (decode : Decoder α) : Prop :=
  ∀ depth v w, v.hasDistinctKeys = true → Step s v w →
    Agree Eq (decode depth v.tree) (decode depth w.tree)

/-- A decoder that respects a schema decodes all alike values alike. -/
theorem Respects.of_alike {s : Schema} {decode : Decoder α} (hdecode : Respects s decode)
    (depth : Nat) {v w : Value} (hkeys : v.hasDistinctKeys = true) (h : Alike s v w) :
    (decode depth v.tree).toOption = (decode depth w.tree).toOption := by
  induction h with
  | rel v w hstep => exact (hdecode depth v w hkeys hstep).toOption_eq
  | refl v => rfl
  | symm v w h ih => exact (ih ((Alike.hasDistinctKeys_iff h).2 hkeys)).symm
  | trans u v w h _ ih ih' =>
    exact (ih hkeys).trans (ih' ((Alike.hasDistinctKeys_iff h).1 hkeys))

/-! ## Scalars -/

variable (α) in
theorem mismatch_error (wanted : String) (n : Node) :
    ∃ e, (mismatch wanted n : Except Fault α) = .error e := by
  unfold mismatch
  cases n.found with
  | ok found => exact ⟨_, rfl⟩
  | error e => exact ⟨_, rfl⟩

/-- A decoder that has no use for containers respects every schema. -/
theorem respects_of_mismatch {decode : Decoder α} (wanted : String)
    (hlist : ∀ depth items, decode depth (.list items) = mismatch wanted (.list items))
    (hobject : ∀ depth members, decode depth (.object members) = mismatch wanted (.object members))
    (s : Schema) : Respects s decode := by
  have herror (depth : Nat) {v : Value} (hv : v.isContainer = true) :
      ∃ e, decode depth v.tree = .error e := by
    cases v with
    | array items =>
      rw [Value.tree_array, hlist]
      exact mismatch_error α wanted _
    | object members =>
      rw [Value.tree_object, hobject]
      exact mismatch_error α wanted _
    | _ => cases hv
  intro depth v w _ hstep
  obtain ⟨hv, hw⟩ := hstep.isContainer
  exact .of_errors (herror depth hv) (herror depth hw)

theorem text_respects (s : Schema) : Respects s text := by
  apply respects_of_mismatch "a string"
  · exact fun _ _ => rfl
  · exact fun _ _ => rfl

theorem natBelow_respects (bound : Nat) (wanted : String) (s : Schema) :
    Respects s (natBelow bound wanted) := by
  apply respects_of_mismatch wanted
  · exact fun _ _ => rfl
  · exact fun _ _ => rfl

theorem Respects.map {s : Schema} {decode : Decoder α} (h : Respects s decode) (f : α → β) :
    Respects s fun depth n => f <$> decode depth n :=
  fun depth v w hkeys hstep => (h depth v w hkeys hstep).map f

theorem uint16_respects (s : Schema) : Respects s uint16 :=
  (natBelow_respects UInt16.size "u16" s).map UInt16.ofNat

theorem uint32_respects (s : Schema) : Respects s uint32 :=
  (natBelow_respects UInt32.size "u32" s).map UInt32.ofNat

/-- A name that is a key stands alone in its object, with the value null. -/
theorem oneOf_object {names : List (String × α)} {depth : Nat} {members : Members} {a : α}
    (h : oneOf names depth (Value.object members).tree = .ok a) :
    ∃ name, members = [(name, .null)] := by
  rw [Value.tree_object] at h
  rcases members with _ | ⟨⟨name, v⟩, rest⟩
  · cases h
  · rw [List.map_cons, oneOf] at h
    cases henter : enter depth with
    | error e =>
      rw [henter] at h
      cases h
    | ok inside =>
      cases hnamed : named names name with
      | error e =>
        rw [henter, hnamed] at h
        cases h
      | ok b =>
        rw [henter, hnamed] at h
        obtain ⟨e, herror⟩ := mismatch_error α "unit" v.tree
        cases hv : v.tree with
        | null =>
          have hnull : v = .null := by
            cases v with
            | null => rfl
            | array items => simp at hv
            | object members => simp at hv
            | _ => cases hv
          rw [hv] at h
          cases rest with
          | nil => exact ⟨name, by rw [hnull]⟩
          | cons m rest => cases h
        | _ =>
          rw [hv] at h herror
          exact absurd (h.symm.trans herror) nofun

theorem oneOf_respects (names : List (String × α)) : Respects .free (oneOf names) := by
  have herror {depth : Nat} {members : Members} (h : ∀ name, members ≠ [(name, .null)]) :
      ∃ e, oneOf names depth (Value.object members).tree = .error e := by
    cases hone : oneOf names depth (Value.object members).tree with
    | ok a =>
      obtain ⟨name, heq⟩ := oneOf_object hone
      exact absurd heq (h name)
    | error e => exact ⟨e, rfl⟩
  intro depth v w _ hstep
  cases hstep with
  | @permute _ members members' hperm =>
    by_cases h : ∃ name, members = [(name, .null)]
    · obtain ⟨name, rfl⟩ := h
      rw [← List.singleton_perm.1 hperm]
      exact .rfl
    · rw [not_exists] at h
      refine .of_errors (herror h) (herror fun name heq => h name ?_)
      rw [heq] at hperm
      exact List.perm_singleton.1 hperm
  | insert hignored => cases hignored
  | item =>
    rw [Value.tree_array, Value.tree_array]
    trivial
  | @member _ before after key v w hstep =>
    -- The value that changes is a container, and so not null.
    obtain ⟨hv, hw⟩ := hstep.isContainer
    have hne {u : Value} (hu : u.isContainer = true) (name : String) :
        before ++ (key, u) :: after ≠ [(name, .null)] := by
      intro heq
      have hmem : (key, u) ∈ [(name, Value.null)] := by
        rw [← heq]
        simp
      rw [List.mem_singleton, Prod.mk.injEq] at hmem
      rw [hmem.2] at hu
      cases hu
    exact .of_errors (herror (hne hv)) (herror (hne hw))

/-! ## Null and lists -/

theorem Value.tree_ne_null {v : Value} (h : v.isContainer = true) : v.tree ≠ .null := by
  cases v with
  | array items => simp
  | object members => simp
  | _ => cases h

theorem optional_of_ne_null {decode : Decoder α} {depth : Nat} {n : Node} (h : n ≠ .null) :
    optional decode depth n = some <$> decode depth n := by
  unfold optional
  split
  · exact absurd rfl h
  · rfl

theorem Respects.optional {s : Schema} {decode : Decoder α} (h : Respects s decode) :
    Respects s (optional decode) := by
  intro depth v w hkeys hstep
  obtain ⟨hv, hw⟩ := hstep.isContainer
  rw [optional_of_ne_null (Value.tree_ne_null hv), optional_of_ne_null (Value.tree_ne_null hw)]
  exact (h depth v w hkeys hstep).map some

theorem Agree.mapM_hole {decode : Node → Except Fault α} {m n : Node}
    (h : Agree Eq (decode m) (decode n)) (before after : List Node) :
    Agree Eq ((before ++ m :: after).mapM decode) ((before ++ n :: after).mapM decode) := by
  induction before with
  | nil =>
    rw [List.nil_append, List.nil_append, List.mapM_cons, List.mapM_cons]
    refine Agree.bind h fun a b hab => ?_
    rw [hab]
    exact .rfl
  | cons first before ih =>
    rw [List.cons_append, List.cons_append, List.mapM_cons, List.mapM_cons]
    refine Agree.bind .rfl fun a b hab => ?_
    rw [hab]
    refine Agree.bind ih fun as bs habs => ?_
    rw [habs]
    exact .rfl

theorem list_object {decode : Decoder α} {depth : Nat} (members : Members) :
    ∃ e, Json.list decode depth (Value.object members).tree = .error e := by
  rw [Value.tree_object]
  exact mismatch_error (List α) "a sequence" (.object (Value.memberTrees members))

theorem Respects.list {s : Schema} {decode : Decoder α} (h : Respects s decode) :
    Respects (.list s) (list decode) := by
  intro depth v w hkeys hstep
  cases hstep with
  | permute | insert | member => exact .of_errors (list_object _) (list_object _)
  | @item _ before after v w hitem =>
    have hv : v.hasDistinctKeys = true := Value.hasDistinctKeys_array.1 hkeys v (by simp)
    rw [Value.tree_array, Value.tree_array, List.map_append, List.map_append, List.map_cons,
      List.map_cons]
    refine Agree.bind (x := enter depth) (y := enter depth) .rfl fun a b hab => ?_
    rw [hab]
    exact .mapM_hole (h b v w hv hitem) _ _

/-! ## Any value -/

namespace Value

theorem decodeMembers_perm {members members' : Members} (hperm : members.Perm members')
    (hkeys : (members.map Prod.fst).Nodup) (depth : Nat) (taken : Members) :
    Agree Eq (decodeMembers depth (memberTrees members) taken)
      (decodeMembers depth (memberTrees members') taken) := by
  induction hperm generalizing taken with
  | nil => exact .rfl
  | cons m _ ih =>
    have hrest := ih (List.nodup_cons.1 hkeys).2
    show Agree Eq (decodeMembers depth ((.text (some m.1), m.2.tree) :: memberTrees _) taken)
      (decodeMembers depth ((.text (some m.1), m.2.tree) :: memberTrees _) taken)
    rw [decodeMembers, decodeMembers]
    cases decode depth m.2.tree with
    | ok v => exact hrest _
    | error e => trivial
  | swap m m' members =>
    have hne : m'.1 ≠ m.1 := by
      intro heq
      simp [heq] at hkeys
    show Agree Eq (decodeMembers depth ((.text (some m'.1), m'.2.tree) ::
        (.text (some m.1), m.2.tree) :: memberTrees members) taken)
      (decodeMembers depth ((.text (some m.1), m.2.tree) ::
        (.text (some m'.1), m'.2.tree) :: memberTrees members) taken)
    simp only [decodeMembers]
    cases decode depth m.2.tree with
    | ok v =>
      cases decode depth m'.2.tree with
      | ok w =>
        show Agree Eq (decodeMembers depth (memberTrees members) _)
          (decodeMembers depth (memberTrees members) _)
        rw [Members.insert_comm hne]
        exact .rfl
      | error e => trivial
    | error e =>
      cases decode depth m'.2.tree with
      | ok w => trivial
      | error e => trivial
  | trans h _ ih ih' =>
    refine Agree.trans (ih hkeys taken) (ih' ?_ taken)
    exact (h.map Prod.fst).nodup_iff.1 hkeys

theorem decodeItems_hole {depth : Nat} {v w : Value}
    (h : Agree Eq (decode depth v.tree) (decode depth w.tree)) (before after : List Value) :
    Agree Eq (decodeItems depth ((before ++ v :: after).map tree))
      (decodeItems depth ((before ++ w :: after).map tree)) := by
  induction before with
  | nil =>
    simp only [List.nil_append, List.map_cons, decodeItems]
    rcases h.outcomes with ⟨u, hv, hw⟩ | ⟨e, e', hv, hw⟩ <;> rw [hv, hw]
    · exact .rfl
    · trivial
  | cons first before ih =>
    simp only [List.cons_append, List.map_cons, decodeItems]
    cases decode depth first.tree with
    | error e => trivial
    | ok u =>
      rcases ih.outcomes with ⟨us, hv, hw⟩ | ⟨e, e', hv, hw⟩ <;> rw [hv, hw]
      · exact .rfl
      · trivial

theorem decodeMembers_hole {depth : Nat} {v w : Value}
    (h : Agree Eq (decode depth v.tree) (decode depth w.tree)) (key : String)
    (before after taken : Members) :
    Agree Eq (decodeMembers depth (memberTrees (before ++ (key, v) :: after)) taken)
      (decodeMembers depth (memberTrees (before ++ (key, w) :: after)) taken) := by
  induction before generalizing taken with
  | nil =>
    simp only [memberTrees, List.nil_append, List.map_cons, decodeMembers]
    rcases h.outcomes with ⟨u, hv, hw⟩ | ⟨e, e', hv, hw⟩ <;> rw [hv, hw]
    · exact .rfl
    · trivial
  | cons m before ih =>
    simp only [memberTrees, List.cons_append, List.map_cons, decodeMembers]
    cases decode depth m.2.tree with
    | error e => trivial
    | ok u => exact ih (taken.insert m.1 u)

theorem decode_array_agree {depth : Nat} {items items' : List Value}
    (h : Agree Eq (decodeItems (depth + 1) (items.map tree))
      (decodeItems (depth + 1) (items'.map tree))) :
    Agree Eq (decode depth (array items).tree) (decode depth (array items').tree) := by
  rw [tree_array, tree_array, decode, decode]
  split
  · rcases h.outcomes with ⟨us, hv, hw⟩ | ⟨e, e', hv, hw⟩ <;> rw [hv, hw]
    · exact .rfl
    · trivial
  · trivial

theorem decode_object_agree {depth : Nat} {members members' : Members}
    (h : Agree Eq (decodeMembers (depth + 1) (memberTrees members) [])
      (decodeMembers (depth + 1) (memberTrees members') [])) :
    Agree Eq (decode depth (object members).tree) (decode depth (object members').tree) := by
  unfold memberTrees at h
  rw [tree_object, tree_object, decode, decode]
  split
  · rcases h.outcomes with ⟨us, hv, hw⟩ | ⟨e, e', hv, hw⟩ <;> rw [hv, hw]
    · exact .rfl
    · trivial
  · trivial

end Value

theorem Value.decode_respects : Respects .free Value.decode := by
  intro depth v w hkeys hstep
  generalize hfree : Schema.free = s at hstep
  induction hstep generalizing depth with
  | permute hperm =>
    have hnodup := (hasDistinctKeys_object.1 hkeys).1
    exact decode_object_agree (decodeMembers_perm hperm hnodup (depth + 1) [])
  | insert hignored =>
    subst hfree
    cases hignored
  | @item _ before after v w _ ih =>
    subst hfree
    have hv := hasDistinctKeys_array.1 hkeys v (by simp)
    exact decode_array_agree (decodeItems_hole (ih _ hv rfl) _ _)
  | @member _ before after key v w _ ih =>
    subst hfree
    have hv := (hasDistinctKeys_object.1 hkeys).2 (key, v) (by simp)
    exact decode_object_agree (decodeMembers_hole (ih _ hv rfl) key before after [])

end DmlReport.Json
