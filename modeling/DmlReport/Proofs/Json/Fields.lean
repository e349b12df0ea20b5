import DmlReport.Proofs.Json.Records
import DmlReport.Proofs.Json.Respects
import Mathlib.Data.List.Nodup

/-!
# The layout of a record

Which fields of a record are present, and whether they can be read at all, is decided by
its entries, whatever their order (`Record.fieldsOf_yields`).  The entries of an object are
its members, and those of a list are its items under the names of the fields.  A step of
the schema keeps the entries of each known name up to a step inside one of them, so the
decoders of the fields find the same values (`Record.Follows.fieldsOf_agree`, `Fields.Same.getD`).
-/

namespace List

theorem lookup_of_mem {κ α : Type} [DecidableEq κ] {key : κ} {a : α} {entries : List (κ × α)}
    (hkeys : (entries.map Prod.fst).Nodup) (h : (key, a) ∈ entries) :
    entries.lookup key = some a := by
  induction entries with
  | nil => cases h
  | cons e entries ih =>
    obtain ⟨he, hentries⟩ := nodup_cons.1 hkeys
    rw [lookup_cons]
    rcases mem_cons.1 h with rfl | h
    · rw [beq_self_eq_true]
    · have hne : key ≠ e.1 := fun heq => he (mem_map.2 ⟨_, h, heq⟩)
      rw [beq_false_of_ne hne]
      exact ih hentries h

end List

namespace DmlReport.Json

variable {α β ε : Type}

/-- A computation gives a result with a property if a condition holds, and fails if not. -/
def Yields (x : Except ε α) (p : Prop) (P : α → Prop) : Prop :=
  match x with
  | .ok a => p ∧ P a
  | .error _ => ¬p

theorem Yields.agree {x : Except ε α} {y : Except ε β} {p q : Prop} {P : α → Prop} {Q : β → Prop}
    {R : α → β → Prop} (hx : Yields x p P) (hy : Yields y q Q) (hiff : p ↔ q)
    (hR : ∀ a b, P a → Q b → R a b) : Agree R x y := by
  cases x with
  | ok a =>
    cases y with
    | ok b => exact hR a b hx.2 hy.2
    | error _ => exact hy (hiff.1 hx.1)
  | error _ =>
    cases y with
    | ok _ => exact hx (hiff.2 hy.1)
    | error _ => trivial

theorem Yields.imp {x : Except ε α} {p q : Prop} {P Q : α → Prop} (h : Yields x p P)
    (hiff : p ↔ q) (hPQ : ∀ a, P a → Q a) : Yields x q Q := by
  cases x with
  | ok a => exact ⟨hiff.1 h.1, hPQ a h.2⟩
  | error _ => exact fun hq => h (hiff.2 hq)

theorem Node.areWhole_eq (items : List Node) : Node.areWhole items = items.all Node.isWhole := by
  induction items with
  | nil => rfl
  | cons n items ih => rw [areWhole, ih, List.all_cons]

theorem Node.membersWhole_eq (members : List (Key × Node)) :
    Node.membersWhole members = members.all fun m => m.1.isWhole && m.2.isWhole := by
  induction members with
  | nil => rfl
  | cons m members ih => rw [membersWhole, ih, List.all_cons]

/-- What nobody reads of a written value is passed over. -/
theorem Value.isWhole_tree (v : Value) : v.tree.isWhole = true := by
  induction v using parts with
  | null | bool | number | string => rfl
  | array items ih =>
    rw [tree_array, Node.isWhole, Node.areWhole_eq, List.all_map, List.all_eq_true]
    exact ih
  | object members ih =>
    rw [tree_object, Node.isWhole, Node.membersWhole_eq, List.all_map, List.all_eq_true]
    intro m hm
    exact ih m hm

/-! ## Which fields are taken -/

namespace Record

variable {r : Record} {depth : Nat}

/-- An entry is no field of a record, or can be the value of that field. -/
def Accepts (r : Record) (depth : Nat) (m : String × Value) : Prop :=
  ∀ field ∈ r.fields, field.name = m.1 → field.check depth m.2.tree = .ok ()

/-- The entries of a record in either form. -/
def entries (r : Record) : Value → Members
  | .object members => members
  | .array items => (r.fields.map (·.name)).zip items
  | _ => []

/-- The fields that a record does not have may be left out. -/
def Ends (r : Record) : Value → Prop
  | .array items => items.length ≤ r.fields.length ∧
      ∀ field ∈ r.fields.drop items.length, field.omissible = true
  | _ => True

variable (r) in
theorem takeItems_yields (depth count : Nat) (fields : List Field) (items : List Value) :
    Yields (r.takeItems depth count fields (items.map Value.tree))
      ((items.length ≤ fields.length ∧ ∀ field ∈ fields.drop items.length, field.omissible = true) ∧
        ∀ e ∈ fields.zip items, e.1.check depth e.2.tree = .ok ())
      fun found => found = ((fields.map (·.name)).zip items).map fun m => (m.1, m.2.tree) := by
  induction fields generalizing count items with
  | nil =>
    cases items with
    | nil => exact ⟨by simp, rfl⟩
    | cons item items => exact fun h => absurd h.1.1 (by simp)
  | cons field fields ih =>
    cases items with
    | nil =>
      rw [List.map_nil, takeItems]
      split
      · rename_i homissible
        refine (ih (count + 1) []).imp ?_ fun found hfound => by simpa using hfound
        simp [homissible]
      · rename_i hneeded
        intro h
        exact hneeded (h.1.2 field (by simp))
    | cons item items =>
      rw [List.map_cons, takeItems]
      cases hcheck : field.check depth item.tree with
      | error e =>
        intro h
        have hok := h.2 (field, item) (by simp)
        rw [hcheck] at hok
        cases hok
      | ok _ =>
        have hrest := ih (count + 1) items
        cases htake : r.takeItems depth (count + 1) fields (items.map Value.tree) with
        | error e =>
          rw [htake] at hrest
          intro h
          refine hrest ⟨⟨by simpa using h.1.1, by simpa using h.1.2⟩, fun e he => h.2 e ?_⟩
          exact List.mem_cons_of_mem _ he
        | ok found =>
          rw [htake] at hrest
          obtain ⟨⟨hends, hchecks⟩, hfound⟩ := hrest
          refine ⟨⟨by simpa using hends, ?_⟩, ?_⟩
          · exact List.forall_mem_cons.2 ⟨hcheck, hchecks⟩
          · rw [hfound]
            rfl

/-- Fields are taken within one more open container. -/
theorem yields_inside (take : Nat → Except Fault (List (String × Node))) {p : Prop}
    {P : List (String × Node) → Prop} (h : Yields (take (depth + 1)) p P) :
    Yields (do
        let depth ← enter depth
        return (⟨depth, ← take depth⟩ : Fields))
      (depth < maxDepth ∧ p) fun f => f.depth = depth + 1 ∧ P f.values := by
  by_cases hroom : depth < maxDepth
  · rw [enter, if_pos hroom]
    show Yields (Fields.mk (depth + 1) <$> take (depth + 1)) _ _
    cases htake : take (depth + 1) with
    | error e =>
      rw [htake] at h
      exact fun hp => h hp.2
    | ok found =>
      rw [htake] at h
      exact ⟨⟨hroom, h.1⟩, rfl, h.2⟩
  · rw [enter, if_neg hroom]
    exact fun hp => hroom hp.1

variable (hnames : (r.fields.map (·.name)).Nodup)

include hnames

/-- A field is accepted by its own check alone. -/
theorem accepts_iff {field : Field} (hfield : field ∈ r.fields) (v : Value) :
    r.Accepts depth (field.name, v) ↔ field.check depth v.tree = .ok () := by
  constructor
  · intro h
    exact h field hfield rfl
  · intro h field' hfield' heq
    rw [List.inj_on_of_nodup_map hnames hfield' hfield heq]
    exact h

theorem takeMembers_yields (depth : Nat) {members : Members}
    (hkeys : (members.map Prod.fst).Nodup) {taken : List (String × Node)}
    (hfresh : ∀ m ∈ members, taken.lookup m.1 = none) :
    Yields (r.takeMembers depth (Value.memberTrees members) taken)
      (∀ m ∈ members, r.Accepts depth m)
      fun found => ∀ field ∈ r.fields, found.lookup field.name =
        ((members.get? field.name).map Value.tree).or (taken.lookup field.name) := by
  induction members generalizing taken with
  | nil => exact ⟨by simp, fun _ _ => rfl⟩
  | cons m members ih =>
    obtain ⟨name, v⟩ := m
    obtain ⟨hname, hrest⟩ := List.nodup_cons.1 hkeys
    obtain ⟨hfree, hlater⟩ := List.forall_mem_cons.1 hfresh
    show Yields (r.takeMembers depth ((.text (some name), v.tree) :: Value.memberTrees members)
      taken) _ _
    rw [takeMembers]
    cases hfind : r.fields.find? (·.name == name) with
    | none =>
      -- Nobody knows the member.
      have hunknown : ∀ field ∈ r.fields, field.name ≠ name := by
        simpa using hfind
      simp only [v.isWhole_tree, if_true]
      refine (ih hrest hlater).imp ?_ fun found hfound field hfield => ?_
      · rw [List.forall_mem_cons]
        exact (and_iff_right fun field hfield heq => absurd heq (hunknown field hfield)).symm
      · rw [hfound field hfield, Members.get?_cons, if_neg (hunknown field hfield)]
    | some field =>
      obtain rfl : field.name = name := by simpa using List.find?_some hfind
      have hfield := List.mem_of_find?_eq_some hfind
      have htaken : taken.lookup field.name = none := hfree
      simp only [htaken, Option.isSome_none, Bool.false_eq_true, if_false]
      cases hcheck : field.check depth v.tree with
      | error e =>
        intro haccepts
        have hok := (accepts_iff hnames hfield v).1 (haccepts _ List.mem_cons_self)
        rw [hcheck] at hok
        cases hok
      | ok _ =>
        have hlater' : ∀ m ∈ members, ((field.name, v.tree) :: taken).lookup m.1 = none := by
          intro m hm
          have hne : m.1 ≠ field.name := fun heq => hname (List.mem_map.2 ⟨m, hm, heq⟩)
          rw [List.lookup_cons, beq_false_of_ne hne]
          exact hlater m hm
        refine (ih hrest hlater').imp ?_ fun found hfound field' hfield' => ?_
        · rw [List.forall_mem_cons]
          exact (and_iff_right ((accepts_iff hnames hfield v).2 hcheck)).symm
        · rw [hfound field' hfield', Members.get?_cons, List.lookup_cons]
          by_cases heq : field'.name = field.name
          · have hnone : Members.get? members field.name = none :=
              List.lookup_eq_none_iff.2 fun m hm => by
                have hne : m.1 ≠ field.name := fun heq => hname (List.mem_map.2 ⟨m, hm, heq⟩)
                simpa using hne.symm
            rw [heq, if_pos rfl, hnone, beq_self_eq_true]
            rfl
          · rw [if_neg heq, beq_false_of_ne heq]

/-- The fields of a record are those of its entries, if there is room and all entries are
accepted. -/
theorem fieldsOf_yields (depth : Nat) {v : Value} (hcontainer : v.isContainer = true)
    (hkeys : v.hasDistinctKeys = true) :
    Yields (r.fieldsOf depth v.tree)
      (depth < maxDepth ∧ r.Ends v ∧ ∀ m ∈ r.entries v, r.Accepts (depth + 1) m)
      fun f => f.depth = depth + 1 ∧ ∀ field ∈ r.fields, f.values.lookup field.name =
        ((r.entries v).get? field.name).map Value.tree := by
  cases v with
  | object members =>
    have hnodup := (Value.hasDistinctKeys_object.1 hkeys).1
    have htake := takeMembers_yields hnames (depth + 1) hnodup fun _ _ => @List.lookup_nil _ Node _ _
    have hall := yields_inside (fun depth => r.takeMembers depth _ []) htake
    rw [Value.tree_object]
    refine hall.imp (by simp [Ends, entries]) fun f hf => ⟨hf.1, fun field hfield => ?_⟩
    exact (hf.2 field hfield).trans Option.or_none
  | array items =>
    have htake := r.takeItems_yields (depth + 1) 0 r.fields items
    have hall := yields_inside (fun depth => r.takeItems depth 0 r.fields _) htake
    have hchecks : (∀ e ∈ r.fields.zip items, e.1.check (depth + 1) e.2.tree = .ok ()) ↔
        ∀ m ∈ (r.fields.map (·.name)).zip items, r.Accepts (depth + 1) m := by
      rw [List.zip_map_left, List.forall_mem_map]
      refine forall₂_congr fun e he => ?_
      exact (accepts_iff hnames (List.of_mem_zip he).1 e.2).symm
    rw [Value.tree_array]
    refine hall.imp ?_ fun f hf => ⟨hf.1, fun field hfield => ?_⟩
    · rw [hchecks]
      rfl
    · rw [hf.2]
      exact Members.lookup_map _ Value.tree field.name
  | _ => cases hcontainer

end Record

/-! ## A step of the schema -/

/-- The fields of a record are those of a schema, and their checks respect it. -/
structure Record.Follows (r : Record) (fields : List (String × Schema)) : Prop where
  names : (r.fields.map (·.name)).Nodup
  fields : List.Forall₂ (fun field entry => field.name = entry.1 ∧ Respects entry.2 field.check)
    r.fields fields

/-- Two values are the same up to a step. -/
def Same (s : Schema) (v w : Value) : Prop :=
  v = w ∨ v.hasDistinctKeys = true ∧ Step s v w

/-- Fields of a schema that are the same up to steps in their values. -/
structure Fields.Same (fields : List (String × Schema)) (f g : Fields) : Prop where
  depth : f.depth = g.depth
  values : ∀ entry ∈ fields, ∃ x y, f.values.lookup entry.1 = x.map Value.tree ∧
    g.values.lookup entry.1 = y.map Value.tree ∧ Option.Rel (Json.Same entry.2) x y

theorem Respects.of_same {s : Schema} {decode : Decoder α} (h : Respects s decode) (depth : Nat)
    {v w : Value} (hsame : Same s v w) :
    Agree Eq (decode depth v.tree) (decode depth w.tree) := by
  rcases hsame with rfl | ⟨hkeys, hstep⟩
  · exact .rfl
  · exact h depth v w hkeys hstep

theorem Members.get?_perm {members members' : Members} (hperm : members.Perm members')
    (hkeys : (members.map Prod.fst).Nodup) (key : String) :
    members.get? key = members'.get? key := by
  induction hperm with
  | nil => rfl
  | cons m _ ih => rw [get?_cons, get?_cons, ih (List.nodup_cons.1 hkeys).2]
  | swap m m' members =>
    have hne : m'.1 ≠ m.1 := by
      intro heq
      simp [heq] at hkeys
    simp only [get?_cons _ _ _ (_ :: _), get?_cons _ _ _ members]
    by_cases h : key = m.1
    · rw [if_neg fun h' => hne (h'.symm.trans h), if_pos h, if_pos h]
    · rw [if_neg h, if_neg h]
  | trans h _ ih ih' => exact (ih hkeys).trans (ih' ((h.map Prod.fst).nodup_iff.1 hkeys))

/-- Entries with the same keys and the same values up to steps. -/
def SameEntries (s : Schema) : Members → Members → Prop :=
  List.Forall₂ fun m m' => m.1 = m'.1 ∧ Same (s.member m.1) m.2 m'.2

theorem SameEntries.refl (s : Schema) (members : Members) : SameEntries s members members :=
  List.forall₂_same.2 fun _ _ => ⟨rfl, Or.inl rfl⟩

theorem SameEntries.hole {s : Schema} {key : String} {v w : Value}
    (h : Same (s.member key) v w) (before after : Members) :
    SameEntries s (before ++ (key, v) :: after) (before ++ (key, w) :: after) := by
  induction before with
  | nil => exact .cons ⟨rfl, h⟩ (SameEntries.refl s after)
  | cons m before ih => exact .cons ⟨rfl, Or.inl rfl⟩ ih

theorem SameEntries.zip {s : Schema} {v w : Value} {names : List String} {before after : List Value}
    (h : ∀ name, names[before.length]? = some name → Same (s.member name) v w) :
    SameEntries s (names.zip (before ++ v :: after)) (names.zip (before ++ w :: after)) := by
  induction before generalizing names with
  | nil =>
    cases names with
    | nil => exact .nil
    | cons name names => exact .cons ⟨rfl, h name rfl⟩ (SameEntries.refl s _)
  | cons first before ih =>
    cases names with
    | nil => exact .nil
    | cons name names => exact .cons ⟨rfl, Or.inl rfl⟩ (ih h)

theorem SameEntries.get? {s : Schema} {members members' : Members}
    (h : SameEntries s members members') (key : String) :
    Option.Rel (Same (s.member key)) (members.get? key) (members'.get? key) := by
  induction h with
  | nil => exact .none
  | @cons m m' _ _ hm _ ih =>
    obtain ⟨hkey, hvalue⟩ := hm
    rw [Members.get?_cons, Members.get?_cons, ← hkey]
    by_cases heq : key = m.1
    · rw [if_pos heq, if_pos heq, heq]
      exact .some hvalue
    · rw [if_neg heq, if_neg heq]
      exact ih

namespace Record.Follows

variable {r : Record} {fields : List (String × Schema)} {depth : Nat} {v w : Value}
  (hr : r.Follows fields)

include hr

theorem names_eq : r.fields.map (·.name) = fields.map Prod.fst := by
  have hsame : List.Forall₂ Eq (r.fields.map (·.name)) (fields.map Prod.fst) := by
    rw [List.forall₂_map_left_iff, List.forall₂_map_right_iff]
    exact hr.fields.imp fun _ _ h => h.1
  rwa [List.forall₂_eq_eq_eq] at hsame

theorem member_eq {entry : String × Schema} (h : entry ∈ fields) :
    (Schema.record fields).member entry.1 = entry.2 := by
  have hnodup := hr.names
  rw [hr.names_eq] at hnodup
  rw [Schema.member, List.lookup_of_mem hnodup h]
  rfl

theorem item_eq {i : Nat} {name : String} (h : (r.fields.map (·.name))[i]? = some name) :
    (Schema.record fields).item i = (Schema.record fields).member name := by
  rw [hr.names_eq, List.getElem?_map] at h
  obtain ⟨entry, hentry, rfl⟩ := Option.map_eq_some_iff.1 h
  rw [hr.member_eq (List.mem_of_getElem? hentry), Schema.item, hentry]
  rfl

theorem respects {field : Field} (h : field ∈ r.fields) :
    Respects ((Schema.record fields).member field.name) field.check := by
  obtain ⟨i, hi, rfl⟩ := List.getElem_of_mem h
  have hi' : i < fields.length := hr.fields.length_eq ▸ hi
  obtain ⟨hname, hcheck⟩ := hr.fields.get hi hi'
  rw [List.get_eq_getElem] at hname
  rw [hname, hr.member_eq (List.get_mem _ _)]
  exact hcheck

theorem unknown {name : String} (h : (Schema.record fields).ignores name = true) :
    ∀ field ∈ r.fields, field.name ≠ name := by
  intro field hfield heq
  have hmem : name ∈ fields.map Prod.fst := by
    rw [← hr.names_eq, ← heq]
    exact List.mem_map_of_mem hfield
  obtain ⟨entry, hentry, rfl⟩ := List.mem_map.1 hmem
  have hnone : ∀ e ∈ fields, entry.1 ≠ e.1 := by
    simpa [Schema.ignores, List.lookup_eq_none_iff] using h
  exact hnone entry hentry rfl

theorem accepts_iff {m m' : String × Value} (hkey : m.1 = m'.1)
    (hvalue : Same ((Schema.record fields).member m.1) m.2 m'.2) :
    r.Accepts depth m ↔ r.Accepts depth m' := by
  have hchecks : ∀ field ∈ r.fields, field.name = m.1 →
      (field.check depth m.2.tree = .ok () ↔ field.check depth m'.2.tree = .ok ()) := by
    intro field hfield heq
    rw [← heq] at hvalue
    rcases ((hr.respects hfield).of_same depth hvalue).outcomes with
      ⟨a, hm, hm'⟩ | ⟨e, e', hm, hm'⟩ <;> rw [hm, hm']
    simp
  unfold Accepts
  rw [← hkey]
  exact forall₂_congr fun field hfield => forall_congr' fun heq => hchecks field hfield heq

theorem all_accepts_iff {members members' : Members}
    (h : SameEntries (.record fields) members members') :
    (∀ m ∈ members, r.Accepts depth m) ↔ ∀ m ∈ members', r.Accepts depth m := by
  induction h with
  | nil => simp
  | cons hm _ ih => rw [List.forall_mem_cons, List.forall_mem_cons, ih, hr.accepts_iff hm.1 hm.2]

/-- A step keeps what decides how a record is read. -/
theorem step (hkeys : v.hasDistinctKeys = true) (h : Step (.record fields) v w) (depth : Nat) :
    (r.Ends v ↔ r.Ends w) ∧
    ((∀ m ∈ r.entries v, r.Accepts depth m) ↔ ∀ m ∈ r.entries w, r.Accepts depth m) ∧
    ∀ field ∈ r.fields, Option.Rel (Same ((Schema.record fields).member field.name))
      ((r.entries v).get? field.name) ((r.entries w).get? field.name) := by
  cases h with
  | @permute _ members members' hperm =>
    have hnodup := (Value.hasDistinctKeys_object.1 hkeys).1
    refine ⟨Iff.rfl, by simp [entries, hperm.mem_iff], fun field _ => ?_⟩
    show Option.Rel _ (members.get? field.name) (members'.get? field.name)
    rw [Members.get?_perm hperm hnodup]
    exact (SameEntries.refl _ members').get? field.name
  | @insert _ members name value hignored =>
    have hunknown := hr.unknown hignored
    refine ⟨Iff.rfl, ?_, fun field hfield => ?_⟩
    · show (∀ m ∈ members, _) ↔ ∀ m ∈ (name, value) :: members, _
      rw [List.forall_mem_cons]
      exact (and_iff_right fun field hfield heq => absurd heq (hunknown field hfield)).symm
    · show Option.Rel _ (members.get? field.name) (Members.get? ((name, value) :: members) field.name)
      rw [Members.get?_cons, if_neg (hunknown field hfield)]
      exact (SameEntries.refl _ members).get? field.name
  | @item _ before after u u' hstep =>
    have hu := Value.hasDistinctKeys_array.1 hkeys u (by simp)
    have hsame : SameEntries (.record fields) (r.entries (.array (before ++ u :: after)))
        (r.entries (.array (before ++ u' :: after))) := by
      refine SameEntries.zip fun name hname => Or.inr ⟨hu, ?_⟩
      rw [← hr.item_eq hname]
      exact hstep
    exact ⟨by simp [Ends], hr.all_accepts_iff hsame, fun field _ => hsame.get? field.name⟩
  | @member _ before after key u u' hstep =>
    have hu := (Value.hasDistinctKeys_object.1 hkeys).2 (key, u) (by simp)
    have hsame : SameEntries (.record fields) (before ++ (key, u) :: after)
        (before ++ (key, u') :: after) := .hole (Or.inr ⟨hu, hstep⟩) before after
    exact ⟨Iff.rfl, hr.all_accepts_iff hsame, fun field _ => hsame.get? field.name⟩

/-- A step changes neither whether a record can be read nor, but for a step inside, the
values of its fields. -/
theorem fieldsOf_agree (hkeys : v.hasDistinctKeys = true) (h : Step (.record fields) v w)
    (depth : Nat) :
    Agree (Fields.Same fields) (r.fieldsOf depth v.tree) (r.fieldsOf depth w.tree) := by
  obtain ⟨hends, haccepts, hvalues⟩ := hr.step hkeys h (depth + 1)
  obtain ⟨hv, hw⟩ := h.isContainer
  refine (fieldsOf_yields hr.names depth hv hkeys).agree
    (fieldsOf_yields hr.names depth hw (h.hasDistinctKeys_iff.1 hkeys)) ?_ ?_
  · rw [hends, haccepts]
  · rintro f g ⟨hf, hfvalues⟩ ⟨hg, hgvalues⟩
    refine ⟨hf.trans hg.symm, fun entry hentry => ?_⟩
    have hname : entry.1 ∈ r.fields.map (·.name) := by
      rw [hr.names_eq]
      exact List.mem_map_of_mem hentry
    obtain ⟨field, hfield, heq⟩ := List.mem_map.1 hname
    have hrel := hvalues field hfield
    rw [heq, hr.member_eq hentry] at hrel
    have hx := hfvalues field hfield
    have hy := hgvalues field hfield
    rw [heq] at hx hy
    exact ⟨_, _, hx, hy, hrel⟩

end Record.Follows

/-! ## The decoders of the fields -/

namespace Fields.Same

variable {fields : List (String × Schema)} {f g : Fields} {name : String} {s : Schema}
  {decode : Decoder α}

theorem getD (h : Same fields f g) (hmem : (name, s) ∈ fields) (hdecode : Respects s decode)
    (absent : α) : Agree Eq (f.getD name decode absent) (g.getD name decode absent) := by
  obtain ⟨x, y, hx, hy, hxy⟩ := h.values _ hmem
  unfold Fields.getD
  rw [hx, hy, h.depth]
  cases hxy with
  | none => exact .rfl
  | some hsame => exact hdecode.of_same g.depth hsame

theorem get (h : Same fields f g) (hmem : (name, s) ∈ fields) (hdecode : Respects s decode) :
    Agree Eq (f.get name decode) (g.get name decode) := by
  obtain ⟨x, y, hx, hy, hxy⟩ := h.values _ hmem
  unfold Fields.get
  rw [hx, hy, h.depth]
  cases hxy with
  | none => exact .rfl
  | some hsame => exact hdecode.of_same g.depth hsame

end Fields.Same

theorem Respects.check {s : Schema} {decode : Decoder α} (h : Respects s decode) (name : String)
    (omissible : Bool) : Respects s (Field.of name omissible decode).check :=
  h.map fun _ => ()

end DmlReport.Json
