import DmlReport.Finding
import Mathlib.Data.List.Nodup

/-!
# What is left out of a diagnostic

A diagnostic can hold a line or a column 0, a context that is no object, and related
locations that say nothing of where they are.  `Diagnostic.usable` is the diagnostic without
all that, and a handbook makes the same finding of both.  Nothing is lost in silence: a part
that the usable form lacks is reported in the journal, each one once and in the order of the
diagnostic, and no other part is (`Diagnostic.unusable_as_absent`).
-/

namespace List

/-- What is made of the elements of a list can be made of their places. -/
theorem flatMap_range_length {α β : Type} (f : α → List β) (as : List α) :
    (range as.length).flatMap (fun i => ((as[i]?).map f).getD []) = as.flatMap f := by
  induction as with
  | nil => rfl
  | cons a as ih =>
    rw [length_cons, range_succ_eq_map, flatMap_cons, flatMap_map, flatMap_cons, ← ih]
    rfl

end List

namespace DmlReport

open Json (Value)

/-! ## Numbers that count from one -/

theorem oneIndexed_ne_zero (n : Option UInt32) : oneIndexed n ≠ some 0 := by
  intro h
  have hzero := (Option.filter_eq_some_iff.1 h).2
  simp at hzero

theorem oneIndexed_oneIndexed (n : Option UInt32) : oneIndexed (oneIndexed n) = oneIndexed n := by
  unfold oneIndexed
  rw [Option.filter_filter]
  simp only [Bool.and_self]

theorem zeroFaults_oneIndexed (field : String) (n : Option UInt32) :
    zeroFaults field (oneIndexed n) = [] :=
  if_neg (oneIndexed_ne_zero n)

namespace Location

theorem normalized_normalized (l : Location) : l.normalized.normalized = l.normalized := by
  unfold normalized
  rw [oneIndexed_oneIndexed, oneIndexed_oneIndexed]

theorem faults_normalized (l : Location) : l.normalized.faults = [] := by
  unfold faults normalized
  rw [zeroFaults_oneIndexed, zeroFaults_oneIndexed, List.append_nil]

end Location

namespace Diagnostic

/-! ## The usable form -/

/-- The related locations that say where they are, each with its message. -/
def located (d : Diagnostic) : List (Location × String) :=
  d.related.filterMap fun r => r.location.map fun l => (l, r.message)

/-- The diagnostic without the parts that cannot be used. -/
def usable (d : Diagnostic) : Diagnostic :=
  { d with
    location := d.location.map Location.normalized
    related := d.located.map fun site => ⟨some site.1.normalized, site.2⟩
    context := d.members.map .object }

variable (d : Diagnostic)

theorem members_usable : d.usable.members = d.members := by
  have hmembers (ms : Option Json.Members) :
      members { d with context := ms.map .object } = ms := by
    cases ms <;> rfl
  exact hmembers d.members

theorem located_usable :
    d.usable.located = d.located.map fun site => (site.1.normalized, site.2) := by
  unfold usable
  generalize d.located = sites
  unfold located
  induction sites with
  | nil => rfl
  | cons site sites ih =>
    rw [List.map_cons, List.filterMap_cons, List.map_cons, ih]
    rfl

theorem location_usable : d.usable.location = d.location.map Location.normalized := rfl

theorem usable_usable : d.usable.usable = d.usable := by
  have hlocation : (d.location.map Location.normalized).map Location.normalized =
      d.location.map Location.normalized := by
    rw [Option.map_map]
    exact congrArg d.location.map (funext Location.normalized_normalized)
  have hrelated : d.usable.located.map (fun site => Related.mk (some site.1.normalized) site.2) =
      d.located.map fun site => ⟨some site.1.normalized, site.2⟩ := by
    rw [located_usable, List.map_map]
    simp only [Function.comp_def, Location.normalized_normalized]
  show { d with
    location := (d.location.map Location.normalized).map Location.normalized
    related := d.usable.located.map fun site => ⟨some site.1.normalized, site.2⟩
    context := d.usable.members.map .object } = d.usable
  rw [hlocation, hrelated, members_usable]
  rfl

theorem related_citations :
    d.related.filterMap RelatedCitation.ofRelated? =
      d.located.map fun site => ⟨site.1.file, oneIndexed site.1.line, site.2⟩ := by
  unfold located
  rw [List.map_filterMap]
  congr 1
  funext r
  rw [Option.map_map]
  rfl

theorem related_citations_usable :
    d.usable.related.filterMap RelatedCitation.ofRelated? =
      d.related.filterMap RelatedCitation.ofRelated? := by
  rw [related_citations, related_citations, located_usable, List.map_map]
  simp only [Function.comp_def, Location.normalized, oneIndexed_oneIndexed]

end Diagnostic

/-! ## Findings -/

namespace Citation

variable (location : Option Location)

theorem file_ofLocation? : (ofLocation? location).file = location.bind (·.file) := by
  cases location with
  | none => rfl
  | some l =>
    show (if l.isUnknown then unknown else _).file = l.file
    split
    · rename_i hunknown
      simp only [Location.isUnknown, Bool.and_eq_true, Option.isNone_iff_eq_none] at hunknown
      exact hunknown.1.1.symm
    · rfl

theorem line_ofLocation? : (ofLocation? location).line = location.bind (·.line) := by
  cases location with
  | none => rfl
  | some l =>
    show (if l.isUnknown then unknown else _).line = l.line
    split
    · rename_i hunknown
      simp only [Location.isUnknown, Bool.and_eq_true, Option.isNone_iff_eq_none] at hunknown
      exact hunknown.1.2.symm
    · rfl

end Citation

namespace Finding

variable (h : Handbook) (d : Diagnostic)

theorem ofDiagnostic_usable : ofDiagnostic h d.usable = ofDiagnostic h d := by
  have hlocation : d.usable.location.map Location.normalized =
      d.location.map Location.normalized := by
    rw [d.location_usable, Option.map_map]
    exact congrArg d.location.map (funext Location.normalized_normalized)
  have hdialect : d.usable.location.bind (·.dialect) = d.location.bind (·.dialect) := by
    rw [d.location_usable, Option.bind_map]
    rfl
  unfold ofDiagnostic
  rw [hlocation, hdialect, d.related_citations_usable, d.members_usable]
  rfl

/-- What a finding takes over from a diagnostic. -/
structure Keeps (f : Finding) (d : Diagnostic) : Prop where
  kind : f.kind = d.kind
  code : f.code = d.code
  message : f.message = d.message
  file : f.citation.file = d.location.bind (·.file)
  line : f.citation.line ≠ some 0
  related : f.related = d.located.map fun site => ⟨site.1.file, oneIndexed site.1.line, site.2⟩
  relatedLine : ∀ c ∈ f.related, c.line ≠ some 0

theorem keeps_ofDiagnostic : (ofDiagnostic h d).Keeps d where
  kind := rfl
  code := rfl
  message := rfl
  file := by
    show (Citation.ofLocation? _).file = _
    rw [Citation.file_ofLocation?, Option.bind_map]
    rfl
  line := by
    show (Citation.ofLocation? _).line ≠ _
    rw [Citation.line_ofLocation?, Option.bind_map]
    intro hline
    obtain ⟨l, -, hl⟩ := Option.bind_eq_some_iff.1 hline
    exact oneIndexed_ne_zero l.line hl
  related := d.related_citations
  relatedLine := by
    intro c hc
    have hrelated : (ofDiagnostic h d).related = _ := d.related_citations
    rw [hrelated] at hc
    obtain ⟨site, -, rfl⟩ := List.mem_map.1 hc
    exact oneIndexed_ne_zero site.1.line

end Finding

/-! ## What is lost -/

/-- A place in a diagnostic where something unusable can stand: the line or the column of its
location or of a related one, or its context. -/
inductive Part where
  | line (site : Option Nat)
  | column (site : Option Nat)
  | context

/-- The fault of what stands at a place. -/
def Part.fault : Part → Value → FieldFault
  | .line _, _ => .zeroNumber "location.line"
  | .column _, _ => .zeroNumber "location.column"
  | .context, v => .notAnObject v

namespace Diagnostic

variable (d d' : Diagnostic)

/-- The location of a diagnostic, or a related location by its number among the located. -/
def site? : Option Nat → Option Location
  | none => d.location
  | some i => d.located[i]?.map Prod.fst

/-- What stands at a place.  A null context is none. -/
def at? : Part → Option Value
  | .line site => (d.site? site).bind fun l => l.line.map fun n => .nat n.toNat
  | .column site => (d.site? site).bind fun l => l.column.map fun n => .nat n.toNat
  | .context =>
    match d.context with
    | some .null => none
    | context => context

/-- The places of a diagnostic, in order. -/
def parts : List Part :=
  .line none :: .column none :: .context ::
    (List.range d.located.length).flatMap fun i => [.line (some i), .column (some i)]

/-- What stands at a place in one diagnostic only. -/
def lostAt (p : Part) : Option (Part × Value) :=
  if (d'.at? p).isNone then (d.at? p).map fun v => (p, v) else none

/-- What the first diagnostic has and the second one has not. -/
def lost : List (Part × Value) :=
  d.parts.filterMap (d.lostAt d')

/-- The event of a missing code. -/
def uncoded : List Event :=
  if d.code = none then [.uncoded d.kind] else []

/-! ### Places -/

theorem parts_nodup : d.parts.Nodup := by
  have hsites : ((List.range d.located.length).flatMap fun i =>
      [Part.line (some i), Part.column (some i)]).Nodup := by
    refine List.nodup_flatMap.2 ⟨fun i _ => by simp, ?_⟩
    refine List.Pairwise.imp ?_ List.nodup_range
    intro i j hne
    simp [Function.onFun, List.disjoint_left, hne]
  simp [parts, hsites]

theorem mem_parts {p : Part} (h : (d.at? p).isSome = true) : p ∈ d.parts := by
  have hsite {i : Nat} (hi : (d.site? (some i)).isSome = true) : i < d.located.length := by
    simpa [site?] using hi
  rcases p with (_ | i) | (_ | i) | _
  · simp [parts]
  · have hi := hsite (Option.isSome_of_isSome_bind h)
    simp [parts, hi]
  · simp [parts]
  · have hi := hsite (Option.isSome_of_isSome_bind h)
    simp [parts, hi]
  · simp [parts]

/-! ### Losses -/

theorem site?_usable (site : Option Nat) :
    d.usable.site? site = (d.site? site).map Location.normalized := by
  cases site with
  | none => rfl
  | some i =>
    rw [site?, site?, located_usable, List.getElem?_map, Option.map_map, Option.map_map]
    rfl

/-- The faults of what is lost at a place. -/
def lostFaults (p : Part) : List FieldFault :=
  ((d.lostAt d.usable p).map fun e => e.1.fault e.2).toList

theorem lostFaults_number {p : Part} {field : String} {n : Option UInt32}
    (hfault : ∀ v, p.fault v = .zeroNumber field)
    (hat : d.at? p = n.map fun n => .nat n.toNat)
    (husable : d.usable.at? p = (oneIndexed n).map fun n => .nat n.toNat) :
    d.lostFaults p = zeroFaults field n := by
  unfold lostFaults lostAt
  rw [hat, husable]
  cases n with
  | none => rfl
  | some n =>
    by_cases hn : n = 0
    · subst hn
      simp [oneIndexed, zeroFaults, hfault]
    · simp [oneIndexed, zeroFaults, hn]

theorem lostFaults_line (site : Option Nat) :
    d.lostFaults (.line site) =
      zeroFaults "location.line" ((d.site? site).bind (·.line)) := by
  apply lostFaults_number
  · exact fun _ => rfl
  · rw [Option.map_bind]
    rfl
  · rw [at?, site?_usable]
    cases d.site? site <;> rfl

theorem lostFaults_column (site : Option Nat) :
    d.lostFaults (.column site) =
      zeroFaults "location.column" ((d.site? site).bind (·.column)) := by
  apply lostFaults_number
  · exact fun _ => rfl
  · rw [Option.map_bind]
    rfl
  · rw [at?, site?_usable]
    cases d.site? site <;> rfl

theorem lostFaults_context : d.lostFaults .context = d.contextFaults := by
  obtain ⟨kind, code, message, location, related, context⟩ := d
  cases context with
  | none => rfl
  | some v => cases v <;> rfl

theorem lostFaults_site (site : Option Nat) :
    d.lostFaults (.line site) ++ d.lostFaults (.column site) =
      ((d.site? site).map Location.faults).getD [] := by
  rw [lostFaults_line, lostFaults_column]
  cases d.site? site <;> rfl

theorem related_faults :
    d.related.flatMap (fun r => (r.location.map Location.faults).getD []) =
      d.located.flatMap fun site => site.1.faults := by
  unfold located
  generalize d.related = sites
  induction sites with
  | nil => rfl
  | cons r sites ih =>
    rw [List.flatMap_cons, List.filterMap_cons, ih]
    cases r.location <;> rfl

/-- The faults of a diagnostic are those of what its usable form has lost. -/
theorem faults_lost : (d.lost d.usable).map (fun e => e.1.fault e.2) = d.faults := by
  have hsites : ((List.range d.located.length).flatMap fun i =>
      [Part.line (some i), Part.column (some i)]).flatMap d.lostFaults =
        d.located.flatMap fun site => site.1.faults := by
    have hsite (i : Nat) : [Part.line (some i), Part.column (some i)].flatMap d.lostFaults =
        (d.located[i]?.map fun site => site.1.faults).getD [] := by
      rw [List.flatMap_cons, List.flatMap_singleton, lostFaults_site, site?, Option.map_map]
      rfl
    rw [List.flatMap_assoc, funext hsite, List.flatMap_range_length]
  have hlost : (d.lost d.usable).map (fun e => e.1.fault e.2) = d.parts.flatMap d.lostFaults := by
    rw [lost, List.map_filterMap, List.filterMap_eq_flatMap_toList]
    rfl
  rw [hlost, parts, List.flatMap_cons, List.flatMap_cons, List.flatMap_cons, hsites,
    ← List.append_assoc, lostFaults_site, lostFaults_context, ← related_faults,
    ← List.append_assoc]
  rfl

theorem faults_usable : d.usable.faults = [] := by
  have hlocation : (d.usable.location.map Location.faults).getD [] = [] := by
    rw [location_usable]
    cases d.location with
    | none => rfl
    | some l => exact l.faults_normalized
  have hcontext : d.usable.contextFaults = [] := by
    show contextFaults { d with context := d.members.map .object } = []
    cases d.members <;> rfl
  have hrelated : d.usable.located.flatMap (fun site => site.1.faults) = [] := by
    rw [located_usable, List.flatMap_map]
    simp [Location.faults_normalized]
  rw [faults, hlocation, hcontext, related_faults, hrelated]
  rfl

theorem journal_eq : d.journal = d.uncoded ++ d.faults.map .dropped := by
  unfold journal uncoded
  cases d.code <;> rfl

/-- Whatever of a diagnostic cannot be used is as good as absent, for every finding; the
finding takes over the rest.  The journal says which parts the usable form has lost, and
nothing else but that a code is missing. -/
theorem unusable_as_absent (h : Handbook) :
    Finding.ofDiagnostic h d.usable = Finding.ofDiagnostic h d ∧
    d.usable.usable = d.usable ∧
    (Finding.ofDiagnostic h d).Keeps d ∧
    (d.parts.Nodup ∧ ∀ p, (d.at? p).isSome = true → p ∈ d.parts) ∧
    d.journal = d.uncoded ++ (d.lost d.usable).map (fun e => .dropped (e.1.fault e.2)) ∧
    d.usable.journal = d.uncoded := by
  refine ⟨Finding.ofDiagnostic_usable h d, d.usable_usable, Finding.keeps_ofDiagnostic h d,
    ⟨d.parts_nodup, fun p => d.mem_parts⟩, ?_, ?_⟩
  · rw [journal_eq, ← faults_lost, List.map_map]
    rfl
  · rw [journal_eq, faults_usable]
    exact List.append_nil _

end Diagnostic

end DmlReport
