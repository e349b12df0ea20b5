import DmlReport.Proofs.Document.Members
import DmlReport.Proofs.Text.Trimmed
import Mathlib.Data.Nat.Digits.Defs

/-!
# The grammar of dialect versions

A text names a dialect version if it is two numerals around a point: each an optional plus
sign and ASCII digits, of which there may be any number of leading zeros, with a value of 16
bits.  `Dialect.parse` takes the blanks off a text and accepts exactly what names a version;
a text that it refuses it hands back without those blanks (`parse_grammar`).  A displayed
version names itself, so what a summary says of a dialect can be parsed again.
-/

namespace DmlReport.Dialect

/-! ## Numerals -/

/-- The number that decimal digits stand for. -/
def valueOf (digits : List Char) : Nat :=
  Nat.ofDigits 10 (digits.map fun c => c.toNat - '0'.toNat).reverse

theorem ofDigitChars_eq_valueOf (digits : List Char) :
    Nat.ofDigitChars 10 digits 0 = valueOf digits := by
  induction digits with
  | nil => rfl
  | cons c digits ih =>
    rw [Nat.ofDigitChars_cons, Nat.ofDigitChars_eq_ofDigitChars_zero, ih, valueOf, valueOf,
      List.map_cons, Nat.ofDigits_reverse_cons, List.length_map, Nat.mul_zero, Nat.zero_add,
      Nat.add_comm]

/-- A text is an optional plus sign and digits that stand for a 16-bit number. -/
def IsNumeral (text : List Char) (n : UInt16) : Prop :=
  ∃ sign digits, text = sign ++ digits ∧ (sign = [] ∨ sign = ['+']) ∧ digits ≠ [] ∧
    (∀ c ∈ digits, c.isDigit = true) ∧ valueOf digits = n.toNat

theorem parseNumber?_plus_iff {digits : List Char} {n : UInt16} :
    parseNumber? ('+' :: digits) = some n ↔
      digits ≠ [] ∧ (∀ c ∈ digits, c.isDigit = true) ∧ valueOf digits = n.toNat := by
  unfold parseNumber?
  simp only [ofDigitChars_eq_valueOf]
  split
  · rename_i hrefused
    refine ⟨nofun, fun ⟨hne, hdigits, hvalue⟩ => ?_⟩
    have hlt : valueOf digits < UInt16.size := hvalue ▸ n.toNat_lt
    simp [hne, List.all_eq_true.2 hdigits, Nat.not_le.2 hlt] at hrefused
  · rename_i haccepted
    have haccepted' : digits ≠ [] ∧ (∀ c ∈ digits, c.isDigit = true) ∧
        valueOf digits < UInt16.size := by
      simpa [and_assoc] using haccepted
    obtain ⟨hne, hdigits, hlt⟩ := haccepted'
    rw [Option.some.injEq, ← UInt16.toNat_inj, UInt16.toNat_ofNat_of_lt' hlt]
    exact ⟨fun hvalue => ⟨hne, hdigits, hvalue⟩, fun h => h.2.2⟩

theorem parseNumber?_plain {digits : List Char} (h : digits.head? ≠ some '+') :
    parseNumber? digits = parseNumber? ('+' :: digits) := by
  unfold parseNumber?
  split
  · exact absurd rfl h
  · rfl

theorem parseNumber?_eq_some_iff {text : List Char} {n : UInt16} :
    parseNumber? text = some n ↔ IsNumeral text n := by
  constructor
  · intro hparse
    by_cases hhead : text.head? = some '+'
    · obtain ⟨digits, rfl⟩ := List.head?_eq_some_iff.1 hhead
      exact ⟨['+'], digits, rfl, Or.inr rfl, parseNumber?_plus_iff.1 hparse⟩
    · rw [parseNumber?_plain hhead] at hparse
      exact ⟨[], text, rfl, Or.inl rfl, parseNumber?_plus_iff.1 hparse⟩
  · rintro ⟨sign, digits, rfl, rfl | rfl, hdigits⟩
    · have hhead : digits.head? ≠ some '+' := by
        intro hplus
        cases hdigits.2.1 '+' (List.mem_of_mem_head? hplus)
      rw [List.nil_append, parseNumber?_plain hhead]
      exact parseNumber?_plus_iff.2 hdigits
    · exact parseNumber?_plus_iff.2 hdigits

theorem isNumeral_toDigits (n : UInt16) : IsNumeral (Nat.toDigits 10 n.toNat) n := by
  refine ⟨[], Nat.toDigits 10 n.toNat, rfl, Or.inl rfl, Nat.toDigits_ne_nil, ?_, ?_⟩
  · intro c hc
    exact Nat.isDigit_of_mem_toDigits (by decide) (by decide) hc
  · rw [← ofDigitChars_eq_valueOf, Nat.ofDigitChars_ten_toDigits]

theorem IsNumeral.chars {text : List Char} {n : UInt16} (h : IsNumeral text n) :
    ∀ c ∈ text, c = '+' ∨ c.isDigit = true := by
  obtain ⟨sign, digits, rfl, hsign, -, hdigits, -⟩ := h
  intro c hc
  rcases List.mem_append.1 hc with hc | hc
  · rcases hsign with rfl | rfl
    · cases hc
    · exact Or.inl (List.mem_singleton.1 hc)
  · exact Or.inr (hdigits c hc)

/-! ## Versions -/

/-- A text is two numerals around a point. -/
def Names (text : List Char) (v : Dialect) : Prop :=
  ∃ major minor, text = major ++ '.' :: minor ∧ IsNumeral major v.major ∧ IsNumeral minor v.minor

theorem parseChars?_point {major minor : List Char} (h : '.' ∉ major) :
    parseChars? (major ++ '.' :: minor) = do
      let major ← parseNumber? major
      let minor ← parseNumber? minor
      return ⟨major, minor⟩ := by
  have hmajor : ∀ c ∈ major, (c != '.') = true := by
    intro c hc
    simpa using ne_of_mem_of_not_mem hc h
  rw [parseChars?, List.dropWhile_append_of_pos hmajor, List.takeWhile_append_of_pos hmajor,
    List.takeWhile_cons_of_neg (by simp), List.append_nil, List.dropWhile_cons_of_neg (by simp)]

theorem IsNumeral.no_point {text : List Char} {n : UInt16} (h : IsNumeral text n) :
    '.' ∉ text := by
  intro hc
  rcases h.chars '.' hc with hc | hc <;> cases hc

theorem parseChars?_eq_some_iff {text : List Char} {v : Dialect} :
    parseChars? text = some v ↔ Names text v := by
  constructor
  · intro hparse
    by_cases hpoint : '.' ∈ text
    · obtain ⟨major, minor, rfl, hmajor⟩ := List.eq_append_cons_of_mem hpoint
      rw [parseChars?_point hmajor] at hparse
      obtain ⟨n, hn, hparse⟩ := Option.bind_eq_some_iff.1 hparse
      obtain ⟨m, hm, hparse⟩ := Option.bind_eq_some_iff.1 hparse
      cases hparse
      exact ⟨major, minor, rfl, parseNumber?_eq_some_iff.1 hn, parseNumber?_eq_some_iff.1 hm⟩
    · have hnone : text.dropWhile (· != '.') = [] := by
        rw [List.dropWhile_eq_nil_iff]
        intro c hc
        simpa using ne_of_mem_of_not_mem hc hpoint
      rw [parseChars?, hnone] at hparse
      cases hparse
  · rintro ⟨major, minor, rfl, hmajor, hminor⟩
    rw [parseChars?_point hmajor.no_point, parseNumber?_eq_some_iff.2 hmajor,
      parseNumber?_eq_some_iff.2 hminor]
    rfl

theorem isBlank_of_isDigit {c : Char} (h : c.isDigit = true) : Text.isBlank c = false := by
  rw [Char.isDigit_iff_toNat] at h
  have hlow : 48 ≤ c.toNat := h.1
  have hhigh : c.toNat ≤ 57 := h.2
  simp [Text.isBlank]
  omega

theorem Names.not_blank {text : List Char} {v : Dialect} (h : Names text v) :
    ∀ c ∈ text, Text.isBlank c = false := by
  have hnumeral {piece : List Char} {n : UInt16} (hpiece : IsNumeral piece n) :
      ∀ c ∈ piece, Text.isBlank c = false := by
    intro c hc
    rcases hpiece.chars c hc with rfl | hdigit
    · rfl
    · exact isBlank_of_isDigit hdigit
  obtain ⟨major, minor, rfl, hmajor, hminor⟩ := h
  intro c hc
  rcases List.mem_append.1 hc with hc | hc
  · exact hnumeral hmajor c hc
  · rcases List.mem_cons.1 hc with rfl | hc
    · rfl
    · exact hnumeral hminor c hc

theorem toList_display (v : Dialect) :
    v.display.toList = Nat.toDigits 10 v.major.toNat ++ '.' :: Nat.toDigits 10 v.minor.toNat := by
  simp [display, toString]

theorem names_display (v : Dialect) : Names v.display.toList v :=
  ⟨_, _, v.toList_display, isNumeral_toDigits v.major, isNumeral_toDigits v.minor⟩

/-! ## Parsing -/

theorem parse_eq_ok_iff {s : String} {v : Dialect} :
    parse s = .ok v ↔ Names (Text.trim s).toList v := by
  unfold parse Text.trim
  rw [String.toList_ofList, ← parseChars?_eq_some_iff]
  cases parseChars? (Text.trimChars s.toList) <;> simp

theorem input_of_parse {s : String} {e : InvalidDialect} (h : parse s = .error e) :
    e.input = Text.trim s := by
  unfold parse at h
  split at h <;> cases h
  rfl

theorem parse_eq_error_iff {s : String} {e : InvalidDialect} :
    parse s = .error e ↔ e.input = Text.trim s ∧ ∀ v, ¬Names e.input.toList v := by
  constructor
  · intro hparse
    have hinput := input_of_parse hparse
    refine ⟨hinput, fun v hv => ?_⟩
    rw [hinput, ← parse_eq_ok_iff, hparse] at hv
    cases hv
  · rintro ⟨hinput, hnone⟩
    cases hparse : parse s with
    | ok v =>
      rw [hinput] at hnone
      exact absurd (parse_eq_ok_iff.1 hparse) (hnone v)
    | error e' =>
      have hinput' : e'.input = e.input := (input_of_parse hparse).trans hinput.symm
      obtain ⟨input⟩ := e
      obtain ⟨input'⟩ := e'
      cases hinput'
      rfl

/-- A displayed version is parsed as it, whatever white space is around it. -/
theorem parse_display (v : Dialect) {before after : String}
    (hbefore : Text.allBlank before = true) (hafter : Text.allBlank after = true) :
    parse (before ++ v.display ++ after) = .ok v := by
  have hnames := v.names_display
  have htrim : Text.trim (before ++ v.display ++ after) = v.display := by
    refine Text.isTrimmed_iff.1 ⟨⟨before.toList, after.toList, Text.blank_of_allBlank hbefore,
      Text.blank_of_allBlank hafter, by simp⟩, ?_, ?_⟩
    · exact fun c hc => hnames.not_blank c (List.mem_of_mem_head? hc)
    · exact fun c hc => hnames.not_blank c (List.mem_of_mem_getLast? hc)
  rw [parse_eq_ok_iff, htrim]
  exact hnames

theorem parse_display_self (v : Dialect) : parse v.display = .ok v := by
  have hparse : parse ("" ++ v.display ++ "") = .ok v := v.parse_display rfl rfl
  rwa [String.empty_append, String.append_empty] at hparse

/-- The version that a text names, as it is displayed. -/
def normalize (s : String) : Except InvalidDialect String :=
  (parse s).map display

theorem normalize_eq_ok_iff {s t : String} :
    normalize s = .ok t ↔ ∃ v, parse s = .ok v ∧ v.display = t := by
  unfold normalize
  cases parse s <;> simp [Except.map]

/-! ## Summaries -/

/-- The dialect that is reported for a collection: that of the compilation, or else that of
the first finding that has one. -/
inductive Reported (c : Collection) (v : Dialect) : Prop where
  | context (h : c.context.dialect = some v)
  | finding {before after : List Finding} {f : Finding} (hcontext : c.context.dialect = none)
      (hfindings : c.findings = before ++ f :: after) (hbefore : ∀ g ∈ before, g.dialect = none)
      (h : f.dialect = some v)

theorem reported_of_summary {c : Collection} {v : Dialect}
    (h : (Summary.ofCollection c).dialect = some v) : Reported c v := by
  rcases Option.or_eq_some_iff.1 h with h | ⟨hcontext, h⟩
  · exact .context h
  · obtain ⟨before, f, after, hfindings, hf, hbefore⟩ := List.findSome?_eq_some_iff.1 h
    exact .finding hcontext hfindings hbefore hf

theorem text?_dml_version (s : Summary) :
    s.toValue.text? "dml_version" = s.dialect.map display := by
  cases hdialect : s.dialect <;>
    simp [Summary.toValue, Summary.withCounts, Json.Value.text?, Json.Value.asString?, Json.Value.ofOption, hdialect]

/-- A text is accepted if and only if it names a version once the blanks at its ends are off,
and that version is the result; otherwise the error holds the text without those blanks.  A
displayed version is parsed as itself, with any blanks around it, so the displayed form of
what was parsed is the same version and its own displayed form.  The dialect that a summary
names is parsed as the one that was reported. -/
theorem parse_grammar :
    (∀ s v, parse s = .ok v ↔ ∃ t, Text.IsTrimmed s t ∧ Names t.toList v) ∧
    (∀ s e, parse s = .error e ↔
      Text.IsTrimmed s e.input ∧ ∀ v, ¬Names e.input.toList v) ∧
    (∀ v before after, Text.allBlank before = true → Text.allBlank after = true →
      parse (before ++ display v ++ after) = .ok v) ∧
    (∀ s t, normalize s = .ok t → parse t = parse s ∧ normalize t = .ok t) ∧
    ∀ c t, (Summary.ofCollection c).toValue.text? "dml_version" = some t →
      ∃ v, Reported c v ∧ parse t = .ok v := by
  refine ⟨fun s v => ?_, fun s e => ?_, fun v _ _ => v.parse_display, fun s t hs => ?_,
    fun c t ht => ?_⟩
  · simp only [Text.isTrimmed_iff, exists_eq_left', parse_eq_ok_iff]
  · rw [Text.isTrimmed_iff, parse_eq_error_iff, eq_comm]
  · obtain ⟨v, hv, rfl⟩ := normalize_eq_ok_iff.1 hs
    have hdisplay := v.parse_display_self
    exact ⟨hdisplay.trans hv.symm, normalize_eq_ok_iff.2 ⟨v, hdisplay, rfl⟩⟩
  · rw [text?_dml_version] at ht
    obtain ⟨v, hv, rfl⟩ := Option.map_eq_some_iff.1 ht
    exact ⟨v, reported_of_summary hv, v.parse_display_self⟩

/-- Signs, leading zeros and white space of every kind are accepted, and the greatest number
is; what is displayed after all that is the plain form. -/
theorem parse_grammar_lenient :
    parse "\u00a0+0001.065535\n" = .ok ⟨1, 65535⟩ ∧
    parse " 1.65536 " = .error ⟨"1.65536"⟩ ∧
    parse ("\u3000" ++ display ⟨1, 4⟩ ++ "\t") = .ok ⟨1, 4⟩ ∧
    normalize "01.+4" = .ok "1.4" ∧ normalize "1.4" = .ok "1.4" := by
  obtain ⟨-, -, haround, hnormal, -⟩ := parse_grammar
  have hlenient : normalize "01.+4" = .ok "1.4" := by decide +kernel
  exact ⟨by decide +kernel, by decide +kernel,
    haround ⟨1, 4⟩ "\u3000" "\t" (by decide) (by decide), hlenient,
    (hnormal _ _ hlenient).2⟩

end DmlReport.Dialect
