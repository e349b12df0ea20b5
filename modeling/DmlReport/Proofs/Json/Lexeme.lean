import DmlReport.Json.Token
import DmlReport.Json.Writer
import DmlReport.Proofs.Json.Shape
import DmlReport.Proofs.Number.Digits

/-!
# What is written is one token

Text in quotes and numerals are written so that a reader takes them up again as one
token, whatever follows a text in quotes, and whatever follows a numeral that could not
belong to it.  `Spells` says so of a piece of text; each scalar, and each key, spells
the token of its node.
-/

namespace DmlReport.Json

/-! ## Text in quotes -/

namespace Writer

/-- The part of a text in quotes that a reader makes of an escaped character: its number
where the escape is a number, and otherwise the character. -/
def unitOf (c : Char) : QuotedUnit :=
  if c.toNat < 0x20 ∧ c ∉ ['\x08', '\x0C', '\n', '\r', '\t'] then .code c.toNat else .char c

theorem hexValue4?_hexDigit {n : Nat} (h : n < 0x20) :
    Token.hexValue4? '0' '0' (hexDigit (n / 16)) (hexDigit n) = some n := by
  revert n
  decide

/-- One escaped character is one part. -/
theorem quotedUnits_escape (c : Char) (units : List QuotedUnit) (used : Nat) (rest : List Char) :
    Token.quotedUnits units used (escape c ++ rest) =
      Token.quotedUnits (unitOf c :: units) (used + (escape c).length) rest := by
  by_cases hquote : c = '"'
  · subst hquote
    rfl
  by_cases hslash : c = '\\'
  · subst hslash
    rfl
  by_cases hplain : 0x20 ≤ c.toNat
  · have hescape : escape c = [c] := by simp [escape, hquote, hslash, hplain]
    have hunit : unitOf c = .char c := if_neg fun h => absurd h.1 (by omega)
    rw [hescape, hunit, List.singleton_append, Token.quotedUnits, if_neg hquote,
      if_neg (not_or.2 ⟨hslash, by omega⟩)]
    · rfl
    · intro _ _ _ _ _ heq
      exact absurd heq hslash
    · intro _ _ heq
      exact absurd heq hslash
  by_cases hshort : c ∈ ['\x08', '\x0C', '\n', '\r', '\t']
  · simp only [List.mem_cons, List.not_mem_nil, or_false] at hshort
    rcases hshort with rfl | rfl | rfl | rfl | rfl <;> rfl
  · have hunit : unitOf c = .code c.toNat := if_pos ⟨by omega, hshort⟩
    have hescape : escape c =
        ['\\', 'u', '0', '0', hexDigit (c.toNat / 16), hexDigit c.toNat] := by
      simp only [List.mem_cons, List.not_mem_nil, or_false, not_or] at hshort
      simp [escape, hquote, hslash, hplain, hshort]
    rw [hescape, hunit]
    show Token.quotedUnits units used
      ('\\' :: 'u' :: '0' :: '0' :: hexDigit (c.toNat / 16) :: hexDigit c.toNat :: rest) = _
    rw [Token.quotedUnits, hexValue4?_hexDigit (by omega)]
    rfl

theorem quotedUnits_escaped (cs : List Char) (units : List QuotedUnit) (used : Nat)
    (rest : List Char) :
    Token.quotedUnits units used (cs.flatMap escape ++ '"' :: rest) =
      some (units.reverse ++ cs.map unitOf, used + (cs.flatMap escape).length + 1) := by
  induction cs generalizing units used with
  | nil => simp [Token.quotedUnits]
  | cons c cs ih =>
    rw [List.flatMap_cons, List.append_assoc, quotedUnits_escape, ih]
    simp [Nat.add_assoc]

theorem joinUnits_code {n : Nat} (h : n < 0x20) (text : List Char) (units : List QuotedUnit) :
    Token.joinUnits text (.code n :: units) = Token.joinUnits (Char.ofNat n :: text) units := by
  have hhigh : Token.isHighSurrogate n = false := by simp [Token.isHighSurrogate]; omega
  have hlow : Token.isLowSurrogate n = false := by simp [Token.isLowSurrogate]; omega
  rcases units with _ | ⟨c | m, units⟩ <;> simp [Token.joinUnits, hhigh, hlow]

/-- The parts that a text is read as denote its characters. -/
theorem joinUnits_map_unitOf (text cs : List Char) :
    Token.joinUnits text (cs.map unitOf) = some (text.reverse ++ cs) := by
  induction cs generalizing text with
  | nil => simp [Token.joinUnits]
  | cons c cs ih =>
    have hstep : Token.joinUnits text (unitOf c :: cs.map unitOf) =
        Token.joinUnits (c :: text) (cs.map unitOf) := by
      unfold unitOf
      split
      · rename_i h
        rw [joinUnits_code h.1, Char.ofNat_toNat]
      · rw [Token.joinUnits]
    rw [List.map_cons, hstep, ih]
    simp

theorem ofQuoted_escaped (s : String) (rest : List Char) :
    Token.ofQuoted (s.toList.flatMap escape ++ '"' :: rest) =
      (.string (some s), (s.toList.flatMap escape).length + 1) := by
  rw [Token.ofQuoted, quotedUnits_escaped]
  simp [joinUnits_map_unitOf]

end Writer

/-! ## Numerals -/

namespace Literal

/-- The digits of a fraction as they are written. -/
def fractionChars : Option (List Char) → List Char
  | none => []
  | some digits => '.' :: digits

/-- The sign and digits of an exponent as they are written. -/
def exponentChars : Option (Bool × List Char) → List Char
  | none => []
  | some (down, digits) => 'e' :: (if down then '-' else '+') :: digits

/-- A literal as it is written after its sign. -/
def magnitude (l : Literal) : List Char :=
  l.whole ++ (fractionChars l.fraction ++ exponentChars l.exponent)

/-- A literal as it is written. -/
def chars (l : Literal) : List Char :=
  if l.negative then '-' :: l.magnitude else l.magnitude

/-- A literal is a numeral of JSON. -/
structure Proper (l : Literal) : Prop where
  whole : Token.isWholePart l.whole = true
  isDigit : ∀ c ∈ l.whole, c.isDigit = true
  fraction : ∀ digits ∈ l.fraction, digits ≠ [] ∧ ∀ c ∈ digits, c.isDigit = true
  exponent : ∀ e ∈ l.exponent, e.2 ≠ [] ∧ ∀ c ∈ e.2, c.isDigit = true

end Literal

/-- Nothing at the start of a text could belong to digits before it. -/
def EndsDigits (rest : List Char) : Prop :=
  ∀ c ∈ rest.head?, c.isDigit = false

/-- Nothing at the start of a text could belong to a numeral before it. -/
def EndsNumber (rest : List Char) : Prop :=
  ∀ c ∈ rest.head?, c.isDigit = false ∧ c ≠ '.' ∧ c ≠ 'e' ∧ c ≠ 'E'

theorem EndsNumber.nil : EndsNumber [] := by simp [EndsNumber]

theorem EndsNumber.of_not_mem {c : Char} (hdigit : c.isDigit = false)
    (hmark : c ∉ ['.', 'e', 'E']) (rest : List Char) : EndsNumber (c :: rest) := by
  simp only [List.mem_cons, List.not_mem_nil, or_false, not_or] at hmark
  simpa [EndsNumber, hdigit] using hmark

theorem EndsNumber.endsDigits {rest : List Char} (h : EndsNumber rest) : EndsDigits rest :=
  fun c hc => (h c hc).1

namespace Token

variable {rest : List Char}

theorem splitDigits_append {digits : List Char} (hdigits : ∀ c ∈ digits, c.isDigit = true)
    (h : EndsDigits rest) : splitDigits (digits ++ rest) = (digits, rest) := by
  have hrest : rest.takeWhile Char.isDigit = [] ∧ rest.dropWhile Char.isDigit = rest := by
    cases rest with
    | nil => exact ⟨rfl, rfl⟩
    | cons c rest =>
      have hc := h c rfl
      exact ⟨List.takeWhile_cons_of_neg (by simp [hc]), List.dropWhile_cons_of_neg (by simp [hc])⟩
  rw [splitDigits, List.takeWhile_append_of_pos hdigits, List.dropWhile_append_of_pos hdigits,
    hrest.1, hrest.2, List.append_nil]

theorem fraction?_fractionChars {fraction : Option (List Char)}
    (hfraction : ∀ digits ∈ fraction, digits ≠ [] ∧ ∀ c ∈ digits, c.isDigit = true)
    (hrest : EndsDigits rest) (hpoint : rest.head? ≠ some '.') :
    fraction? (Literal.fractionChars fraction ++ rest) =
      some ⟨fraction, (Literal.fractionChars fraction).length, rest⟩ := by
  cases fraction with
  | none =>
    show fraction? rest = some ⟨none, 0, rest⟩
    cases rest with
    | nil => rfl
    | cons c rest =>
      rw [fraction?]
      intro _ heq
      exact absurd (congrArg some (List.cons.inj heq).1) hpoint
  | some digits =>
    obtain ⟨hne, hdigits⟩ := hfraction digits rfl
    obtain ⟨c, tail, rfl⟩ := List.exists_cons_of_ne_nil hne
    show fraction? ('.' :: (c :: tail ++ rest)) = _
    rw [fraction?, splitDigits_append hdigits hrest]
    rfl

theorem exponentDigits?_append {digits : List Char} (hne : digits ≠ [])
    (hdigits : ∀ c ∈ digits, c.isDigit = true) (hrest : EndsDigits rest) (down : Bool)
    (before : Nat) : exponentDigits? down before (digits ++ rest) =
      some ⟨some (down, digits), before + digits.length, rest⟩ := by
  obtain ⟨c, tail, rfl⟩ := List.exists_cons_of_ne_nil hne
  rw [exponentDigits?, splitDigits_append hdigits hrest]

theorem exponent?_exponentChars {exponent : Option (Bool × List Char)}
    (hexponent : ∀ e ∈ exponent, e.2 ≠ [] ∧ ∀ c ∈ e.2, c.isDigit = true)
    (hrest : EndsNumber rest) :
    exponent? (Literal.exponentChars exponent ++ rest) =
      some ⟨exponent, (Literal.exponentChars exponent).length, rest⟩ := by
  cases exponent with
  | none =>
    show exponent? rest = some ⟨none, 0, rest⟩
    cases rest with
    | nil => rfl
    | cons c rest =>
      obtain ⟨-, -, hlower, hupper⟩ := hrest c rfl
      exact if_neg (not_or.2 ⟨hlower, hupper⟩)
  | some e =>
    obtain ⟨down, digits⟩ := e
    obtain ⟨hne, hdigits⟩ := hexponent _ rfl
    have htail (down : Bool) := exponentDigits?_append hne hdigits hrest.endsDigits down 2
    have hlength : (Literal.exponentChars (some (down, digits))).length = 2 + digits.length := by
      simp only [Literal.exponentChars, List.length_cons]
      omega
    rw [hlength]
    cases down with
    | true => exact htail true
    | false => exact htail false

/-- What follows the whole part of a numeral is neither a digit nor, after the fraction, a
point. -/
theorem ends_exponentChars (exponent : Option (Bool × List Char)) (hrest : EndsNumber rest) :
    EndsDigits (Literal.exponentChars exponent ++ rest) ∧
      (Literal.exponentChars exponent ++ rest).head? ≠ some '.' := by
  cases exponent with
  | none => exact ⟨hrest.endsDigits, fun h => (hrest '.' h).2.1 rfl⟩
  | some e => exact ⟨fun c hc => by cases hc; rfl, nofun⟩

theorem ends_fractionChars (fraction : Option (List Char)) (hrest : EndsDigits rest) :
    EndsDigits (Literal.fractionChars fraction ++ rest) := by
  cases fraction with
  | none => exact hrest
  | some digits =>
    intro c hc
    cases hc
    rfl

/-- A numeral is read whole. -/
theorem unsigned?_magnitude {l : Literal} (hl : l.Proper) (hrest : EndsNumber rest) :
    unsigned? l.negative (l.magnitude ++ rest) = some ⟨l, l.magnitude.length, rest⟩ := by
  obtain ⟨hdigits, hpoint⟩ := ends_exponentChars l.exponent hrest
  have hwhole := splitDigits_append hl.isDigit (ends_fractionChars l.fraction hdigits)
  have hfraction := fraction?_fractionChars hl.fraction hdigits hpoint
  have hexponent := exponent?_exponentChars hl.exponent hrest
  have hlength : l.magnitude.length = l.whole.length +
      (Literal.fractionChars l.fraction).length + (Literal.exponentChars l.exponent).length := by
    simp [Literal.magnitude, Nat.add_assoc]
  rw [hlength, Literal.magnitude, List.append_assoc, List.append_assoc, unsigned?, hwhole]
  simp only [hl.whole, if_true, hfraction, hexponent]

theorem isWholePart_of_leading {digits : List Char} (hne : digits ≠ [])
    (hleading : digits.head? ≠ some '0') : isWholePart digits = true := by
  unfold isWholePart
  split
  · exact absurd rfl hne
  · exact absurd rfl hleading
  · rfl

end Token

theorem Literal.Proper.first_digit {l : Literal} (hl : l.Proper) :
    ∃ c tail, l.magnitude = c :: tail ∧ c.isDigit = true := by
  cases hwhole : l.whole with
  | nil =>
    have hpart := hl.whole
    rw [hwhole] at hpart
    cases hpart
  | cons c rest =>
    refine ⟨c, _, by rw [magnitude, hwhole]; rfl, hl.isDigit c ?_⟩
    rw [hwhole]
    exact List.mem_cons_self

theorem Literal.proper_ofInteger (n : Int) : (ofInteger n).Proper where
  whole := by
    show Token.isWholePart (Nat.toDigits 10 n.natAbs) = true
    rcases Nat.eq_zero_or_pos n.natAbs with hzero | hpos
    · rw [hzero]
      rfl
    · exact Token.isWholePart_of_leading Nat.toDigits_ne_nil (Nat.head?_toDigits hpos)
  isDigit _ hc := Nat.isDigit_of_mem_toDigits (by decide) (by decide) hc
  fraction := nofun
  exponent := nofun

theorem Literal.chars_ofInteger (n : Int) : (ofInteger n).chars = Number.integerChars n := by
  have hmagnitude : (ofInteger n).magnitude = Nat.toDigits 10 n.natAbs := List.append_nil _
  unfold chars Number.integerChars
  rw [hmagnitude]
  show (if decide (n < 0) = true then _ else _) = _
  simp only [decide_eq_true_eq]

theorem Literal.value?_ofInteger {n : Int} (hleast : -(maxNegated : Int) ≤ n)
    (hgreatest : n ≤ maxSignificand) : (ofInteger n).value? = some (.integer n) := by
  have hdigits : Nat.ofDigitChars 10 (ofInteger n).whole 0 = n.natAbs :=
    Nat.ofDigitChars_ten_toDigits
  have heq : (ofInteger n).value? =
      if n < 0 then
        if 0 < n.natAbs ∧ n.natAbs ≤ maxNegated then some (.integer (-n.natAbs))
        else .binary <$> (ofInteger n).binary?
      else if n.natAbs ≤ maxSignificand then some (.integer n.natAbs)
      else .binary <$> (ofInteger n).binary? := by
    rw [← hdigits]
    unfold value? ofInteger
    simp
  rw [heq]
  split
  · rw [if_pos ⟨by omega, by omega⟩]
    congr
    omega
  · rw [if_pos (by omega)]
    congr
    omega

/-! ## Scalars -/

/-- A reader takes up a text as one token, if what follows could not belong to a
numeral. -/
def Spells (t : Token) (text : List Char) : Prop :=
  ∃ c tail, text = c :: tail ∧ isSpace c = false ∧
    ∀ rest, EndsNumber rest → Token.next c (tail ++ rest) = (t, tail.length)

namespace Spells

theorem null : Spells .null "null".toList :=
  ⟨'n', ['u', 'l', 'l'], rfl, rfl, fun _ _ => by simp [Token.next, Token.ofWord]⟩

theorem bool_true : Spells (.bool true) "true".toList :=
  ⟨'t', ['r', 'u', 'e'], rfl, rfl, fun _ _ => by simp [Token.next, Token.ofWord]⟩

theorem bool_false : Spells (.bool false) "false".toList :=
  ⟨'f', ['a', 'l', 's', 'e'], rfl, rfl, fun _ _ => by simp [Token.next, Token.ofWord]⟩

theorem quote (s : String) : Spells (.string (some s)) (Writer.quote s) := by
  refine ⟨'"', s.toList.flatMap Writer.escape ++ ['"'], rfl, rfl, fun rest _ => ?_⟩
  rw [List.append_assoc, List.singleton_append]
  show Token.ofQuoted _ = _
  rw [Writer.ofQuoted_escaped, List.length_append]
  rfl

theorem next_of_isDigit {c : Char} (h : c.isDigit = true) (rest : List Char) :
    Token.next c rest = Token.ofNumber c rest := by
  unfold Token.next
  split
  case h_11 => exact if_pos (Or.inr h)
  all_goals exact absurd h (by decide)

/-- A numeral of JSON spells its literal. -/
theorem literal {l : Literal} (hl : l.Proper) : Spells (.number l) l.chars := by
  unfold Literal.chars
  split
  · rename_i hnegative
    refine ⟨'-', l.magnitude, rfl, rfl, fun rest hrest => ?_⟩
    have hread := Token.unsigned?_magnitude hl hrest
    rw [hnegative] at hread
    show Token.ofNumber '-' _ = _
    rw [Token.ofNumber, if_pos rfl, hread]
  · rename_i hpositive
    obtain ⟨c, tail, hchars, hc⟩ := hl.first_digit
    have hother {d : Char} (hd : d.isDigit = false) : c ≠ d := by
      rintro rfl
      exact absurd hc (by simp [hd])
    have hminus : c ≠ '-' := hother rfl
    have hspace : isSpace c = false := by
      simp [isSpace, hother (d := ' ') rfl, hother (d := '\n') rfl, hother (d := '\r') rfl,
        hother (d := '\t') rfl]
    refine ⟨c, tail, hchars, hspace, fun rest hrest => ?_⟩
    have hread := Token.unsigned?_magnitude hl hrest
    rw [hchars, List.cons_append, Bool.eq_false_iff.2 hpositive] at hread
    rw [next_of_isDigit hc, Token.ofNumber, if_neg hminus, hread]
    rfl

end Spells

end DmlReport.Json
