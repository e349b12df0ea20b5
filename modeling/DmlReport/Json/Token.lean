import DmlReport.Json.Number

/-!
# Tokens of JSON texts

The first token of a text is decided by the text alone, without regard to what
came before it.  `Token.next` gives it together with the number of characters
it takes up after its first one, so that a reader can pass over them.  Text that
starts no token is a `flaw`.

Text in quotes can be well formed and still denote nothing: an escape may name
half of a surrogate pair.  Such a token is a string without a text.
-/

namespace DmlReport.Json

inductive Token where
  | openList
  | closeList
  | openObject
  | closeObject
  | comma
  | colon
  | null
  | bool (b : Bool)
  | number (n : Literal)
  | string (text : Option String)
  | flaw
deriving DecidableEq, Repr

/-- The four characters that may stand between tokens. -/
def isSpace (c : Char) : Bool :=
  c == ' ' || c == '\n' || c == '\r' || c == '\t'

/-- A part of text in quotes: a character, or a code unit given by its number. -/
inductive QuotedUnit where
  | char (c : Char)
  | code (n : Nat)
deriving DecidableEq, Repr

namespace Token

def hexValue? (c : Char) : Option Nat :=
  if '0' ≤ c ∧ c ≤ '9' then some (c.toNat - '0'.toNat)
  else if 'a' ≤ c ∧ c ≤ 'f' then some (c.toNat - 'a'.toNat + 10)
  else if 'A' ≤ c ∧ c ≤ 'F' then some (c.toNat - 'A'.toNat + 10)
  else none

/-- The number that four hexadecimal digits give. -/
def hexValue4? (a b c d : Char) : Option Nat := do
  return (((← hexValue? a) * 16 + (← hexValue? b)) * 16 + (← hexValue? c)) * 16 + (← hexValue? d)

/-- The character that a one-letter escape stands for. -/
def unescape? : Char → Option Char
  | '"' => some '"'
  | '\\' => some '\\'
  | '/' => some '/'
  | 'b' => some '\x08'
  | 'f' => some '\x0C'
  | 'n' => some '\n'
  | 'r' => some '\r'
  | 't' => some '\t'
  | _ => none

/-- Reads text after an opening quote up to its closing quote.  `units` holds
what was read, latest first, and `used` counts the characters. -/
def quotedUnits (units : List QuotedUnit) (used : Nat) :
    List Char → Option (List QuotedUnit × Nat)
  | [] => none
  | '\\' :: 'u' :: a :: b :: c :: d :: rest =>
    match hexValue4? a b c d with
    | some n => quotedUnits (.code n :: units) (used + 6) rest
    | none => none
  | '\\' :: e :: rest =>
    match unescape? e with
    | some c => quotedUnits (.char c :: units) (used + 2) rest
    | none => none
  | c :: rest =>
    if c = '"' then some (units.reverse, used + 1)
    else if c = '\\' ∨ c.toNat < 0x20 then none
    else quotedUnits (.char c :: units) (used + 1) rest

/-- Whether a code unit is the first half of a surrogate pair. -/
def isHighSurrogate (n : Nat) : Bool := 0xD800 ≤ n && n ≤ 0xDBFF

/-- Whether a code unit is the second half of a surrogate pair. -/
def isLowSurrogate (n : Nat) : Bool := 0xDC00 ≤ n && n ≤ 0xDFFF

/-- The characters that units denote; `text` holds those found, latest first. -/
def joinUnits (text : List Char) : List QuotedUnit → Option (List Char)
  | [] => some text.reverse
  | .char c :: rest => joinUnits (c :: text) rest
  | .code high :: .code low :: rest =>
    if isHighSurrogate high then
      if isLowSurrogate low then
        joinUnits (Char.ofNat (0x10000 + (high - 0xD800) * 0x400 + (low - 0xDC00)) :: text) rest
      else none
    else if isLowSurrogate high then none
    else joinUnits (Char.ofNat high :: text) (.code low :: rest)
  | .code n :: rest =>
    if isHighSurrogate n || isLowSurrogate n then none
    else joinUnits (Char.ofNat n :: text) rest

/-- The string token after an opening quote. -/
def ofQuoted (rest : List Char) : Token × Nat :=
  match quotedUnits [] 0 rest with
  | some (units, used) => (.string ((joinUnits [] units).map String.ofList), used)
  | none => (.flaw, 0)

/-- The digits at the start of a text, and what follows them. -/
def splitDigits (cs : List Char) : List Char × List Char :=
  (cs.takeWhile Char.isDigit, cs.dropWhile Char.isDigit)

/-- A part of a number literal that was found at the start of a text: its value,
the number of characters it takes up, and what follows it. -/
structure Part (α : Type) where
  value : α
  used : Nat
  rest : List Char

/-- The digits of the fraction at the start of a text, if there is one.  A point
without a digit after it is no fraction and nothing else. -/
def fraction? : List Char → Option (Part (Option (List Char)))
  | '.' :: rest =>
    match splitDigits rest with
    | ([], _) => none
    | (digits, rest) => some ⟨some digits, digits.length + 1, rest⟩
  | rest => some ⟨none, 0, rest⟩

/-- The digits of an exponent after its mark and sign, which take up `before`
characters. -/
def exponentDigits? (down : Bool) (before : Nat) (rest : List Char) :
    Option (Part (Option (Bool × List Char))) :=
  match splitDigits rest with
  | ([], _) => none
  | (digits, rest) => some ⟨some (down, digits), before + digits.length, rest⟩

/-- The sign and digits of the exponent at the start of a text, if there is one. -/
def exponent? : List Char → Option (Part (Option (Bool × List Char)))
  | c :: rest =>
    if c = 'e' ∨ c = 'E' then
      match rest with
      | '-' :: rest => exponentDigits? true 2 rest
      | '+' :: rest => exponentDigits? false 2 rest
      | rest => exponentDigits? false 1 rest
    else some ⟨none, 0, c :: rest⟩
  | [] => some ⟨none, 0, []⟩

/-- Whether digits may stand before the point: at least one, and a zero only
by itself. -/
def isWholePart : List Char → Bool
  | [] => false
  | '0' :: _ :: _ => false
  | _ => true

/-- The number literal at the start of a text without a sign, given the sign
that stands before it. -/
def unsigned? (negative : Bool) (cs : List Char) : Option (Part Literal) :=
  match splitDigits cs with
  | (whole, rest) =>
    if isWholePart whole then
      match fraction? rest with
      | some fraction =>
        match exponent? fraction.rest with
        | some exponent =>
          some ⟨⟨negative, whole, fraction.value, exponent.value⟩,
            whole.length + fraction.used + exponent.used, exponent.rest⟩
        | none => none
      | none => none
    else none

/-- The number token that starts with `c`, a minus sign or a digit. -/
def ofNumber (c : Char) (rest : List Char) : Token × Nat :=
  if c = '-' then
    match unsigned? true rest with
    | some part => (.number part.value, part.used)
    | none => (.flaw, 0)
  else
    match unsigned? false (c :: rest) with
    | some part => (.number part.value, part.used - 1)
    | none => (.flaw, 0)

/-- A token spelled as a word, whose first letter was read. -/
def ofWord (token : Token) (tail rest : List Char) : Token × Nat :=
  if tail.isPrefixOf rest then (token, tail.length) else (.flaw, 0)

/-- The token that starts with `c`, which is no space, and the number of
characters of `rest` that belong to it. -/
def next (c : Char) (rest : List Char) : Token × Nat :=
  match c with
  | '[' => (.openList, 0)
  | ']' => (.closeList, 0)
  | '\x7b' => (.openObject, 0)
  | '\x7d' => (.closeObject, 0)
  | ',' => (.comma, 0)
  | ':' => (.colon, 0)
  | '"' => ofQuoted rest
  | 'n' => ofWord .null ['u', 'l', 'l'] rest
  | 't' => ofWord (.bool true) ['r', 'u', 'e'] rest
  | 'f' => ofWord (.bool false) ['a', 'l', 's', 'e'] rest
  | c => if c = '-' ∨ c.isDigit then ofNumber c rest else (.flaw, 0)

end Token

end DmlReport.Json
