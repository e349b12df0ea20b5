/-!
# Text in TOML documents

Spaces, line ends, comments and the four forms of quoted text.  A function that
reads something gives it with what follows, or nothing if it is not there.
Control characters other than the tab may stand nowhere, not even in a comment.
-/

namespace DmlReport.Toml

/-- A space inside a line. -/
def isSpace (c : Char) : Bool := c == ' ' || c == '\t'

/-- A character that may stand in a comment or in quotes. -/
def isAllowed (c : Char) : Bool :=
  c == '\t' || (0x20 ≤ c.toNat && c.toNat != 0x7F)

/-- What follows the spaces at the start of a text. -/
def skipSpace (cs : List Char) : List Char := cs.dropWhile isSpace

/-- What follows a line end. -/
def newline? : List Char → Option (List Char)
  | '\n' :: rest => some rest
  | '\r' :: '\n' :: rest => some rest
  | _ => none

/-- What follows a comment, if there is one, up to the end of its line. -/
def skipComment : List Char → List Char
  | '#' :: rest => rest.dropWhile isAllowed
  | cs => cs

/-- What follows spaces, a comment and the end of the line or of the text. -/
def lineEnd? (cs : List Char) : Option (List Char) :=
  match skipComment (skipSpace cs) with
  | [] => some []
  | cs => newline? cs

/-- What follows spaces, comments and line ends; a comment runs up to a line
end.  Looks at no more than `fuel` of them. -/
def skipLinesWithin : Nat → List Char → List Char
  | 0, cs => cs
  | fuel + 1, cs =>
    let cs := skipComment (skipSpace cs)
    match newline? cs with
    | some rest => skipLinesWithin fuel rest
    | none => cs

/-- What follows spaces, comments and line ends. -/
def skipLines (cs : List Char) : List Char :=
  skipLinesWithin (cs.length + 1) cs

/-- The value of a hexadecimal digit. -/
def hexValue? (c : Char) : Option Nat :=
  if '0' ≤ c ∧ c ≤ '9' then some (c.toNat - '0'.toNat)
  else if 'a' ≤ c ∧ c ≤ 'f' then some (c.toNat - 'a'.toNat + 10)
  else if 'A' ≤ c ∧ c ≤ 'F' then some (c.toNat - 'A'.toNat + 10)
  else none

/-- The character whose number hexadecimal digits give. -/
def charOfHex? (digits : List Char) : Option Char := do
  let n ← digits.foldlM (fun n c => (hexValue? c).map (16 * n + ·)) 0
  if n.isValidChar then some (Char.ofNat n) else none

/-- The character that a one-letter escape stands for. -/
def unescape? : Char → Option Char
  | 'b' => some '\x08'
  | 't' => some '\t'
  | 'n' => some '\n'
  | 'f' => some '\x0C'
  | 'r' => some '\r'
  | '"' => some '"'
  | '\\' => some '\\'
  | _ => none

/-- The character of an escape after its backslash. -/
def escape? : List Char → Option (Char × List Char)
  | 'u' :: rest =>
    if (rest.take 4).length < 4 then none
    else (charOfHex? (rest.take 4)).map (·, rest.drop 4)
  | 'U' :: rest =>
    if (rest.take 8).length < 8 then none
    else (charOfHex? (rest.take 8)).map (·, rest.drop 8)
  | c :: rest => (unescape? c).map (·, rest)
  | [] => none

/-- Reads text up to a double quote, with escapes; `text` holds what was read,
latest first. -/
def basicWithin (text : List Char) : Nat → List Char → Option (List Char × List Char)
  | 0, _ => none
  | _ + 1, [] => none
  | _ + 1, '"' :: rest => some (text.reverse, rest)
  | fuel + 1, '\\' :: rest =>
    match escape? rest with
    | some (c, rest) => basicWithin (c :: text) fuel rest
    | none => none
  | fuel + 1, c :: rest => if isAllowed c then basicWithin (c :: text) fuel rest else none

/-- Text in double quotes after its opening quote. -/
def basic? (cs : List Char) : Option (List Char × List Char) :=
  basicWithin [] (cs.length + 1) cs

/-- Text in single quotes after its opening quote; it has no escapes. -/
def literal? (cs : List Char) : Option (List Char × List Char) :=
  let text := cs.takeWhile fun c => c != '\'' && isAllowed c
  match cs.drop text.length with
  | '\'' :: rest => some (text, rest)
  | _ => none

/-- Up to two quotes that belong to the text although its closing quotes follow
them, after the first three of a run of quotes. -/
def closeMultiline (quote : Char) (text : List Char) : List Char → List Char × List Char
  | a :: b :: rest =>
    if a = quote then
      if b = quote then ((quote :: quote :: text).reverse, rest)
      else ((quote :: text).reverse, b :: rest)
    else (text.reverse, a :: b :: rest)
  | [a] => if a = quote then ((quote :: text).reverse, []) else (text.reverse, [a])
  | [] => (text.reverse, [])

/-- What follows spaces and line ends. -/
def skipBlank : List Char → List Char
  | '\n' :: rest => skipBlank rest
  | '\r' :: '\n' :: rest => skipBlank rest
  | c :: rest => if isSpace c then skipBlank rest else c :: rest
  | [] => []

/-- What follows a backslash that ends its line: the line end and the spaces and
line ends after it are left out. -/
def continuation? (cs : List Char) : Option (List Char) :=
  (newline? (skipSpace cs)).map skipBlank

/-- Reads text over several lines up to three double quotes. -/
def multilineBasicWithin (text : List Char) : Nat → List Char → Option (List Char × List Char)
  | 0, _ => none
  | _ + 1, [] => none
  | _ + 1, '"' :: '"' :: '"' :: rest => some (closeMultiline '"' text rest)
  | fuel + 1, '\\' :: rest =>
    match continuation? rest with
    | some rest => multilineBasicWithin text fuel rest
    | none =>
      match escape? rest with
      | some (c, rest) => multilineBasicWithin (c :: text) fuel rest
      | none => none
  | fuel + 1, '\n' :: rest => multilineBasicWithin ('\n' :: text) fuel rest
  | fuel + 1, '\r' :: '\n' :: rest => multilineBasicWithin ('\n' :: text) fuel rest
  | fuel + 1, c :: rest =>
    if isAllowed c then multilineBasicWithin (c :: text) fuel rest else none

/-- Reads text over several lines up to three single quotes. -/
def multilineLiteralWithin (text : List Char) : Nat → List Char → Option (List Char × List Char)
  | 0, _ => none
  | _ + 1, [] => none
  | _ + 1, '\'' :: '\'' :: '\'' :: rest => some (closeMultiline '\'' text rest)
  | fuel + 1, '\n' :: rest => multilineLiteralWithin ('\n' :: text) fuel rest
  | fuel + 1, '\r' :: '\n' :: rest => multilineLiteralWithin ('\n' :: text) fuel rest
  | fuel + 1, c :: rest =>
    if isAllowed c then multilineLiteralWithin (c :: text) fuel rest else none

/-- The text without a line end at its very start. -/
def skipFirstNewline (cs : List Char) : List Char :=
  (newline? cs).getD cs

/-- A quoted text in any of its forms. -/
def quoted? : List Char → Option (List Char × List Char)
  | '"' :: '"' :: '"' :: rest =>
    let cs := skipFirstNewline rest
    multilineBasicWithin [] (cs.length + 1) cs
  | '"' :: rest => basic? rest
  | '\'' :: '\'' :: '\'' :: rest =>
    let cs := skipFirstNewline rest
    multilineLiteralWithin [] (cs.length + 1) cs
  | '\'' :: rest => literal? rest
  | _ => none

/-- A character of a key without quotes. -/
def isBare (c : Char) : Bool :=
  c.isAlphanum || c == '_' || c == '-'

/-- One part of a key. -/
def keyPart? : List Char → Option (List Char × List Char)
  | '"' :: rest => basic? rest
  | '\'' :: rest => literal? rest
  | cs =>
    match cs.takeWhile isBare with
    | [] => none
    | part => some (part, cs.dropWhile isBare)

/-- The parts of a key, with points between them; spaces may stand around each. -/
def keyWithin : Nat → List Char → Option (List String × List Char)
  | 0, _ => none
  | fuel + 1, cs => do
    let (part, rest) ← keyPart? (skipSpace cs)
    match skipSpace rest with
    | '.' :: rest => do
      let (parts, rest) ← keyWithin fuel rest
      return (String.ofList part :: parts, rest)
    | rest => return ([String.ofList part], rest)

/-- How many parts a key may have. -/
def maxKeyParts : Nat := 79

/-- A key: the parts before its last one, its last part, and what follows. -/
def key? (cs : List Char) : Option (List String × String × List Char) := do
  let (parts, rest) ← keyWithin maxKeyParts cs
  let last ← parts.getLast?
  return (parts.dropLast, last, rest)

end DmlReport.Toml
