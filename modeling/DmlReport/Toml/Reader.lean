import DmlReport.Toml.Number
import DmlReport.Toml.Value

/-!
# Reading TOML documents

A document is a sequence of lines: entries, headers of tables, comments and
empty lines.  An entry belongs to the table of the last header before it.
-/

namespace DmlReport.Toml

/-- Takes a value from the start of a text; gives it with what follows. -/
abbrev ValueReader := List Char → Option (Value × List Char)

/-- The items of an array after its opening bracket or a comma; a comma may
follow the last. -/
def itemsWithin (item : ValueReader) : Nat → List Char → Option (List Value × List Char)
  | 0, _ => none
  | fuel + 1, cs =>
    match skipLines cs with
    | ']' :: rest => some ([], rest)
    | cs => do
      let (value, rest) ← item cs
      match skipLines rest with
      | ',' :: rest => do
        let (values, rest) ← itemsWithin item fuel rest
        return (value :: values, rest)
      | ']' :: rest => return ([value], rest)
      | _ => none

/-- An entry: a key, an equals sign and a value. -/
def entry? (item : ValueReader) (cs : List Char) :
    Option (List String × String × Value × List Char) := do
  let (parts, key, rest) ← key? cs
  let rest ← after? '=' rest
  let (value, rest) ← item (skipSpace rest)
  return (parts, key, value, rest)

/-- The entries of an inline table after its opening brace or a comma. -/
def inlineWithin (item : ValueReader) :
    Nat → Entries → List Char → Option (Entries × List Char)
  | 0, _, _ => none
  | fuel + 1, entries, cs => do
    let (parts, key, value, rest) ← entry? item cs
    let entries ← entries.addDotted key value parts
    match skipSpace rest with
    | ',' :: rest => inlineWithin item fuel entries rest
    | '\x7d' :: rest => return (entries, rest)
    | _ => none

/-- An inline table after its opening brace. -/
def inlineTable? (item : ValueReader) (cs : List Char) : Option (Entries × List Char) :=
  match skipSpace cs with
  | '\x7d' :: rest => some ([], rest)
  | cs => inlineWithin item (cs.length + 1) [] cs

def numeric? : ValueReader := fun cs =>
  let spelled (rest : List Char) := String.ofList (cs.take (cs.length - rest.length))
  match dateTime? cs with
  | some rest => some (.dateTime (spelled rest), rest)
  | none =>
    match (float? cs).or (specialFloat? cs) with
    | some rest => some (.float (spelled rest), rest)
    | none => (integer? cs).map fun (n, rest) => (.integer n, rest)

def textValue? : ValueReader := fun cs =>
  (quoted? cs).map fun (text, rest) => (.string (String.ofList text), rest)

/-- A value that contains no others. -/
def plainValue? : ValueReader
  | '"' :: rest => textValue? ('"' :: rest)
  | '\'' :: rest => textValue? ('\'' :: rest)
  | 't' :: 'r' :: 'u' :: 'e' :: rest => some (.bool true, rest)
  | 'f' :: 'a' :: 'l' :: 's' :: 'e' :: rest => some (.bool false, rest)
  | cs => numeric? cs

/-- A value with at most `levels` arrays and inline tables inside one another. -/
def value? : Nat → ValueReader
  | 0, cs => plainValue? cs
  | levels + 1, cs =>
    match cs with
    | '[' :: rest =>
      (itemsWithin (value? levels) (rest.length + 1) rest).map fun (items, rest) =>
        (.array items, rest)
    | '\x7b' :: rest =>
      (inlineTable? (value? levels) rest).map fun (entries, rest) =>
        (.table .inline entries, rest)
    | cs => plainValue? cs

/-- How many arrays and inline tables may be inside one another. -/
def maxLevels : Nat := 79

/-- A document that is being read: its entries, and the header of the table that
entries belong to. -/
structure Draft where
  entries : Entries
  header : List String

/-- Reads a header after its opening bracket. -/
def header? (draft : Draft) (cs : List Char) : Option (Draft × List Char) :=
  match cs with
  | '[' :: rest => do
    let (names, name, rest) ← key? rest
    let rest ← after? ']' rest
    let rest ← after? ']' rest
    let entries ← draft.entries.openElement names name
    return (⟨entries, names ++ [name]⟩, ← lineEnd? rest)
  | cs => do
    let (names, name, rest) ← key? cs
    let rest ← after? ']' rest
    let entries ← draft.entries.openTable names name
    return (⟨entries, names ++ [name]⟩, ← lineEnd? rest)

/-- Reads a line that is neither empty nor a comment. -/
def line? (draft : Draft) (cs : List Char) : Option (Draft × List Char) :=
  match cs with
  | '[' :: rest => header? draft rest
  | cs => do
    let (parts, key, value, rest) ← entry? (value? maxLevels) cs
    let entries ← draft.entries.within (Entries.addDotted key value parts) draft.header
    return ({ draft with entries }, ← lineEnd? rest)

/-- Reads lines up to the end of the text. -/
def linesWithin : Nat → Draft → List Char → Option Draft
  | 0, _, _ => none
  | fuel + 1, draft, cs =>
    match skipLines cs with
    | [] => some draft
    | cs =>
      match line? draft cs with
      | some (draft, rest) => linesWithin fuel draft rest
      | none => none

/-- The entries of the root table of a document, if the text is one.  A
byte-order mark may stand at its start. -/
def read? (s : String) : Option Entries :=
  let cs := match s.toList with
    | '\uFEFF' :: rest => rest
    | cs => cs
  (linesWithin (cs.length + 1) ⟨[], []⟩ cs).map (·.entries)

end DmlReport.Toml
