import DmlReport.Json.Value
import DmlReport.Text.Utf8

/-!
# Writing JSON

One writer serves both forms of text.  A `Style` says what stands before each
item of a container and before its closing bracket, depending on the depth, and
what separates a key from its value.  The compact style has nothing there; the
indented style starts a new line and indents it by a fixed width per level.
An empty container is closed at once in both.

Text inside quotes is written as it is, except for the quote, the backslash and
the control characters below U+0020.

A map whose keys are values becomes an object if its keys become texts, and
otherwise it cannot be written.
-/

namespace DmlReport.Json

/-- What a writer puts between the parts of a value. -/
structure Style where
  /-- Stands before an item, or before a closing bracket, at a depth. -/
  lineBreak : Nat → List Char
  /-- Stands between a key and its value. -/
  colon : List Char

/-- No space anywhere. -/
def Style.compact : Style where
  lineBreak _ := []
  colon := [':']

/-- One item a line, indented by `width` spaces per level. -/
def Style.indented (width : Nat) : Style where
  lineBreak depth := '\n' :: List.replicate (width * depth) ' '
  colon := [':', ' ']

namespace Writer

/-- A hexadecimal digit, with letters in lower case. -/
def hexDigit (n : Nat) : Char :=
  (n % 16).digitChar

/-- A character as it is written inside quotes. -/
def escape (c : Char) : List Char :=
  if c = '"' then ['\\', '"']
  else if c = '\\' then ['\\', '\\']
  else if 0x20 ≤ c.toNat then [c]
  else if c = '\x08' then ['\\', 'b']
  else if c = '\x0C' then ['\\', 'f']
  else if c = '\n' then ['\\', 'n']
  else if c = '\r' then ['\\', 'r']
  else if c = '\t' then ['\\', 't']
  else ['\\', 'u', '0', '0', hexDigit (c.toNat / 16), hexDigit c.toNat]

def quote (s : String) : List Char :=
  '"' :: (s.toList.flatMap escape ++ ['"'])

mutual

/-- A value at a depth. -/
def write (style : Style) (depth : Nat) : Value → List Char
  | .null => "null".toList
  | .bool true => "true".toList
  | .bool false => "false".toList
  | .number n => n.chars
  | .string s => quote s
  | .array [] => ['[', ']']
  | .array (item :: items) =>
    '[' :: (style.lineBreak (depth + 1) ++ write style (depth + 1) item ++
      writeItems style (depth + 1) items ++ style.lineBreak depth ++ [']'])
  | .object [] => ['\x7b', '\x7d']
  | .object ((key, value) :: members) =>
    '\x7b' :: (style.lineBreak (depth + 1) ++ quote key ++ style.colon ++
      write style (depth + 1) value ++
      writeMembers style (depth + 1) members ++ style.lineBreak depth ++ ['\x7d'])
termination_by structural value => value

/-- The items after the first, each after a comma. -/
def writeItems (style : Style) (depth : Nat) : List Value → List Char
  | [] => []
  | item :: items =>
    ',' :: (style.lineBreak depth ++ write style depth item ++ writeItems style depth items)
termination_by structural items => items

/-- The members after the first, each after a comma. -/
def writeMembers (style : Style) (depth : Nat) : List (String × Value) → List Char
  | [] => []
  | (key, value) :: members =>
    ',' :: (style.lineBreak depth ++ quote key ++ style.colon ++ write style depth value ++
      writeMembers style depth members)
termination_by structural members => members

end

end Writer

/-- Why something cannot be written. -/
inductive WriteFault where
  /-- A key of a map is no text and does not become one. -/
  | keyNotText
deriving DecidableEq, Repr

def WriteFault.message : WriteFault → String
  | .keyNotText => "key must be a string"

/-- The key that a value becomes. -/
def Value.asKey : Value → Except WriteFault String
  | .string s => .ok s
  | .bool b => .ok (toString b)
  | .number n => .ok (String.ofList n.chars)
  | .null | .array _ | .object _ => .error .keyNotText

/-- The object of a map whose keys are values. -/
def Value.ofMap (entries : List (Value × Value)) : Except WriteFault Value := do
  let members ← entries.mapM fun (key, value) => do return (← key.asKey, value)
  return .object members

/-- The text of a value without any space. -/
def Value.compact (v : Value) : String :=
  String.ofList (Writer.write .compact 0 v)

/-- The text of a value with one item a line, indented by `width` spaces. -/
def Value.indented (width : Nat) (v : Value) : String :=
  String.ofList (Writer.write (.indented width) 0 v)

/-- The bytes of that text. -/
def Value.indentedBytes (width : Nat) (v : Value) : List UInt8 :=
  Text.encode (Writer.write (.indented width) 0 v)

end DmlReport.Json
