/-!
# UTF-8

The bytes of characters, and the text that bytes encode.  Bytes that encode none go wrong
somewhere: at a byte that cannot go on with the character before it or start one, or
because they end inside of a character.
-/

namespace DmlReport.Text

/-- The bytes of characters. -/
def encode (cs : List Char) : List UInt8 :=
  cs.flatMap String.utf8EncodeChar

/-- The text that bytes encode in UTF-8, if they encode one. -/
def decode? (bytes : List UInt8) : Option String :=
  String.fromUTF8? ⟨bytes.toArray⟩

/-- Where bytes go wrong: at a character that starts at an index. -/
inductive Flaw where
  /-- So many of its bytes are in order, and the next one is not. -/
  | broken (length index : Nat)
  /-- There are not enough bytes. -/
  | cutOff (index : Nat)
deriving DecidableEq, Repr

def Flaw.message : Flaw → String
  | .broken length index => s!"invalid utf-8 sequence of {length} bytes from index {index}"
  | .cutOff index => s!"incomplete utf-8 byte sequence from index {index}"

/-- The ranges of the bytes that go on with a character after its first byte; none if a
character of several bytes does not start so. -/
def continuation (first : UInt8) : List (UInt8 × UInt8) :=
  let tail := (0x80, 0xBF)
  if 0xC2 ≤ first && first ≤ 0xDF then [tail]
  else if first == 0xE0 then [(0xA0, 0xBF), tail]
  else if first == 0xED then [(0x80, 0x9F), tail]
  else if 0xE1 ≤ first && first ≤ 0xEF then [tail, tail]
  else if first == 0xF0 then [(0x90, 0xBF), tail, tail]
  else if 0xF1 ≤ first && first ≤ 0xF3 then [tail, tail, tail]
  else if first == 0xF4 then [(0x80, 0x8F), tail, tail]
  else []

/-- Where bytes go wrong after so many of a character that starts at an index and goes on
with bytes in the given ranges. -/
def flawFrom (index length : Nat) : List (UInt8 × UInt8) → List UInt8 → Flaw
  | _, [] => .cutOff index
  | (low, high) :: owed, b :: rest =>
    if low ≤ b && b ≤ high then flawFrom index (length + 1) owed rest
    else .broken length index
  | [], b :: rest =>
    if b < 0x80 then flawFrom (index + length) 1 [] rest
    else
      match continuation b with
      | [] => .broken 1 (index + length)
      | owed => flawFrom (index + length) 1 owed rest

/-- Where bytes that encode no text go wrong first. -/
def flaw (bytes : List UInt8) : Flaw :=
  flawFrom 0 0 [] bytes

end DmlReport.Text
