/-!
# White space

The characters that count as blank wherever this library asks whether a text
says anything: exactly those with the Unicode property `White_Space`.  The
class is larger than the ASCII one of `Char.isWhitespace` and smaller than
"invisible": a zero-width space or a byte-order mark is not blank.
-/

namespace DmlReport.Text

/-- Whether a character has the Unicode property `White_Space`. -/
def isBlank (c : Char) : Bool :=
  let n := c.toNat
  (0x09 ≤ n && n ≤ 0x0D) || n == 0x20 || n == 0x85 || n == 0xA0 || n == 0x1680 ||
    (0x2000 ≤ n && n ≤ 0x200A) || n == 0x2028 || n == 0x2029 || n == 0x202F ||
    n == 0x205F || n == 0x3000

/-- A list of characters without the blanks at its two ends. -/
def trimChars (cs : List Char) : List Char :=
  ((cs.dropWhile isBlank).reverse.dropWhile isBlank).reverse

/-- A text without the blanks at its two ends. -/
def trim (s : String) : String :=
  String.ofList (trimChars s.toList)

/-- Whether a text consists of blanks only; the empty text does. -/
def allBlank (s : String) : Bool :=
  s.toList.all isBlank

end DmlReport.Text
