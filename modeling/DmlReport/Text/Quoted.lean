import DmlReport.Text.Invisible

/-!
# Quoted text in messages

A message that shows a text it found puts it in double quotes and escapes what
a reader could not see or could mistake: the quote, the backslash, and the
characters without a visible form of their own.
-/

namespace DmlReport.Text

/-- A character as it is shown inside quotes. -/
def showChar (c : Char) : List Char :=
  if c = '"' then ['\\', '"']
  else if c = '\\' then ['\\', '\\']
  else if c = '\t' then ['\\', 't']
  else if c = '\n' then ['\\', 'n']
  else if c = '\r' then ['\\', 'r']
  else if c = '\x00' then ['\\', '0']
  else if isInvisible c then
    ['\\', 'u', '\x7b'] ++ Nat.toDigits 16 c.toNat ++ ['\x7d']
  else [c]

/-- A text as it is shown in a message. -/
def quoted (s : String) : String :=
  String.ofList ('"' :: (s.toList.flatMap showChar ++ ['"']))

end DmlReport.Text
