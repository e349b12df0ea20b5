/-!
# Physical lines of a file

A file of diagnostics is read line by line.  A line ends at a line feed, and a
carriage return right before that line feed belongs to the ending.  Text after
the last line feed is a line of its own; an empty rest is none.
-/

namespace DmlReport.Text

/-- A line, latest byte first, without the carriage return of its ending. -/
def dropReturn : List UInt8 → List UInt8
  | 13 :: line => line
  | line => line

/-- Cuts bytes into lines; `line` holds what was read of the current one,
latest byte first. -/
def linesFrom (line : List UInt8) : List UInt8 → List (List UInt8)
  | [] => if line.isEmpty then [] else [line.reverse]
  | b :: rest =>
    if b = 10 then (dropReturn line).reverse :: linesFrom [] rest
    else linesFrom (b :: line) rest

/-- The physical lines of a file's bytes. -/
def physicalLines (bytes : List UInt8) : List (List UInt8) :=
  linesFrom [] bytes

end DmlReport.Text
