import DmlReport.Diagnostic
import DmlReport.Storage.Store
import DmlReport.Text.Lines
import DmlReport.Text.Utf8

/-!
# Streams of diagnostics

A file of diagnostics has one JSON object on a line; blank lines mean nothing.
A line that is no text, and one that is no diagnostic, ends the stream.
-/

namespace DmlReport.Command

/-- Why a stream ends early. -/
inductive StreamError where
  /-- The file, or the rest of it, cannot be read. -/
  | unreadable (path : Path) (cause : Failure)
  /-- A line, counted from one, is no diagnostic. -/
  | malformed (path : Path) (line : Nat) (fault : Json.Fault)
deriving DecidableEq, Repr

namespace StreamError

/-- The fixed part of a message, before the detail of a parser. -/
def headline : StreamError → String
  | .unreadable path cause => s!"failed to read {path.text}: {cause.message}"
  | .malformed path line _ => s!"{path.text}:{line}: malformed diagnostic: "

def message : StreamError → String
  | .malformed path line fault => headline (.malformed path line fault) ++ fault.message
  | e => e.headline

end StreamError

namespace Stream

/-- What one line holds: nothing if it is blank, and otherwise a diagnostic. -/
def ofLine (path : Path) (number : Nat) (bytes : List UInt8) :
    Except StreamError (Option Diagnostic) :=
  match Text.decode? bytes with
  | none => .error (.unreadable path .notText)
  | some s =>
    if Text.allBlank s then .ok none
    else
      match Json.decodeText Diagnostic.decode s with
      | .ok d => .ok (some d)
      | .error fault => .error (.malformed path number fault)

end Stream

end DmlReport.Command
