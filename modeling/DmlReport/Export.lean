import DmlReport.Document
import DmlReport.Storage.Store

/-!
# Export

Puts the document of a collection at a path.  The document is serialized in steps
that can fail, and the text is complete before any file is touched.  The path holds
either what it held before or the whole document.
-/

namespace DmlReport

inductive ExportError where
  | unwritable (path : Path) (cause : Failure)
  | unrenderable (reason : String)
deriving DecidableEq, Repr

def ExportError.message : ExportError → String
  | .unwritable path cause =>
    s!"failed to write diagnostics export to {path.text}: {cause.message}"
  | .unrenderable reason => s!"failed to serialize diagnostics export: {reason}"

/-- Serializes a collection: encodes its document, writes the bytes of that, and takes
them for a text. -/
def Layout.serialize (l : Layout) (c : Collection) : Except ExportError String :=
  match l.encode c with
  | .error fault => .error (.unrenderable fault.message)
  | .ok document =>
    let bytes := document.indentedBytes l.indent
    match Text.decode? bytes with
    | none => .error (.unrenderable (Text.flaw bytes).message)
    | some text => .ok text

/-- Exports a collection to a path; gives the result and the events. -/
def Layout.exportTo [Monad m] (l : Layout) (store : Store m) (c : Collection) (path : Path) :
    m (Except ExportError Unit × List Event) := do
  match l.serialize c with
  | .error e => pure (.error e, [])
  | .ok text =>
    match ← store.replace path text with
    | .ok () => pure (.ok (), [.exported path.text c.size])
    | .error e => pure (.error (.unwritable path e), [])

end DmlReport
