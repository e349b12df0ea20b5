import DmlReport.Command.Outcome
import DmlReport.Scope

/-!
# Replaying diagnostics

`triage replay` sends the diagnostics of a file through the same gate that the
compiler uses.  Each one is shown on the primary stream, and if there is a
destination, the document of all of them is written when the run ends.  The exit
status is 1 if a diagnostic is an error or the file cannot be read to its end;
if only the document cannot be written, it is 2.
-/

namespace DmlReport.Command

/-- A diagnostic as a line of the primary stream. -/
def primaryLine (d : Diagnostic) : String :=
  let location := ((d.location.bind Location.render?).map (· ++ ": ")).getD ""
  let code := (d.code.map (" " ++ ·)).getD ""
  location ++ d.kind.name ++ code ++ ": " ++ d.message.getD ""

/-- Whether a diagnostic is shown; a quiet run shows those of the graver
severities only. -/
def isShown (quiet : Bool) (d : Diagnostic) : Bool :=
  !quiet || d.kind.severity.isError

/-- How far a replay has come. -/
structure Progress where
  gate : Gate
  /-- The number of diagnostics that make a compilation fail. -/
  errors : Nat
  notices : List Notice

namespace Progress

def start (gate : Gate) : Progress := ⟨gate, 0, []⟩

/-- Counts a diagnostic, shows it, and sends it through the gate. -/
def next (quiet : Bool) (p : Progress) (d : Diagnostic) : Progress where
  gate := p.gate.log d
  errors := if d.kind.countsAsError then p.errors + 1 else p.errors
  notices :=
    p.notices ++ (if isShown quiet d then [.line (primaryLine d)] else []) ++
      (p.gate.journal d).map .event

end Progress

/-- Replays lines, the first of which has the given number, up to the first
that ends the stream. -/
def replayLines (quiet : Bool) (path : Path) (number : Nat) (p : Progress) :
    List (List UInt8) → Progress × Option StreamError
  | [] => (p, none)
  | bytes :: rest =>
    match Stream.ofLine path number bytes with
    | .error e => (p, some e)
    | .ok none => replayLines quiet path (number + 1) p rest
    | .ok (some d) => replayLines quiet path (number + 1) (p.next quiet d) rest

def replayContents (quiet : Bool) (path : Path) (gate : Gate) :
    Except Failure (List UInt8) → Progress × Option StreamError
  | .error e => (.start gate, some (.unreadable path e))
  | .ok bytes => replayLines quiet path 1 (.start gate) (Text.physicalLines bytes)

/-- The scope of a replay before any diagnostic. -/
def replayScope (settings : Settings) (options : ReplayOptions) : Scope :=
  let scope := Scope.start (.shut settings.handbook) settings.layout options.destination
  { scope with gate := scope.gate.setContext ⟨options.inputFile, options.dialect⟩ }

/-- The exit status of a replay that reached the end of its file. -/
def exitStatus (errors : Nat) (exported : Bool) : Nat :=
  if 0 < errors then 1 else if exported then 0 else 2

/-- Ends a replay: its scope is left early at a flaw of the stream, and otherwise
it is finished. -/
def endReplay [Monad m] (store : Store m) (scope : Scope) (p : Progress) :
    Option StreamError → m Outcome
  | some flaw => do
    let (_, events) ← scope.close store .left
    return ⟨1, "", p.notices ++ events.map .event, some (.stream flaw)⟩
  | none => do
    let (result, events) ← scope.close store .finished
    let notices := p.notices ++ [.event (.replayed p.errors)] ++ events.map .event
    match result with
    | .ok _ => return ⟨exitStatus p.errors true, "", notices, none⟩
    | .error e => return ⟨exitStatus p.errors false, "", notices, some (.exporting e)⟩

def replay [Monad m] (store : Store m) (settings : Settings) (globals : Globals)
    (options : ReplayOptions) : m Outcome := do
  let scope := replayScope settings options
  let contents ← store.read options.diagnostics
  let (p, flaw) := replayContents globals.quiet options.diagnostics scope.gate contents
  endReplay store { scope with gate := p.gate } p flaw

end DmlReport.Command
