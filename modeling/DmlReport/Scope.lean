import DmlReport.Export
import DmlReport.Gate

/-!
# The scope of a compilation

A scope holds the gate of a compilation and knows where the document goes.  It
ends in one of three ways, and in each of them what the gate has collected by
then is exported, if there is a destination.  Who ends it in the ordinary way
waits for the result; otherwise a failure is reported as an event.  A scope is
always released at its end, also a finished one, and then nothing is left to do.
-/

namespace DmlReport

/-- A compilation whose findings are exported when it ends. -/
structure Scope where
  gate : Gate
  layout : Layout
  destination : Option Path
  /-- Whether the scope was ended in the ordinary way. -/
  isFinished : Bool
deriving Repr

inductive Ending where
  | finished
  /-- Early, by leaving its scope. -/
  | left
  /-- By a crash of the compiler. -/
  | crashed
deriving DecidableEq, Repr

namespace Scope

/-- Starts a scope.  Its gate is opened if there is a destination. -/
def start (gate : Gate) (layout : Layout) (destination : Option Path) : Scope where
  gate := if destination.isSome then gate.enable else gate
  layout
  destination
  isFinished := false

/-- Exports what an open gate has collected, if there is a destination.  The
result says whether a document was written. -/
def write [Monad m] (s : Scope) (store : Store m) : m (Except ExportError Bool × List Event) :=
  match s.destination, s.gate.active with
  | some path, some c => do
    match ← s.layout.exportTo store c path with
    | (.ok (), events) => pure (.ok true, events)
    | (.error e, events) => pure (.error e, events)
  | _, _ => pure (.ok false, [])

/-- The events of a result that nobody waits for. -/
def complaint : Except ExportError Bool → List Event
  | .ok _ => []
  | .error e => [.exportFailed e.message]

/-- Releases a scope.  One that was not finished is exported first. -/
def release [Monad m] (s : Scope) (store : Store m) (crashed : Bool) :
    m (Except ExportError Bool × List Event) := do
  if s.isFinished then return (.ok false, [])
  let (result, events) ← s.write store
  return (result, (if crashed then [.unwound] else []) ++ events ++ complaint result)

/-- Finishes a scope: exports it, and then releases it. -/
def finish [Monad m] (s : Scope) (store : Store m) :
    m (Except ExportError Bool × List Event) := do
  let s := { s with isFinished := true }
  let (result, events) ← s.write store
  let (_, later) ← s.release store false
  return (result, events ++ later)

/-- Ends a scope.  The result says whether a document was written. -/
def close [Monad m] (s : Scope) (store : Store m) :
    Ending → m (Except ExportError Bool × List Event)
  | .finished => s.finish store
  | .left => s.release store false
  | .crashed => s.release store true

end Scope

end DmlReport
