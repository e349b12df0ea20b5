import DmlReport.Command.Arguments
import DmlReport.Command.Stream
import DmlReport.Export
import DmlReport.Settings

/-!
# Outcomes

What a run of the program shows: its exit status, its standard output, and in
order what goes to standard error.  A failure of the run is shown last.
-/

namespace DmlReport.Command

/-- Why a run fails, beyond errors in the diagnostics that it replays. -/
inductive RunError where
  | usage (cause : UsageError)
  /-- There is no working directory. -/
  | nowhere (cause : Failure)
  | settings (cause : SettingsError)
  | stream (cause : StreamError)
  | exporting (cause : ExportError)
deriving DecidableEq, Repr

namespace RunError

/-- The fixed part of a message, before the detail of a parser. -/
def headline : RunError → String
  | .usage e => e.message
  | .nowhere e => e.message
  | .settings e => e.headline
  | .stream e => e.headline
  | .exporting e => e.message

def message : RunError → String
  | .usage e => e.message
  | .nowhere e => e.message
  | .settings e => e.message
  | .stream e => e.message
  | .exporting e => e.message

/-- The line that shows the error. -/
def line (e : RunError) : String :=
  s!"error: {e.message}"

end RunError

/-- Something that goes to standard error while a run goes on. -/
inductive Notice where
  /-- A line of the primary stream. -/
  | line (s : String)
  /-- An event, which the log level may hide. -/
  | event (e : Event)
deriving DecidableEq, Repr

/-- A line of the primary stream, without its end. -/
def Notice.line? : Notice → Option String
  | .line s => some s
  | .event _ => none

structure Outcome where
  exit : Nat
  output : String
  notices : List Notice
  failure : Option RunError
deriving DecidableEq, Repr

namespace Outcome

def printed (output : String) : Outcome := ⟨0, output, [], none⟩

/-- A run that fails before it does anything. -/
def refused (exit : Nat) (failure : RunError) : Outcome := ⟨exit, "", [], some failure⟩

def lines (o : Outcome) : List String :=
  o.notices.filterMap Notice.line?

/-- What goes to standard error when the log shows no event. -/
def messages (o : Outcome) : List String :=
  o.lines ++ (o.failure.map RunError.line).toList

end Outcome

end DmlReport.Command
