import DmlReport.Command.Explain
import DmlReport.Command.Replay

/-!
# Runs of the program

A run reads its command line, loads the settings, and carries out the command.
If the settings cannot be loaded it does nothing else.
-/

namespace DmlReport.Command

def programVersion : String := "0.1.0"

def helpText : String :=
  "Structured DML diagnostics export\n\n" ++
  "Usage: triage [OPTIONS] <COMMAND>\n\n" ++
  "Commands:\n" ++
  "  replay <DIAGNOSTICS> [--ai-json <PATH>] [--input-file <FILE>] [--dml-version <VERSION>]\n" ++
  "  explain <CODE> [--kind <KIND>]\n\n" ++
  "Options:\n" ++
  "  -q, --quiet          Suppress all output except errors\n" ++
  "  -v, --verbose        Enable verbose (debug-level) logging\n" ++
  "      --config <PATH>  Path to a custom configuration file\n" ++
  "  -h, --help           Print help\n" ++
  "  -V, --version        Print version\n"

/-- The settings of a run: from the file that is named, or from the working
directory. -/
def loadSettings [Monad m] (store : Store m) (globals : Globals) :
    m (Except RunError Settings) := do
  match globals.config with
  | some path => return (← Settings.loadFile store path).mapError .settings
  | none =>
    match ← store.workingDirectory with
    | .error e => return .error (.nowhere e)
    | .ok directory => return (← Settings.loadDirectory store directory).mapError .settings

def perform [Monad m] (store : Store m) : Request → m Outcome
  | .help => return .printed helpText
  | .version => return .printed s!"{programName} {programVersion}\n"
  | .replay globals options => do
    match ← loadSettings store globals with
    | .error e => return .refused 1 e
    | .ok settings => replay store settings globals options
  | .explain globals options => do
    match ← loadSettings store globals with
    | .error e => return .refused 1 e
    | .ok settings => return explain settings options

def run [Monad m] (store : Store m) (arguments : List String) : m Outcome :=
  match Request.parse arguments with
  | .error e => return .refused 2 (.usage e)
  | .ok request => perform store request

end DmlReport.Command
