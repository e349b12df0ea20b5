import DmlReport.Command.Run

/-!
# The command line program

The outer layer: the store of the operating system, and printing.
-/

namespace DmlReport

/-- The failure that an error of the operating system stands for. -/
def failureOf (e : IO.Error) : Failure :=
  match e with
  | .noFileOrDirectory .. => .notFound
  | .resourceBusy 16 _ => .busy
  | .inappropriateType _ 20 _ => .notDirectory
  | .inappropriateType _ 21 _ => .isDirectory
  | e => .other (toString e)

/-- An action's result, with an error as a failure. -/
def attempt (action : IO α) : IO (Except Failure α) := do
  match ← action.toBaseIO with
  | .ok a => return .ok a
  | .error e => return .error (failureOf e)

def performStep : FileStep → IO Unit
  | .create p => IO.FS.writeFile p.text ""
  | .write p contents => IO.FS.writeFile p.text contents
  | .sync p => do
    let handle ← IO.FS.Handle.mk p.text .append
    handle.flush
  | .rename source target => IO.FS.rename source.text target.text
  | .remove p => IO.FS.removeFile p.text

def osStore : Store IO where
  workingDirectory := attempt do return ⟨(← IO.currentDir).toString⟩
  read p := attempt do return (← IO.FS.readBinFile p.text).data.toList
  isFile p := do
    match ← attempt do return !(← (← IO.FS.realPath p.text).isDir) with
    | .ok isFile => return isFile
    | .error _ => return false
  perform step := attempt (performStep step)

/-- The least important level that is shown. -/
def threshold (arguments : List String) : Level :=
  match Command.Request.parse arguments with
  | .ok (.replay globals _) | .ok (.explain globals _) =>
    if globals.verbose then .debug else if globals.quiet then .error else .warn
  | _ => .warn

def logLine (e : Event) : String :=
  let data := e.data.map fun
    | (name, .text s) => s!" {name}={s}"
    | (name, .count n) => s!" {name}={n}"
  s!"{e.level.name} {e.message}{String.join data}"

def Level.isShown (level least : Level) : Bool :=
  match least with
  | .debug => true
  | .info => level != .debug
  | .warn => level == .warn || level == .error
  | .error => level == .error

def printOutcome (least : Level) (o : Command.Outcome) : IO Unit := do
  IO.print o.output
  for notice in o.notices do
    match notice with
    | .line s => IO.eprintln s
    | .event e => if e.level.isShown least then IO.eprintln (logLine e)
  if let some e := o.failure then
    IO.eprintln e.line

end DmlReport

/-- Runs the program on the arguments of the process. -/
def main (arguments : List String) : IO UInt32 := do
  let outcome ← DmlReport.Command.run DmlReport.osStore arguments
  DmlReport.printOutcome (DmlReport.threshold arguments) outcome
  return outcome.exit.toUInt32
