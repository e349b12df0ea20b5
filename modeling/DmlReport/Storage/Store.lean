import DmlReport.Storage.Path

/-!
# Stores

What the library needs of a file system: reading a file, telling whether there
is one, and a few steps that change it.  Each step can fail, and a failed one is
an ordinary result.  The library is written against a `Store`; the command line
uses that of the operating system, and `Storage.Tree` is one that is a value.
-/

namespace DmlReport

/-- Why an operation on files fails. -/
inductive Failure where
  | notFound
  | busy
  | notDirectory
  | isDirectory
  | nameTooLong
  /-- The contents of a file are no UTF-8. -/
  | notText
  /-- A path has a NUL character. -/
  | invalidPath
  /-- Another reason, in the words of the store. -/
  | other (reason : String)
deriving DecidableEq, Repr

def Failure.message : Failure → String
  | .notFound => "No such file or directory (os error 2)"
  | .busy => "Device or resource busy (os error 16)"
  | .notDirectory => "Not a directory (os error 20)"
  | .isDirectory => "Is a directory (os error 21)"
  | .nameTooLong => "File name too long (os error 36)"
  | .notText => "stream did not contain valid UTF-8"
  | .invalidPath => "file name contained an unexpected NUL byte"
  | .other reason => reason

/-- A step that changes files. -/
inductive FileStep where
  /-- Makes an empty file, or empties the one there is. -/
  | create (path : Path)
  /-- Gives a file its contents. -/
  | write (path : Path) (contents : String)
  /-- Makes sure that the contents of a file are stored. -/
  | sync (path : Path)
  /-- Gives a file another path, in place of a file that is there. -/
  | rename (source target : Path)
  | remove (path : Path)
deriving DecidableEq, Repr

/-- A file system, in a monad of its own. -/
structure Store (m : Type → Type) where
  workingDirectory : m (Except Failure Path)
  read : Path → m (Except Failure (List UInt8))
  /-- Whether a path names a file that is no directory. -/
  isFile : Path → m Bool
  perform : FileStep → m (Except Failure Unit)

namespace Store

/-- Takes steps in order, up to the first that fails. -/
def performAll [Monad m] (store : Store m) : List FileStep → m (Except Failure Unit)
  | [] => pure (.ok ())
  | step :: rest => do
    match ← store.perform step with
    | .ok () => store.performAll rest
    | .error e => pure (.error e)

/-- The steps that put a text at a path: the text is staged as a whole before
anything happens to the path itself. -/
def replacement (path : Path) (contents : String) : List FileStep :=
  [.create path.staging, .write path.staging contents, .sync path.staging,
    .rename path.staging path]

/-- Puts a text at a path.  If a step fails, what was staged is removed. -/
def replace [Monad m] (store : Store m) (path : Path) (contents : String) :
    m (Except Failure Unit) := do
  match ← store.performAll (replacement path contents) with
  | .ok () => pure (.ok ())
  | .error e =>
    let _ ← store.perform (.remove path.staging)
    pure (.error e)

end Store

end DmlReport
