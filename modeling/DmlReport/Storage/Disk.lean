import DmlReport.Storage.Tree

/-!
# A file system that can fail

A disk holds a tree, and may refuse to read some files or fail at some steps,
whatever the tree says.  A write that fails may have put down the first part of
its contents; any other step that fails has changed nothing.  A disk remembers
the steps that were tried, each with its result and with the tree after it.
-/

namespace DmlReport

/-- How a step fails. -/
structure Mishap where
  cause : Failure
  /-- How many bytes a write puts down before it fails. -/
  written : Nat
deriving DecidableEq, Repr

/-- A step that was tried. -/
structure Trial where
  step : FileStep
  result : Except Failure Unit
  /-- The tree after the step. -/
  tree : Tree

/-- A tree that may fail, and what was tried on it. -/
structure Disk where
  tree : Tree
  /-- The paths of files that cannot be read, and why not. -/
  denials : List (Path × Failure)
  /-- The mishaps of the steps to come, in order. -/
  mishaps : List (Option Mishap)
  /-- The steps tried so far, in order. -/
  trials : List Trial

/-- The tree that a failing step leaves. -/
def Mishap.leaves (x : Mishap) (t : Tree) : FileStep → Tree
  | .write p contents =>
    match t.write p (contents.toUTF8.data.toList.take x.written) with
    | .ok t => t
    | .error _ => t
  | _ => t

namespace Tree

/-- Takes a step, with a mishap if there is one.  A step that the tree refuses
changes nothing. -/
def attempt (t : Tree) (step : FileStep) : Option Mishap → Except Failure Unit × Tree
  | some x => (.error x.cause, x.leaves t step)
  | none =>
    match t.perform step with
    | .ok t' => (.ok (), t')
    | .error e => (.error e, t)

end Tree

namespace Disk

/-- A disk on which no file is denied and no step fails by a mishap. -/
def reliable (t : Tree) : Disk := ⟨t, [], [], []⟩

def read (d : Disk) (p : Path) : Except Failure (List UInt8) :=
  match d.denials.lookup p with
  | some e => .error e
  | none => d.tree.read p

def perform (d : Disk) (step : FileStep) : Except Failure Unit × Disk :=
  let (result, tree) := d.tree.attempt step d.mishaps.head?.join
  (result, { d with
    tree
    mishaps := d.mishaps.tail
    trials := d.trials ++ [⟨step, result, tree⟩] })

def store : Store (StateM Disk) where
  workingDirectory := fun d => (d.tree.workingDirectory, d)
  read p := fun d => (d.read p, d)
  isFile p := fun d => (d.tree.isFile p, d)
  perform step := fun d => d.perform step

end Disk

end DmlReport
