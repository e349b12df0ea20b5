import DmlReport.Proofs.Command.Simulation
import DmlReport.Proofs.Storage.Replacement

/-!
# A disk that never fails is a tree

A disk adds two things to a tree: it may fail, and it remembers what was tried.
If it denies nothing and no mishap is to come, every program of the library does
on the disk what it does on the tree: the operations of the two stores simulate
each other, so a run of the command line does (`run_simulates`, `run_tree`).
-/

namespace DmlReport

open Command

/-- Nothing is denied and no mishap is to come. -/
structure Disk.Reliable (d : Disk) : Prop where
  denials : d.denials = []
  mishaps : d.mishaps = []

/-- A disk is a tree that never fails. -/
structure Disk.IsTree (d : Disk) (t : Tree) : Prop where
  reliable : d.Reliable
  tree : d.tree = t

namespace Disk.IsTree

/-! ## The operations of the stores -/

theorem workingDirectory :
    Simulates IsTree store.workingDirectory Tree.store.workingDirectory := by
  rintro d _ ⟨hd, rfl⟩
  exact ⟨rfl, hd, rfl⟩

theorem isFile (p : Path) : Simulates IsTree (store.isFile p) (Tree.store.isFile p) := by
  rintro d _ ⟨hd, rfl⟩
  exact ⟨rfl, hd, rfl⟩

theorem read (p : Path) : Simulates IsTree (store.read p) (Tree.store.read p) := by
  rintro d _ ⟨hd, rfl⟩
  refine ⟨?_, hd, rfl⟩
  show d.read p = d.tree.read p
  unfold Disk.read
  rw [hd.denials]
  rfl

theorem perform (step : FileStep) :
    Simulates IsTree (store.perform step) (Tree.store.perform step) := by
  rintro d _ ⟨hd, rfl⟩
  have hdisk : store.perform step d = d.perform step := rfl
  have htree : Tree.store.perform step d.tree = d.tree.attempt step none := by
    dsimp only [Tree.store, Tree.attempt]
    cases d.tree.perform step <;> rfl
  have hattempt : d.tree.attempt step d.mishaps.head?.join = d.tree.attempt step none := by
    rw [hd.mishaps]
    rfl
  rw [hdisk, htree]
  unfold Disk.perform
  rw [hattempt]
  refine ⟨rfl, ⟨hd.denials, ?_⟩, rfl⟩
  show d.mishaps.tail = []
  rw [hd.mishaps]
  rfl

/-! ## Running the program -/

theorem loadFile (path : Path) :
    Simulates IsTree (Settings.loadFile store path) (Settings.loadFile Tree.store path) :=
  (read path).bind fun _ => .pure _

theorem loadDirectory (directory : Path) :
    Simulates IsTree (Settings.loadDirectory store directory)
      (Settings.loadDirectory Tree.store directory) := by
  refine (isFile _).bind fun found => ?_
  cases found with
  | true => exact loadFile _
  | false => exact .pure _

theorem loadSettings (globals : Globals) :
    Simulates IsTree (Command.loadSettings store globals)
      (Command.loadSettings Tree.store globals) := by
  unfold Command.loadSettings
  cases globals.config with
  | some path => exact (loadFile path).bind fun _ => .pure _
  | none =>
    refine workingDirectory.bind fun found => ?_
    cases found with
    | error e => exact .pure _
    | ok directory => exact (loadDirectory directory).bind fun _ => .pure _

theorem request (r : Request) :
    Simulates IsTree (Command.perform store r) (Command.perform Tree.store r) := by
  cases r with
  | help => exact .pure _
  | version => exact .pure _
  | replay globals options =>
    refine (loadSettings globals).bind fun loaded => ?_
    cases loaded with
    | error e => exact .pure _
    | ok settings => exact (read _).bind fun _ => Simulates.endReplay perform _ _ _
  | explain globals options =>
    refine (loadSettings globals).bind fun loaded => ?_
    cases loaded with
    | error e => exact .pure _
    | ok settings => exact .pure _

end Disk.IsTree

/-- A run of the program on a reliable disk is the run on its tree. -/
theorem Command.run_simulates (arguments : List String) :
    Simulates Disk.IsTree (run Disk.store arguments) (run Tree.store arguments) := by
  unfold run
  cases Request.parse arguments with
  | error e => exact .pure _
  | ok r => exact Disk.IsTree.request r

/-- A run of the program on a tree is the run on the disk that has it and never
fails. -/
theorem Command.run_tree (arguments : List String) (t : Tree) :
    run Tree.store arguments t =
      ((run Disk.store arguments (.reliable t)).1,
        (run Disk.store arguments (.reliable t)).2.tree) := by
  obtain ⟨houtcome, -, htree⟩ := run_simulates arguments (.reliable t) t ⟨⟨rfl, rfl⟩, rfl⟩
  exact Prod.ext houtcome.symm htree.symm

end DmlReport
