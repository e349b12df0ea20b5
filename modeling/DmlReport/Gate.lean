import DmlReport.Collection

/-!
# The gate

Diagnostics pass one gate.  While it is open they are collected; while it is
shut nothing is kept.  Opening it starts a new collection, and shutting it hands
over the one that was gathered.
-/

namespace DmlReport

/-- A gate that gives its collections a handbook. -/
structure Gate where
  handbook : Handbook
  /-- The collection of an open gate. -/
  active : Option Collection
deriving Repr

namespace Gate

def shut (h : Handbook) : Gate := ⟨h, none⟩

def isOpen (g : Gate) : Bool := g.active.isSome

/-- Opens the gate with an empty collection, whatever was collected before. -/
def enable (g : Gate) : Gate :=
  { g with active := some (.empty g.handbook) }

/-- Shuts the gate; gives what was collected. -/
def disable (g : Gate) : Gate × Option Collection :=
  ({ g with active := none }, g.active)

/-- Changes the collection of an open gate. -/
def modify (g : Gate) (change : Collection → Collection) : Gate :=
  { g with active := g.active.map change }

/-- Lets a diagnostic pass. -/
def log (g : Gate) (d : Diagnostic) : Gate :=
  g.modify (·.add d)

/-- The events of letting a diagnostic pass. -/
def journal (g : Gate) (d : Diagnostic) : List Event :=
  match g.active with
  | some c => c.journal d
  | none => []

/-- Reports the context of the compilation. -/
def setContext (g : Gate) (context : Context) : Gate :=
  g.modify (·.withContext context)

/-- Drops the findings collected so far. -/
def clear (g : Gate) : Gate :=
  g.modify (·.clear)

end Gate

end DmlReport
