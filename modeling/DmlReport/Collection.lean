import DmlReport.Finding

/-!
# Collections

A collection gathers the findings of one compilation in the order in which the
diagnostics were raised.  Nothing is reordered, merged or dropped.  Beside the
findings it keeps the context of the compilation: the input file and its
dialect, as far as they were reported.
-/

namespace DmlReport

/-- The input file of a compilation and the dialect it is written in. -/
structure Context where
  inputFile : Option String
  dialect : Option Dialect
deriving DecidableEq, Repr

/-- Nothing was reported. -/
def Context.unknown : Context := ⟨none, none⟩

/-- The findings of a compilation, with the handbook that they are made with. -/
structure Collection where
  handbook : Handbook
  context : Context
  findings : List Finding
deriving Repr

namespace Collection

def empty (h : Handbook) : Collection := ⟨h, .unknown, []⟩

def size (c : Collection) : Nat := c.findings.length

def isEmpty (c : Collection) : Bool := c.findings.isEmpty

/-- The collection with the finding for one more diagnostic. -/
def add (c : Collection) (d : Diagnostic) : Collection :=
  { c with findings := c.findings ++ [.ofDiagnostic c.handbook d] }

/-- The events of adding a diagnostic. -/
def journal (c : Collection) (d : Diagnostic) : List Event :=
  d.journal ++ [.captured d.code (Taxonomy.classify d.code d.kind) c.size]

/-- The collection with another context, in place of the whole old one. -/
def withContext (c : Collection) (context : Context) : Collection :=
  { c with context }

/-- The collection without its findings.  The context stays. -/
def clear (c : Collection) : Collection :=
  { c with findings := [] }

end Collection

end DmlReport
