import DmlReport.Json.Decode

/-!
# Kinds and severities

The compiler raises four kinds of message.  Each kind has a severity; the names
agree except that an internal error of the compiler is fatal.  Only an error of
the user's program makes a compilation fail.
-/

namespace DmlReport

open Json (Decoder)

/-- How grave a message is. -/
inductive Severity where
  | info
  | warning
  | error
  | fatal
deriving DecidableEq, Repr

namespace Severity

/-- The severities and their names, from the least to the gravest. -/
def names : List (String × Severity) :=
  [("info", .info), ("warning", .warning), ("error", .error), ("fatal", .fatal)]

def name : Severity → String
  | .info => "info"
  | .warning => "warning"
  | .error => "error"
  | .fatal => "fatal"

/-- The place of a severity in the order of gravity. -/
def rank : Severity → Nat
  | .info => 0
  | .warning => 1
  | .error => 2
  | .fatal => 3

/-- Whether a message of this severity reports something broken. -/
def isError (s : Severity) : Bool :=
  rank .error ≤ s.rank

def sort (severities : List Severity) : List Severity :=
  severities.mergeSort fun a b => a.rank ≤ b.rank

def decode : Decoder Severity := Json.oneOf names

end Severity

/-- The kind of a message. -/
inductive Kind where
  /-- An error in the user's program, which makes the compilation fail. -/
  | error
  | warning
  /-- A failure of the compiler itself. -/
  | internalError
  /-- A message for information. -/
  | info
deriving DecidableEq, Repr

namespace Kind

def names : List (String × Kind) :=
  [("error", .error), ("warning", .warning), ("internal_error", .internalError), ("info", .info)]

def name : Kind → String
  | .error => "error"
  | .warning => "warning"
  | .internalError => "internal_error"
  | .info => "info"

def severity : Kind → Severity
  | .error => .error
  | .warning => .warning
  | .internalError => .fatal
  | .info => .info

/-- Whether a message of this kind makes the compilation fail. -/
def countsAsError (k : Kind) : Bool :=
  k == .error

theorem lookup_name (k : Kind) : names.lookup k.name = some k := by
  cases k <;> rfl

def decode : Decoder Kind := Json.oneOf names

end Kind

end DmlReport
