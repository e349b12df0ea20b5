/-!
# TOML values

A value of a TOML document, and how a table of one may grow.  A table remembers
where it came from, because that decides what may still be added: a table with a
header of its own can be opened once, one made by dotted keys grows by dotted
keys only, one implied by a longer header can still get its own, and an inline
table is complete.  A name that leads to an array of tables on the way to
something else leads to its last element.

Numbers with a fraction and dates are kept as they are spelled.
-/

namespace DmlReport.Toml

/-- Where a table came from. -/
inductive Origin where
  /-- Its own header. -/
  | header
  /-- The header of a table inside it. -/
  | implied
  | dotted
  | inline
deriving DecidableEq, Repr

inductive Value where
  | string (s : String)
  | integer (n : Int)
  | float (spelled : String)
  | bool (b : Bool)
  | dateTime (spelled : String)
  | array (items : List Value)
  | table (origin : Origin) (entries : List (String × Value))
  /-- An array of tables, each with a header. -/
  | tables (elements : List (List (String × Value)))
deriving Repr

abbrev Entries := List (String × Value)

namespace Entries

/-- Changes the value of a key, or adds one; the change may be refused. -/
def update (key : String) (change : Option Value → Option Value) : Entries → Option Entries
  | [] => (change none).map fun v => [(key, v)]
  | (k, v) :: rest =>
    if k = key then (change (some v)).map fun v => (k, v) :: rest
    else (update key change rest).map ((k, v) :: ·)

def add (key : String) (value : Value) : Entries → Option Entries :=
  update key fun
    | none => some value
    | some _ => none

/-- Changes the last element of an array of tables. -/
def changeLast (change : Entries → Option Entries) : List Entries → Option (List Entries)
  | [] => none
  | [last] => (change last).map ([·])
  | first :: rest => (changeLast change rest).map (first :: ·)

/-- Adds a key inside the tables that the parts of a dotted key before it name.
An array of tables stands for its last element.  The table that gets the key
must be one made by dotted keys; a table with a header on the way is complete. -/
def addDotted (key : String) (value : Value) : List String → Entries → Option Entries
  | [], entries => add key value entries
  | part :: parts, entries =>
    update part (fun
      | none => (addDotted key value parts []).map (.table .dotted)
      | some (.table .dotted inner) => (addDotted key value parts inner).map (.table .dotted)
      | some (.table .implied inner) =>
        if parts.isEmpty then none
        else (addDotted key value parts inner).map (.table .implied)
      | some (.tables elements) =>
        if parts.isEmpty then none
        else (changeLast (addDotted key value parts) elements).map .tables
      | some _ => none) entries

/-- Changes the table that a path of headers leads to.  An array of tables leads
to its last element. -/
def within (change : Entries → Option Entries) : List String → Entries → Option Entries
  | [], entries => change entries
  | name :: names, entries =>
    update name (fun
      | none => (within change names []).map (.table .implied)
      | some (.table .inline _) => none
      | some (.table origin inner) => (within change names inner).map (.table origin)
      | some (.tables elements) => (changeLast (within change names) elements).map .tables
      | some _ => none) entries

/-- Opens a table by its header. -/
def openTable (names : List String) (name : String) : Entries → Option Entries :=
  within (update name fun
    | none => some (.table .header [])
    | some (.table .implied inner) => some (.table .header inner)
    | some _ => none) names

/-- Opens one more element of an array of tables. -/
def openElement (names : List String) (name : String) : Entries → Option Entries :=
  within (update name fun
    | none => some (.tables [[]])
    | some (.tables elements) => some (.tables (elements ++ [[]]))
    | some _ => none) names

end Entries

end DmlReport.Toml
