import DmlReport.Json.Number

/-!
# JSON values

A value is a tree.  An object is a list of members in the order in which they
are written.  A value that was read has its members in increasing order of
their keys, each key once (`insert` keeps both); a value that describes a
record of the library has its members in the record's own order.
-/

namespace DmlReport.Json

inductive Value where
  | null
  | bool (b : Bool)
  | number (n : Number)
  | string (s : String)
  | array (items : List Value)
  | object (members : List (String × Value))
deriving Repr

namespace Value

def integer (n : Int) : Value :=
  .number (.integer n)

def nat (n : Nat) : Value :=
  .integer n

/-- An optional value, with null for none. -/
def ofOption (toValue : α → Value) : Option α → Value
  | none => .null
  | some a => toValue a

def asString? : Value → Option String
  | .string s => some s
  | _ => none

end Value

abbrev Members := List (String × Value)

namespace Members

/-- Adds a member to members in increasing order of keys, in place of one with
the same key. -/
def insert (key : String) (value : Value) : Members → Members
  | [] => [(key, value)]
  | (k, v) :: rest =>
    if key < k then (key, value) :: (k, v) :: rest
    else if key = k then (key, value) :: rest
    else (k, v) :: insert key value rest

/-- The value of the member with a key. -/
def get? (members : Members) (key : String) : Option Value :=
  members.lookup key

theorem get?_cons (key k : String) (v : Value) (members : Members) :
    get? ((k, v) :: members) key = if key = k then some v else members.get? key := by
  rw [get?, List.lookup_cons]
  by_cases h : key = k
  · simp [h]
  · rw [beq_false_of_ne h, if_neg h]
    rfl

end Members

end DmlReport.Json
