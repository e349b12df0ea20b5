import DmlReport.Json.Fault
import DmlReport.Json.Node

/-!
# Decoding JSON

A decoder turns a node into a value of some type, or names the first fault in
the order of the text.  It knows how many containers are open around the node:
a text may open `maxDepth` of them and no more.  What belongs to a member that
nobody wants is only passed over, at any depth.

A record is an object with a member for each field, or a list of its fields in
order.  `Record.fields` checks either form in the order of the text and gives
the fields that are present; the decoders of the fields then find their values
by name.
-/

namespace DmlReport.Json

/-- How many containers may be open at once. -/
def maxDepth : Nat := 127

/-- Decodes a node inside a number of open containers. -/
abbrev Decoder (α : Type) := Nat → Node → Except Fault α

/-- The depth inside one more container. -/
def enter (depth : Nat) : Except Fault Nat :=
  if depth < maxDepth then .ok (depth + 1) else .error .malformed

/-- What a node is, where something else was wanted. -/
def Node.found : Node → Except Fault Found
  | .broken => .error .malformed
  | .null => .ok .null
  | .bool b => .ok (.bool b)
  | .number n =>
    match n.value? with
    | some n => .ok (.number n)
    | none => .error .malformed
  | .string (some s) => .ok (.string s)
  | .string none => .error .malformed
  | .list _ => .ok .sequence
  | .object _ => .ok .map

/-- The fault of a node that is not what was wanted. -/
def mismatch (wanted : String) (n : Node) : Except Fault α :=
  match n.found with
  | .ok found => .error (.mismatch found wanted)
  | .error e => .error e

/-- Whether a key was read to its end. -/
def Key.isWhole : Key → Bool
  | .broken => false
  | .text _ => true

mutual

/-- Whether a node was read to its end. -/
def Node.isWhole : Node → Bool
  | .broken => false
  | .list items => Node.areWhole items
  | .object members => Node.membersWhole members
  | _ => true
termination_by structural n => n

/-- Whether all items were read to their ends. -/
def Node.areWhole : List Node → Bool
  | [] => true
  | n :: rest => n.isWhole && Node.areWhole rest
termination_by structural items => items

/-- Whether all members were read to their ends. -/
def Node.membersWhole : List (Key × Node) → Bool
  | [] => true
  | (key, value) :: rest => key.isWhole && value.isWhole && Node.membersWhole rest
termination_by structural members => members

end

mutual

/-- Decodes any JSON value.  Of members with the same key the last one counts. -/
def Value.decode (depth : Nat) : Node → Except Fault Value
  | .broken => .error .malformed
  | .null => .ok .null
  | .bool b => .ok (.bool b)
  | .number n =>
    match n.value? with
    | some n => .ok (.number n)
    | none => .error .malformed
  | .string (some s) => .ok (.string s)
  | .string none => .error .malformed
  | .list items =>
    if depth < maxDepth then
      match Value.decodeItems (depth + 1) items with
      | .ok items => .ok (.array items)
      | .error e => .error e
    else .error .malformed
  | .object members =>
    if depth < maxDepth then
      match Value.decodeMembers (depth + 1) members [] with
      | .ok members => .ok (.object members)
      | .error e => .error e
    else .error .malformed
termination_by structural n => n

/-- Decodes the items of a list. -/
def Value.decodeItems (depth : Nat) : List Node → Except Fault (List Value)
  | [] => .ok []
  | n :: rest =>
    match Value.decode depth n with
    | .ok item =>
      match Value.decodeItems depth rest with
      | .ok items => .ok (item :: items)
      | .error e => .error e
    | .error e => .error e
termination_by structural items => items

/-- Decodes members and adds them to those before. -/
def Value.decodeMembers (depth : Nat) :
    List (Key × Node) → Members → Except Fault Members
  | [], before => .ok before
  | (.text (some key), value) :: rest, before =>
    match Value.decode depth value with
    | .ok value => Value.decodeMembers depth rest (before.insert key value)
    | .error e => .error e
  | _ :: _, _ => .error .malformed
termination_by structural members => members

end

def Members.decode (depth : Nat) (n : Node) : Except Fault Members :=
  match n with
  | .object members => do Value.decodeMembers (← enter depth) members []
  | n => mismatch "a map" n

def text : Decoder String := fun _ n =>
  match n with
  | .string (some s) => .ok s
  | n => mismatch "a string" n

/-- Decodes a natural number below `bound`, the limit of the type `wanted`. -/
def natBelow (bound : Nat) (wanted : String) : Decoder Nat := fun _ n =>
  match n with
  | .number literal =>
    match literal.value? with
    | some (.integer i) =>
      if 0 ≤ i ∧ i < bound then .ok i.toNat else .error (.outOfRange i wanted)
    | some (.binary x) => .error (.mismatch (.number (.binary x)) wanted)
    | none => .error .malformed
  | n => mismatch wanted n

def uint16 : Decoder UInt16 := fun depth n =>
  UInt16.ofNat <$> natBelow UInt16.size "u16" depth n

def uint32 : Decoder UInt32 := fun depth n =>
  UInt32.ofNat <$> natBelow UInt32.size "u32" depth n

/-- Decodes null as none. -/
def optional (decode : Decoder α) : Decoder (Option α) := fun depth n =>
  match n with
  | .null => .ok none
  | n => some <$> decode depth n

def list (decode : Decoder α) : Decoder (List α) := fun depth n =>
  match n with
  | .list items => do
    let depth ← enter depth
    items.mapM (decode depth)
  | n => mismatch "a sequence" n

/-- The value that goes by a name. -/
def named (names : List (String × α)) (name : String) : Except Fault α :=
  match names.lookup name with
  | some a => .ok a
  | none => .error (.unknownName name (names.map (·.1)))

/-- Decodes one of several names: as a text, or as the key of a lone member
with the value null. -/
def oneOf (names : List (String × α)) : Decoder α := fun depth n =>
  match n with
  | .string (some name) => named names name
  | .object ((.text (some name), value) :: rest) => do
    let _ ← enter depth
    let a ← named names name
    match value, rest with
    | .null, [] => .ok a
    | .null, _ => .error .malformed
    | value, _ => mismatch "unit" value
  | _ => .error .malformed

structure Field where
  name : String
  /-- Whether the list form may end before this field. -/
  omissible : Bool
  /-- Whether a node can be the value of the field. -/
  check : Nat → Node → Except Fault Unit

/-- A field whose value a decoder gives. -/
def Field.of (name : String) (omissible : Bool) (decode : Decoder α) : Field where
  name := name
  omissible := omissible
  check depth n := (fun _ => ()) <$> decode depth n

/-- The description of a record: its name in messages and its fields in order. -/
structure Record where
  title : String
  fields : List Field

/-- The fields of a record that are present, with the depth inside it. -/
structure Fields where
  depth : Nat
  values : List (String × Node)

namespace Record

/-- Checks members in order; `taken` holds the fields found so far. -/
def takeMembers (r : Record) (depth : Nat) :
    List (Key × Node) → List (String × Node) → Except Fault (List (String × Node))
  | [], taken => .ok taken
  | (.text (some name), value) :: rest, taken =>
    match r.fields.find? (·.name == name) with
    | some field =>
      if (taken.lookup name).isSome then .error (.duplicateField name)
      else
        match field.check depth value with
        | .ok () => takeMembers r depth rest ((name, value) :: taken)
        | .error e => .error e
    | none => if value.isWhole then takeMembers r depth rest taken else .error .malformed
  | _ :: _, _ => .error .malformed

/-- Checks the list form from a field on; `count` fields came before. -/
def takeItems (r : Record) (depth count : Nat) :
    List Field → List Node → Except Fault (List (String × Node))
  | [], [] => .ok []
  | [], _ :: _ => .error .malformed
  | field :: fields, [] =>
    if field.omissible then takeItems r depth (count + 1) fields []
    else .error (.tooShort count r.title r.fields.length)
  | field :: fields, n :: rest =>
    match field.check depth n with
    | .ok () =>
      match takeItems r depth (count + 1) fields rest with
      | .ok taken => .ok ((field.name, n) :: taken)
      | .error e => .error e
    | .error e => .error e

/-- The fields of a record in either form, all of them checked. -/
def fieldsOf (r : Record) (depth : Nat) (n : Node) : Except Fault Fields :=
  match n with
  | .object members => do
    let depth ← enter depth
    return ⟨depth, ← r.takeMembers depth members []⟩
  | .list items => do
    let depth ← enter depth
    return ⟨depth, ← r.takeItems depth 0 r.fields items⟩
  | n => mismatch s!"struct {r.title}" n

end Record

namespace Fields

/-- The value of a field that may be absent. -/
def getD (f : Fields) (name : String) (decode : Decoder α) (absent : α) : Except Fault α :=
  match f.values.lookup name with
  | some n => decode f.depth n
  | none => .ok absent

/-- The value of a field that must be present. -/
def get (f : Fields) (name : String) (decode : Decoder α) : Except Fault α :=
  match f.values.lookup name with
  | some n => decode f.depth n
  | none => .error (.missingField name)

end Fields

def decodeText (decode : Decoder α) (s : String) : Except Fault α :=
  let document := Document.read s.toList
  match decode 0 document.root with
  | .ok a => if document.whole then .ok a else .error .malformed
  | .error e => .error e

end DmlReport.Json
