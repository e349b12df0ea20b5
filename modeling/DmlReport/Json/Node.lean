import DmlReport.Json.Token

/-!
# Reading JSON texts

Reading turns a text into a tree of nodes, one token at a time.  The tree of a
text that is not JSON holds everything before the first flaw; where the flaw
stands there is a `broken` node, and nothing follows it.  Whoever walks the
tree in order therefore meets its faults in the order of the text, whether they
are flaws of the text or nodes that do not fit what is wanted there.

A key is a text in quotes; anything else where a key belongs is a flaw.
-/

namespace DmlReport.Json

/-- The key of a member, as far as it could be read. -/
inductive Key where
  | broken
  | text (text : Option String)
deriving DecidableEq, Repr

/-- A part of a text, as far as it could be read. -/
inductive Node where
  | broken
  | null
  | bool (b : Bool)
  | number (n : Literal)
  | string (text : Option String)
  | list (items : List Node)
  | object (members : List (Key × Node))
deriving Repr

/-- A text as far as it could be read: its root, and whether the text is one
whole value with nothing after it. -/
structure Document where
  root : Node
  whole : Bool
deriving Repr

namespace Reader

/-- A container around the place of reading, with the parts of it that were
read, latest first. -/
inductive Frame where
  | item (before : List Node)
  | member (before : List (Key × Node)) (key : Key)

/-- What may come next, inside the given containers, innermost first. -/
inductive State where
  | value (up : List Frame)
  /-- The first item of a list, or its end. -/
  | firstItem (up : List Frame)
  /-- The first key of an object, or its end. -/
  | firstKey (up : List Frame)
  /-- A key after other members. -/
  | key (before : List (Key × Node)) (up : List Frame)
  /-- The colon after a key. -/
  | colon (before : List (Key × Node)) (key : Key) (up : List Frame)
  /-- A comma after an item, or the end of the list. -/
  | afterItem (items : List Node) (up : List Frame)
  /-- A comma after a member, or the end of the object. -/
  | afterMember (members : List (Key × Node)) (up : List Frame)
  /-- Nothing: the value is complete. -/
  | done (root : Node)
  /-- Nothing: the text is flawed. -/
  | cut (document : Document)

/-- Puts a complete node into the innermost container. -/
def deliver (n : Node) : List Frame → State
  | [] => .done n
  | .item before :: up => .afterItem (n :: before) up
  | .member before key :: up => .afterMember ((key, n) :: before) up

/-- The tree of a text that stops at a node. -/
def collapse (n : Node) : List Frame → Node
  | [] => n
  | .item before :: up => collapse (.list (n :: before).reverse) up
  | .member before key :: up => collapse (.object ((key, n) :: before).reverse) up

/-- The tree of a text that stops where a member's key belongs. -/
def stopAtKey (before : List (Key × Node)) (key : Key) (up : List Frame) : Document :=
  ⟨collapse .broken (.member before key :: up), false⟩

namespace State

/-- The document if the text stops here. -/
def stop : State → Document
  | .value up => ⟨collapse .broken up, false⟩
  | .firstItem up => ⟨collapse .broken (.item [] :: up), false⟩
  | .firstKey up => stopAtKey [] .broken up
  | .key before up => stopAtKey before .broken up
  | .colon before k up => stopAtKey before k up
  | .afterItem items up => ⟨collapse .broken (.item items :: up), false⟩
  | .afterMember members up => stopAtKey members .broken up
  | .done root => ⟨root, true⟩
  | .cut document => document

end State

/-- A token where a value belongs. -/
def startValue (t : Token) (up : List Frame) : State :=
  match t with
  | .null => deliver .null up
  | .bool b => deliver (.bool b) up
  | .number n => deliver (.number n) up
  | .string text => deliver (.string text) up
  | .openList => .firstItem up
  | .openObject => .firstKey up
  | _ => .cut (State.value up).stop

/-- A token where a key belongs. -/
def startKey (before : List (Key × Node)) (t : Token) (up : List Frame) : State :=
  match t with
  | .string text => .colon before (.text text) up
  | _ => .cut (stopAtKey before .broken up)

def State.step : State → Token → State
  | .value up, t => startValue t up
  | .firstItem up, .closeList => deliver (.list []) up
  | .firstItem up, t => startValue t (.item [] :: up)
  | .firstKey up, .closeObject => deliver (.object []) up
  | .firstKey up, t => startKey [] t up
  | .key before up, t => startKey before t up
  | .colon before k up, .colon => .value (.member before k :: up)
  | .afterItem items up, .comma => .value (.item items :: up)
  | .afterItem items up, .closeList => deliver (.list items.reverse) up
  | .afterMember members up, .comma => .key members up
  | .afterMember members up, .closeObject => deliver (.object members.reverse) up
  | .done root, _ => .cut ⟨root, false⟩
  | s, _ => .cut s.stop

/-- The state after a text of which the first `passed` characters belong to a
token that was read already. -/
def State.run : State → Nat → List Char → State
  | .cut document, _, _ => .cut document
  | s, _, [] => s
  | s, passed + 1, _ :: rest => s.run passed rest
  | s, 0, c :: rest =>
    if isSpace c then s.run 0 rest
    else
      match Token.next c rest with
      | (t, passed) => (s.step t).run passed rest

end Reader

def Document.read (text : List Char) : Document :=
  ((Reader.State.value []).run 0 text).stop

end DmlReport.Json
