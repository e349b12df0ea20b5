import DmlReport.Storage.Store

/-!
# A file system as a value

A tree of directories and plain files, with a working directory.  Paths are
followed as an operating system does: every segment but the last must lead to a
directory, `..` goes to the parent, a slash at the end asks for a directory, and
the empty path leads nowhere.
-/

namespace DmlReport

/-- A place in a tree: the names on the way from the root. -/
abbrev Place := List String

inductive Entry where
  | directory
  | file (contents : List UInt8)
deriving DecidableEq, Repr

/-- Directories and files by place, and the place of the working directory. -/
structure Tree where
  entries : List (Place × Entry)
  home : Place
deriving Repr

namespace Tree

/-- What is at a place.  The root is always a directory. -/
def get? (t : Tree) (place : Place) : Option Entry :=
  if place = [] then some .directory else t.entries.lookup place

/-- The tree without what is at a place. -/
def erase (t : Tree) (place : Place) : Tree :=
  { t with entries := t.entries.filter (·.1 != place) }

/-- The tree with an entry at a place, whatever was there. -/
def set (t : Tree) (place : Place) (e : Entry) : Tree :=
  { t with entries := (place, e) :: (t.erase place).entries }

/-- The longest name of an entry, in bytes. -/
def maxNameSize : Nat := 255

/-- The longest path, in bytes. -/
def maxPathSize : Nat := 4095

/-- The place that a segment leads to from a place. -/
def follow (t : Tree) (place : Place) (segment : List Char) : Except Failure Place :=
  if segment = [] then .ok place
  else
    match t.get? place with
    | none => .error .notFound
    | some (.file _) => .error .notDirectory
    | some .directory =>
      if segment = ['.'] then .ok place
      else if segment = ['.', '.'] then .ok place.dropLast
      else
        let name := String.ofList segment
        if maxNameSize < name.utf8ByteSize then .error .nameTooLong else .ok (place ++ [name])

/-- The place that segments lead to. -/
def followAll (t : Tree) (place : Place) : List (List Char) → Except Failure Place
  | [] => .ok place
  | segment :: rest =>
    match t.follow place segment with
    | .ok place => t.followAll place rest
    | .error e => .error e

/-- The place that a path leads to; there need not be anything there yet. -/
def resolve (t : Tree) (p : Path) : Except Failure Place :=
  if p.text.toList.contains '\x00' then .error .invalidPath
  else if p.text = "" then .error .notFound
  else if maxPathSize < p.text.utf8ByteSize then .error .nameTooLong
  else
    let start := if p.text.toList.head? = some '/' then [] else t.home
    t.followAll start (Path.splitSlashes p.text.toList)

/-- Whether a path ends in a slash and so asks for a directory. -/
def asksForDirectory (p : Path) : Bool :=
  p.text.toList.getLast? == some '/'

def read (t : Tree) (p : Path) : Except Failure (List UInt8) :=
  match t.resolve p with
  | .error e => .error e
  | .ok place =>
    match t.get? place with
    | none => .error .notFound
    | some .directory => .error .isDirectory
    | some (.file contents) =>
      if asksForDirectory p then .error .notDirectory else .ok contents

def isFile (t : Tree) (p : Path) : Bool :=
  match t.read p with
  | .ok _ => true
  | .error _ => false

/-- Makes an empty file at a path, or empties the one there is. -/
def create (t : Tree) (p : Path) : Except Failure Tree :=
  match t.resolve p with
  | .error e => .error e
  | .ok place =>
    if asksForDirectory p || t.get? place = some .directory then .error .isDirectory
    else .ok (t.set place (.file []))

/-- Gives the file at a path its contents. -/
def write (t : Tree) (p : Path) (contents : List UInt8) : Except Failure Tree :=
  match t.resolve p with
  | .error e => .error e
  | .ok place =>
    match t.get? place with
    | some (.file _) => .ok (t.set place (.file contents))
    | some .directory => .error .isDirectory
    | none => .error .notFound

/-- Whether the last segment of a path is no name, so that nothing can be put
there. -/
def endsWithoutName (p : Path) : Bool :=
  match (Path.splitSlashes p.text.toList).reverse.dropWhile (· == []) with
  | [] => true
  | last :: _ => last == ['.'] || last == ['.', '.']

/-- Moves the file at one path to another, in place of a file that is there.
Only files are moved. -/
def rename (t : Tree) (source target : Path) : Except Failure Tree :=
  match t.resolve source, t.resolve target with
  | .error e, _ => .error e
  | .ok _, .error e => .error e
  | .ok old, .ok new =>
    if endsWithoutName source || endsWithoutName target then .error .busy
    else
      match t.get? old with
      | none => .error .notFound
      | some .directory => .error .isDirectory
      | some (.file contents) =>
        if asksForDirectory source || asksForDirectory target then .error .notDirectory
        else if t.get? new = some .directory then .error .isDirectory
        else .ok ((t.erase old).set new (.file contents))

def remove (t : Tree) (p : Path) : Except Failure Tree :=
  match t.resolve p with
  | .error e => .error e
  | .ok place =>
    match t.get? place with
    | some (.file _) => .ok (t.erase place)
    | some .directory => .error .isDirectory
    | none => .error .notFound

def perform (t : Tree) : FileStep → Except Failure Tree
  | .create p => t.create p
  | .write p contents => t.write p contents.toUTF8.data.toList
  | .sync _ => .ok t
  | .rename source target => t.rename source target
  | .remove p => t.remove p

def pathOf (place : Place) : Path :=
  ⟨"/" ++ "/".intercalate place⟩

/-- The path of the working directory, if there still is such a directory. -/
def workingDirectory (t : Tree) : Except Failure Path :=
  if t.get? t.home = some .directory then .ok (pathOf t.home) else .error .notFound

/-- The tree as a store.  A step that fails changes nothing. -/
def store : Store (StateM Tree) where
  workingDirectory := fun t => (t.workingDirectory, t)
  read p := fun t => (t.read p, t)
  isFile p := fun t => (t.isFile p, t)
  perform step := fun t =>
    match t.perform step with
    | .ok t' => (.ok (), t')
    | .error e => (.error e, t)

end Tree

end DmlReport
