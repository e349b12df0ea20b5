/-!
# Paths

A path is a text with slashes between its segments.  Empty segments and the
segment `.` mean nothing, except that a relative path may start with `.`.  The
file name of a path is its last segment that means something, unless that is
`..`.

A document is first written beside its destination, to the path that `staging`
gives, and then renamed.
-/

namespace DmlReport

/-- A path, as it was given. -/
structure Path where
  text : String
deriving DecidableEq, Repr

namespace Path

/-- The pieces of a text between slashes. -/
def splitSlashes : List Char → List (List Char)
  | [] => [[]]
  | c :: rest =>
    if c = '/' then [] :: splitSlashes rest
    else
      match splitSlashes rest with
      | [] => [[c]]
      | piece :: pieces => (c :: piece) :: pieces

/-- Pieces with slashes between them. -/
def joinSlashes : List (List Char) → List Char
  | [] => []
  | [piece] => piece
  | piece :: pieces => piece ++ '/' :: joinSlashes pieces

/-- Whether a segment means nothing. -/
def isFiller (segment : List Char) : Bool :=
  segment == [] || segment == ['.']

/-- Segments without those at the end that mean nothing. -/
def trimFiller (segments : List (List Char)) : List (List Char) :=
  (segments.reverse.dropWhile isFiller).reverse

/-- Where a path starts. -/
inductive Start where
  | root
  /-- At the working directory, spelled out. -/
  | dot
  /-- At the working directory. -/
  | here
deriving DecidableEq, Repr

/-- The start of a path and its segments from there, the last of which means
something. -/
def parse (p : Path) : Start × List (List Char) :=
  match p.text.toList with
  | '/' :: rest => (.root, trimFiller (splitSlashes rest))
  | cs =>
    match splitSlashes cs with
    | ['.'] :: rest => (.dot, trimFiller rest)
    | segments => (.here, trimFiller segments)

/-- The text of a start and segments from there. -/
def unparse : Start → List (List Char) → List Char
  | .root, segments => '/' :: joinSlashes segments
  | .dot, [] => ['.']
  | .dot, segments => '.' :: '/' :: joinSlashes segments
  | .here, segments => joinSlashes segments

/-- The last segment of a path that means something, if it is a name. -/
def fileNameChars? (p : Path) : Option (List Char) :=
  p.parse.2.getLast?.filter (· != ['.', '.'])

/-- The text of a path up to its last segment that means something. -/
def parentChars (p : Path) : List Char :=
  let (start, segments) := p.parse
  unparse start (trimFiller segments.dropLast)

def appendSegment (cs segment : List Char) : List Char :=
  match cs.getLast? with
  | none => segment
  | some '/' => cs ++ segment
  | some _ => cs ++ '/' :: segment

/-- The path of an entry of the directory that a path names. -/
def child (p : Path) (name : String) : Path :=
  ⟨String.ofList (appendSegment p.text.toList name.toList)⟩

/-- The path with another file name; a path without one gets it at its end. -/
def withFileName (p : Path) (name : List Char) : Path :=
  let base := if p.fileNameChars?.isSome then p.parentChars else p.text.toList
  ⟨String.ofList (appendSegment base name)⟩

/-- The name under which a file is staged. -/
def stagingName (name : List Char) : List Char :=
  '.' :: (name ++ ".tmp".toList)

/-- Where a document is staged before it takes its place at the path. -/
def staging (p : Path) : Path :=
  p.withFileName (stagingName (p.fileNameChars?.getD "diagnostics".toList))

end Path

end DmlReport
