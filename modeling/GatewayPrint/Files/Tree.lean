import GatewayPrint.Files.Path

/-!
# File trees

Files as data: what is read comes from here, so that a change of a file shows in the next look.

## Representation

Entries are known by the names that lead to them from the working directory, and those below the
root by the names from there, so that a relative name and an absolute one are two keys even when
they lead to one place. What is above the working directory is not known unless its own location is.

## What a process may do

A file may be sealed, so that it can be seen but not read, and a folder may be closed, so that it
can be seen but not entered. A look at a place ends at a closed folder on the way, and at a name
that is longer than names may be (`FileTree.Obstacle`). How far a process can follow containers
within one another when it reads a file is a matter of its stack, and a parameter of the tree.
-/

namespace GatewayPrint

/-- What is at a place. -/
inductive FileTree.Entry where
  | file (content : List UInt8)
  /-- A file that is not empty and may not be read. -/
  | sealed
  | folder
  /-- A folder that may not be entered. -/
  | closed
deriving DecidableEq, Repr, Inhabited

/-- The entries below the working directory, each under the names that lead to it; an entry below
the root is under the root's own name and the names that lead to it from there. -/
structure FileTree where
  entries : List (List String × FileTree.Entry)
  /-- The names that lead from the root to the working directory, if they are known. -/
  location : Option (List String) := none
  /-- How many containers within one another a reader of a file can follow, if that is bounded. -/
  room : Option Nat := none
deriving DecidableEq, Repr, Inhabited

namespace FileTree

def empty : FileTree where
  entries := []

/-- The name of the root among the names that lead to an entry. -/
def rootName : String := "/"

/-- The names that lead to the entry of a path. -/
def namesOf (p : Path) : List String := if p.root.isEmpty then p.parts else rootName :: p.parts

/-- The entry under some names; without names it is the working directory. -/
def entryAt? (t : FileTree) (names : List String) : Option Entry :=
  if names.isEmpty then some .folder else t.entries.lookup names

/-- The tree with an entry in place of what was there. -/
def put (names : List String) (e : Entry) (t : FileTree) : FileTree :=
  { t with entries := (names, e) :: t.entries.filter fun x ↦ x.1 != names }

/-- The tree with folders for the given names and all names on the way, where nothing is yet. -/
def makeFolders (names : List String) (t : FileTree) : FileTree :=
  (List.range (names.length + 1)).foldl (fun t n ↦
    if (t.entryAt? (names.take n)).isSome then t else t.put (names.take n) .folder) t

/-- The tree with a file; folders on the way are made. -/
def write (p : Path) (content : List UInt8) (t : FileTree) : FileTree :=
  (t.makeFolders (namesOf p).dropLast).put (namesOf p) (.file content)

/-- The tree with a folder; folders on the way are made. -/
def makeFolder (p : Path) (t : FileTree) : FileTree := t.makeFolders (namesOf p)

/-- The tree without an entry and what is below it. -/
def remove (p : Path) (t : FileTree) : FileTree :=
  { t with entries := t.entries.filter fun x ↦ !(namesOf p).isPrefixOf x.1 }

/-! ## Look-up -/

/-- What keeps a look from its place. -/
inductive Obstacle where
  /-- A part of the text, or all of it, is longer than names may be. -/
  | tooLong
  /-- A folder on the way may not be entered. -/
  | closed
deriving DecidableEq, Repr, Inhabited

/-- What a look-up finds. -/
inductive Found where
  | file (content : List UInt8)
  | sealed
  | folder
  | missing
  | barred (o : Obstacle)
deriving DecidableEq, Repr, Inhabited

/-- A place on the way of a look-up: below the working directory, a number of steps above it, or
below the root. Above the working directory nothing is known, unless its location is. -/
inductive Place where
  | below (names : List String)
  | above (steps : Nat)
  | belowRoot (names : List String)
deriving DecidableEq, Repr, Inhabited

/-- The place above the working directory. -/
def outside (t : FileTree) : Place :=
  match t.location with
  | some names => .belowRoot names.dropLast
  | none => .above 1

/-- The place one step up; the root is above itself. -/
def up (t : FileTree) : Place → Place
  | .below names => if names.isEmpty then t.outside else .below names.dropLast
  | .above n => .above (n + 1)
  | .belowRoot names => .belowRoot names.dropLast

/-- The place of a name below a place, if it is known. -/
def Place.down? (name : String) : Place → Option Place
  | below names => some (below (names ++ [name]))
  | above _ => none
  | belowRoot names => some (belowRoot (names ++ [name]))

/-- What is at a place. -/
def at? (t : FileTree) : Place → Option Entry
  | .below names => t.entryAt? names
  | .above _ => some .folder
  | .belowRoot names => if names.isEmpty then some .folder else t.entryAt? (rootName :: names)

def maxNameBytes : Nat := 255

/-- The most bytes of a whole text, with one left for its end. -/
def maxPathBytes : Nat := 4095

/-- What is found by following parts from a place. Every part but the first needs a folder to start
from, and all but slashes need one that may be entered. -/
def follow (t : FileTree) (place : Place) : List (List Char) → Found
  | [] =>
    match t.at? place with
    | some (.file content) => .file content
    | some .sealed => .sealed
    | some .folder => .folder
    | some .closed => .folder
    | none => .missing
  | part :: rest =>
    match t.at? place with
    | some .folder =>
      if part.isEmpty || part = ['.'] then follow t place rest
      else if part = ['.', '.'] then follow t (t.up place) rest
      else if maxNameBytes < (String.ofList part).utf8ByteSize then .barred .tooLong
      else
        match place.down? (String.ofList part) with
        | some place => follow t place rest
        | none => .missing
    | some .closed => if part.isEmpty then follow t place rest else .barred .closed
    | _ => .missing

/-- What is at the place that a text names. -/
def find (t : FileTree) (s : String) : Found :=
  if s.isEmpty || s.toList.contains '\x00' then .missing
  else if maxPathBytes < s.utf8ByteSize then .barred .tooLong
  else
    let start := if s.toList.head? = some '/' then Place.belowRoot [] else Place.below []
    follow t start (Text.splitOn '/' s.toList)

/-- Whether anything is seen at the place that a text names. -/
def holds (t : FileTree) (s : String) : Bool :=
  match t.find s with
  | .file _ => true
  | .sealed => true
  | .folder => true
  | .missing => false
  | .barred _ => false

end FileTree

end GatewayPrint
