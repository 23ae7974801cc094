import CatalogDdl.Files.FileSystem
import CatalogDdl.Files.Path

/-!
# A tree of files

A file system as a value. Every file and every directory but the root has a location, the list of
names that lead to it, innermost first; a path is followed from the root or from the current
directory, and every piece but the last must lead to a directory.

- `FileTree`: the entries by location, and the current directory.
- `FileTree.locate?`: the location that a path leads to, whether or not something is there.
- `FileTree.createDirs`, `FileTree.createFile`, `FileTree.writeText`: the changes. Each of them
  changes the entries at or above the location of its path and no other.
- The operations of a file system, as changes of the state.
-/

namespace CatalogDdl

/-- The names that lead to an entry, innermost first. -/
abbrev Location := List String

/-- What is at a location. -/
inductive Entry where
  | directory
  | file (text : String)
  deriving DecidableEq, Repr

/-- Files and directories. -/
structure FileTree where
  /-- The entries but the root. -/
  entries : List (Location × Entry) := []
  /-- The current directory. -/
  here : Location := []
  deriving DecidableEq, Repr

namespace FileTree

/-- The entry at a location. -/
def entry? (t : FileTree) : Location → Option Entry
  | [] => some .directory
  | l => t.entries.lookup l

/-- Whether a directory is at a location. -/
def isDirectory (t : FileTree) (l : Location) : Bool := t.entry? l == some .directory

/-- A tree with an entry at a location. -/
def put (t : FileTree) (l : Location) (e : Entry) : FileTree :=
  { t with entries := (l, e) :: t.entries.filter fun x => x.1 != l }

/-- Where one piece of a path leads from a location. -/
def step (t : FileTree) (l : Location) (piece : String) : Option Location :=
  if !t.isDirectory l then none
  else if piece = "" || piece = "." then some l
  else if piece = ".." then some l.tail
  else if Path.isNameable piece then some (piece :: l)
  else none

/-- Where a path starts. -/
def start (t : FileTree) (path : String) : Location := if Path.isAbsolute path then [] else t.here

/-- The location that a path leads to. -/
def locate? (t : FileTree) (path : String) : Option Location :=
  if Path.isUsable path then (Path.pieces path).foldlM t.step (t.start path) else none

/-- The entry that a path leads to. -/
def find? (t : FileTree) (path : String) : Option Entry := (t.locate? path).bind t.entry?

/-- The text of the file that a path leads to. -/
def readText? (t : FileTree) (path : String) : Option String :=
  match t.find? path with
  | some (.file text) => some text
  | _ => none

/-- Makes the directories on the way of the pieces of a path. A file in the way ends it; the
directories made before stay. -/
def makeDirs (t : FileTree) (l : Location) : List String → FileTree × Bool
  | [] => (t, true)
  | piece :: rest =>
    match t.step l piece with
    | none => (t, false)
    | some next =>
      match t.entry? next with
      | none => makeDirs (t.put next .directory) next rest
      | some .directory => makeDirs t next rest
      | some (.file _) => (t, false)

/-- Makes a directory and those above it. The empty path asks for nothing. -/
def createDirs (t : FileTree) (path : String) : FileTree × Bool :=
  if path.isEmpty then (t, true)
  else if Path.isUsable path then
    let made := t.makeDirs (t.start path) (Path.namesToMake path)
    (made.1, made.2 && made.1.find? path == some .directory)
  else (t, false)

/-- Makes an empty file, also in place of an existing file. -/
def createFile (t : FileTree) (path : String) : FileTree × Bool :=
  match t.locate? path with
  | none => (t, false)
  | some l => if t.isDirectory l then (t, false) else (t.put l (.file ""), true)

/-- Gives the file that a path leads to a text. -/
def writeText (t : FileTree) (path text : String) : FileTree × Bool :=
  match t.locate? path with
  | none => (t, false)
  | some l => if t.isDirectory l then (t, false) else (t.put l (.file text), true)

end FileTree

/-- A tree of files as a state. -/
instance : FileSystem (StateM FileTree) where
  leadsSomewhere path := return ((← get).find? path).isSome
  leadsToFile path := return ((← get).readText? path).isSome
  readText? path := return (← get).readText? path
  createDirs path := modifyGet fun t => ((t.createDirs path).2, (t.createDirs path).1)
  createFile path := modifyGet fun t => ((t.createFile path).2, (t.createFile path).1)
  writeText path text := modifyGet fun t => ((t.writeText path text).2, (t.writeText path text).1)

end CatalogDdl
