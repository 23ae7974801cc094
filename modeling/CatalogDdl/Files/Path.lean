import CatalogDdl.Text.Words

/-!
# Paths

A path is a text whose pieces are separated by slashes. One that starts with a slash is followed
from the root, any other one from the current directory.

- `Path.join`: a name below a directory.
- `Path.pieces`: what stands between the slashes.
- `Path.names`: the pieces without what adds nothing at the end.
- `Path.namesToMake`: what asking for a directory makes.
- `Path.isUsable`, `Path.isNameable`: whether a path can be followed, and whether a piece may name
  something.
- `Path.extension?`, `Path.withExtension?`: the end of a name after its last dot, and a path with one
  more such end.
-/

namespace CatalogDdl

namespace Path

/-- A name below a directory. The empty directory adds nothing, and a slash at the end of the
directory is not doubled. -/
def join (dir name : String) : String :=
  if dir.isEmpty then name
  else if dir.toList.getLast? = some '/' then dir ++ name
  else dir ++ "/" ++ name

/-- The pieces between the slashes of a path. -/
def pieces (path : String) : List String := Text.split '/' path

/-- Whether a path starts at the root. -/
def isAbsolute (path : String) : Bool := path.toList.head? == some '/'

/-- The greatest size of a path in bytes. -/
def longestPath : Nat := 4095

/-- Whether a path can be followed at all: it is neither empty nor too long and holds no null
character. -/
def isUsable (path : String) : Bool :=
  !path.isEmpty && path.utf8ByteSize ≤ longestPath && path.toList.all fun c => c.toNat != 0

/-- The greatest size of a name in bytes. -/
def longestName : Nat := 255

/-- Whether a piece is short enough to name something. -/
def isNameable (piece : String) : Bool := piece.utf8ByteSize ≤ longestName

/-- The pieces of a path but for those at its end that lead nowhere else: single dots, and what follows
a last slash. -/
def names (path : String) : List String :=
  ((pieces path).reverse.dropWhile fun p => p.isEmpty || p = ".").reverse

/-- Whether a path ends in a single dot, with or without slashes after it. -/
def endsInDot (path : String) : Bool :=
  ((pieces path).filter fun p => !p.isEmpty).getLast? == some "."

/-- The names that asking for a directory makes directories of. What a single dot stands for at the end
of a path must be there already, and so only the names above it are made. -/
def namesToMake (path : String) : List String :=
  if endsInDot path then (names path).dropLast else names path

/-- The name that a path ends in, unless it ends one level up or at its start. -/
def lastName? (path : String) : Option String := (names path).getLast?.filter fun p => p != ".."

/-- What follows the last dot of a name, unless the name starts with that dot. -/
def extension? (path : String) : Option String :=
  match Text.split '.' ((lastName? path).getD "") with
  | [] => none
  | [_] => none
  | first :: rest => if first.isEmpty && rest.length = 1 then none else rest.getLast?

/-- A path up to its last name, with an extension added to it. -/
def withExtension? (path extension : String) : Option String :=
  (lastName? path).map fun _ => Text.joinWith "/" (names path) ++ "." ++ extension

end Path

end CatalogDdl
