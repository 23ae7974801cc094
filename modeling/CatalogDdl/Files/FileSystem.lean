/-!
# What a file system offers

The operations that a run needs, over any monad. Each one that can fail says whether it did; why is
of no interest to a run.
-/

namespace CatalogDdl

/-- A monad in which files can be read and written. -/
class FileSystem (m : Type → Type) where
  /-- Whether a path leads to something. -/
  leadsSomewhere (path : String) : m Bool
  /-- Whether a path leads to a file. -/
  leadsToFile (path : String) : m Bool
  /-- The text of a file, unless it cannot be read. -/
  readText? (path : String) : m (Option String)
  /-- Makes a directory and those above it, as far as they are missing. -/
  createDirs (path : String) : m Bool
  /-- Makes an empty file, also in place of an existing file. -/
  createFile (path : String) : m Bool
  /-- Gives a file that was made a text. -/
  writeText (path text : String) : m Bool

end CatalogDdl
