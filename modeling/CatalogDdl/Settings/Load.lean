import CatalogDdl.Fault
import CatalogDdl.Files.FileSystem
import CatalogDdl.Files.Path
import CatalogDdl.Settings.Document
import CatalogDdl.Settings.Environment
import CatalogDdl.Toml.Reader

/-!
# Loading settings

Settings are read from a file alone, or from a file and the environment, which wins. The first way
wants every value to be of the kind of its setting; the second one does not.

- `Settings.ofDocument`: the settings in the text of a file.
- `Settings.ofSources`: the settings in the text of a file, if there is one, and in the environment.
- `Settings.ofFile`, `Settings.load`: the same from a file system. A file is looked up by its path
  and then with `.toml` added to it; the default file may be missing, a file that is asked for may not.
-/

namespace CatalogDdl

mutual

/-- Whether every integer in a value has 64 bits. -/
def Toml.fitsInt64 : Toml → Bool
  | .integer i => Text.fitsInt64 i
  | .array _ items => Toml.itemsFitInt64 items
  | .table _ entries => Toml.entriesFitInt64 entries
  | _ => true

/-- Whether every integer in an array has 64 bits. -/
def Toml.itemsFitInt64 : List Toml → Bool
  | [] => true
  | v :: rest => v.fitsInt64 && Toml.itemsFitInt64 rest

/-- Whether every integer in a table has 64 bits. -/
def Toml.entriesFitInt64 : List (String × Toml) → Bool
  | [] => true
  | (_, v) :: rest => v.fitsInt64 && Toml.entriesFitInt64 rest

end

namespace Settings

/-- A value or the fault of settings that cannot be read. -/
def orUnreadable : Option α → Except Fault α
  | some a => .ok a
  | none => .error .unreadableSettings

/-- The settings in the text of a file. -/
def ofDocument (text : String) : Except Fault Settings :=
  orUnreadable ((Toml.read? .passing text).bind (ofEntries? .strict))

/-- The layer of a file with a given text. A mark of the byte order is left out before the text is read
as a document, which may start with one of its own. -/
def documentLayer? (text : String) : Option Layer :=
  let document := String.ofList (Toml.dropByteOrderMark text.toList)
  (Toml.read? .claiming document).filter Toml.entriesFitInt64

/-- The settings in the text of a file, if there is one, and in the variables of an environment. -/
def ofSources (text : Option String) (environment : List (String × String)) : Except Fault Settings := do
  let file ← orUnreadable (text.elim (some []) documentLayer?)
  let entries := (environmentLayer environment).onto (Layer.onto file [])
  orUnreadable (ofEntries? .lenient entries)

variable {m : Type → Type} [Monad m] [FileSystem m]

/-- The settings in a file alone. -/
def ofFile (path : String) : ExceptT Fault m Settings := do
  match ← (FileSystem.readText? path : m (Option String)) with
  | none => throw .files
  | some text => liftExcept (ofDocument text)

/-- The name of the file that is looked up when none is asked for. -/
def defaultFile : String := "ora2my"

/-- The extension of files with settings. -/
def fileExtension : String := "toml"

/-- The file that a path is looked up as, if there is one of the right kind. -/
def lookUp (path : String) : m (Option String) := do
  if ← FileSystem.leadsToFile path then
    pure (if Path.extension? path = some fileExtension then some path else none)
  else
    match Path.withExtension? path fileExtension with
    | none => pure none
    | some extended => pure (if ← FileSystem.leadsToFile extended then some extended else none)

/-- The settings in a file and in the variables of an environment. -/
def load (path : Option String) (environment : List (String × String)) : ExceptT Fault m Settings := do
  match ← (lookUp (path.getD defaultFile) : m (Option String)), path with
  | some file, _ =>
    match ← (FileSystem.readText? file : m (Option String)) with
    | none => throw .unreadableSettings
    | some text => liftExcept (ofSources (some text) environment)
  | none, some _ => throw .unreadableSettings
  | none, none => liftExcept (ofSources none environment)

end Settings

end CatalogDdl
