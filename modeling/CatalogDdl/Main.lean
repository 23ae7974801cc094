import CatalogDdl.CommandLine.Program

/-!
# The executable

The file system and the environment of the machine, and the streams of the process. An operation on a
file that the machine refuses counts as failed.
-/

namespace CatalogDdl

/-- Whether an action goes well. -/
def succeeds (action : IO Unit) : IO Bool := do
  try
    action
    return true
  catch _ => return false

/-- The text of a file, unless it cannot be read. -/
def textOfFile? (path : String) : IO (Option String) := do
  try
    return some (← IO.FS.readFile path)
  catch _ => return none

/-- Whether a path leads to something. -/
def isThere (path : String) : IO Bool := succeeds (discard (IO.FS.realPath path))

/-- Makes the directories that a path asks for. -/
def makeDirs (path : String) : IO Bool := do
  let made := Text.joinWith "/" (Path.namesToMake path)
  let isMade ← if made.isEmpty then pure true else succeeds (IO.FS.createDirAll made)
  return isMade && (← isThere path)

instance : FileSystem IO where
  leadsSomewhere path := if path.isEmpty then pure false else isThere path
  leadsToFile path := return (← textOfFile? path).isSome
  readText? path := textOfFile? path
  createDirs path := if path.isEmpty then pure true else makeDirs path
  createFile path := succeeds (IO.FS.writeFile path "")
  writeText path text := succeeds (IO.FS.writeFile path text)

/-- The environment, on a machine that shows it as a file. -/
def machineEnvironment : IO (List (String × String)) := do
  return environmentOfBlock ((← textOfFile? "/proc/self/environ").getD "")

end CatalogDdl

/-- Runs the program on the arguments of the process. -/
def main (args : List String) : IO UInt32 := do
  let report ← CatalogDdl.runProgram args (← CatalogDdl.machineEnvironment)
  (← IO.getStdout).putStr report.output
  (← IO.getStderr).putStr report.errors
  return report.code.toUInt32
