import CatalogDdl.Catalog.Snapshot
import CatalogDdl.Ddl.Synthesis
import CatalogDdl.Files.FileSystem
import CatalogDdl.Run.Selection
import CatalogDdl.Run.Summary
import CatalogDdl.Settings.Validate

/-!
# Converting a schema

A job is a snapshot to convert under some settings. What comes of one table depends on the job
alone; a run does it for every selected table and writes the outcomes to three files.

- `Job.bundle`: the bundle of one table.
- `Job.run`: a run under a schedule. The files are made before any table is started, and a fault of
  the run is reported after they were written. A run without a mailbox breaks off in between.
- `Snapshot.load`, `Settings.run`: a run from the settings alone.
-/

namespace CatalogDdl

/-- A snapshot to convert under some settings. -/
structure Job where
  settings : Settings
  snapshot : Snapshot

namespace Job

/-- The target server. -/
def version (j : Job) : Ddl.ServerVersion := .ofText j.snapshot.targetVersion

/-- What is asked for a table. -/
def request (j : Job) (t : Table) : Ddl.Request where
  sourceSchema := j.settings.sourceSchema
  targetSchema := j.settings.effectiveSchema
  targetTable := j.settings.effectiveTable t.name
  tableOption := j.settings.tableOption
  table := t
  rules := j.settings.rules
  version := j.version

/-- The bundle of the table that a name leads to. -/
def bundle (j : Job) (name : String) : Except Fault Ddl.Bundle := do
  let t ← j.snapshot.table j.settings.sourceSchema name
  (j.request t).synthesize

/-- The selected tables. -/
def selection (j : Job) : Except Fault (List String) := do
  let names ← j.snapshot.tableNames j.settings.sourceSchema
  pure (selectTables j.settings.includeTables j.settings.excludeTables names)

/-- What is fixed for the time of a run. -/
def rules (j : Job) : PoolRules := ⟨j.settings.threads, j.settings.failFast, j.bundle⟩

/-- The pool of a run over some tables at its end. -/
def finalPool (j : Job) (s : Pool.Schedule) (tables : List String) : Pool :=
  Pool.run j.rules s { waiting := tables }

/-- The output files. -/
def outputs (j : Job) : Outputs := .of j.settings.outputDir j.settings.sourceSchema

variable {m : Type → Type} [Monad m] [FileSystem m]

/-- Fails unless an operation on files succeeds. -/
def demand (operation : m Bool) : ExceptT Fault m Unit := do
  if ← operation then pure () else throw .files

/-- Makes the output files, empty, unless nothing is to be written. -/
def createOutputs (j : Job) : ExceptT Fault m (Option Outputs) := do
  if j.settings.dryRun then
    pure none
  else
    demand (FileSystem.createDirs j.settings.outputDir)
    demand (FileSystem.createFile j.outputs.primary)
    demand (FileSystem.createFile j.outputs.compatibility)
    demand (FileSystem.createFile j.outputs.log)
    pure (some j.outputs)

/-- Writes the output files, if there are any. -/
def writeOutputs (scripts : Scripts) : Option Outputs → ExceptT Fault m Unit
  | none => pure ()
  | some o => do
    demand (FileSystem.writeText o.primary scripts.primary)
    demand (FileSystem.writeText o.compatibility scripts.compatibility)
    demand (FileSystem.writeText o.log scripts.log)

/-- A run over the selected tables. -/
def run (schedule : Pool.Schedule) (j : Job) : ExceptT Fault m Summary := do
  let tables ← liftExcept j.selection
  let outputs ← j.createOutputs
  liftExcept j.rules.checkRoom
  let p := j.finalPool schedule tables
  writeOutputs p.scripts outputs
  match p.runFault? with
  | some f => throw f
  | none => pure (p.summary tables.length outputs)

end Job

variable {m : Type → Type} [Monad m] [FileSystem m]

/-- The snapshot in a file. -/
def Snapshot.load (path : String) : ExceptT Fault m Snapshot := do
  match ← (FileSystem.readText? path : m (Option String)) with
  | none => throw .files
  | some text =>
    match Snapshot.ofText text with
    | .ok snapshot => pure snapshot
    | .error _ => throw (.catalog (.unreadable path))

/-- A run from the settings alone. -/
def Settings.run (schedule : Pool.Schedule) (s : Settings) : ExceptT Fault m Summary := do
  s.validate
  let snapshot ← Snapshot.load s.catalogFile
  Job.run schedule ⟨s, snapshot⟩

end CatalogDdl
