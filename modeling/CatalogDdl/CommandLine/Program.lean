import CatalogDdl.CommandLine.Arguments
import CatalogDdl.Run.Job
import CatalogDdl.Settings.Load

/-!
# The program

From arguments, environment and files to an exit code and two output texts. The settings are loaded,
the arguments override them, and they are checked before the snapshot is read; then the command runs.
Exit codes: 0 if all went well, 1 for a fault or a table that was not converted, 2 for wrong usage,
101 for a run that breaks off.

- `Report`: an exit code and the texts of the two output streams.
- `Arguments.override`: settings as the arguments change them.
- `Job.inspect`, `Job.printTable`, `Job.reverse`: the commands.
- `runProgram`: the program.
-/

namespace CatalogDdl

/-- An exit code and the texts of the output streams. -/
structure Report where
  code : Nat := 0
  output : String := ""
  errors : String := ""
  deriving DecidableEq, Repr

/-- The report of a failure, after some output. -/
def Report.failure (output message : String) : Report :=
  { code := 1, output, errors := "Error: " ++ message ++ "\n" }

/-- The report of a program that ends with a fault. -/
def Report.ofFault : Fault → Report
  | .noMailbox => { code := 101, errors := Fault.noMailbox.message ++ "\n" }
  | f => .failure "" f.message

/-- Settings as the arguments change them. -/
def Arguments.override (a : Arguments) (s : Settings) : Settings :=
  { s with
    catalogFile := a.catalog.getD s.catalogFile
    sourceSchema := a.schema.getD s.sourceSchema
    targetSchema := a.targetSchema.or s.targetSchema
    outputDir := a.output.getD s.outputDir
    threads := a.threads.getD s.threads
    dryRun := a.dryRun || s.dryRun }

/-- Lines, each with its end. -/
def linesText (lines : List String) : String := Text.joinWith "" (lines.map fun l => l ++ "\n")

/-! ## The commands -/

/-- The line of a column in an inspection. -/
def Column.inspectionLine (c : Column) : String :=
  "    - " ++ c.name ++ " " ++ c.dataType ++ (if c.acceptsNull then " NULL" else " NOT NULL")

/-- The lines of a table in an inspection, the last one empty. -/
def Table.inspectionLines (t : Table) : List String :=
  ["Table: " ++ t.name,
    "  Columns:     " ++ toString t.columns.length,
    "  Constraints: " ++ toString t.constraintCount,
    "  Indexes:     " ++ toString t.indexCount]
    ++ t.columns.map Column.inspectionLine ++ [""]

namespace Job

/-- The first line of an inspection. -/
def inspectionHead (j : Job) : String :=
  linesText ["Schema " ++ j.snapshot.schema ++ " (target version " ++ j.snapshot.targetVersion ++ ")", ""]

/-- The tables of the schema. -/
def listedTables (j : Job) : Except Fault (List Table) := do
  let names ← j.snapshot.tableNames j.settings.sourceSchema
  names.mapM fun n => j.snapshot.table j.settings.sourceSchema n

/-- What the snapshot holds. -/
def inspect (j : Job) : Report :=
  match j.listedTables with
  | .error f => .failure j.inspectionHead f.message
  | .ok tables =>
    { output := j.inspectionHead ++ linesText [toString tables.length ++ " tables:", ""]
        ++ linesText (tables.flatMap Table.inspectionLines) }

/-- The statements of a table. -/
def printTable (j : Job) (name : String) : Report :=
  match j.bundle name with
  | .error f => .failure "" f.message
  | .ok b =>
    { output := linesText ([b.primarySql] ++
        (if b.compatibilitySql.isEmpty then [] else ["-- compatibility", b.compatibilitySql]))
      errors := linesText (b.warnings.map fun w => "warning: " ++ w.line) }

end Job

/-- The report of a run. -/
def Summary.report (s : Summary) : Report where
  code := if s.isSuccess then 0 else 1
  output := linesText [s.line]
  errors := linesText (s.failed.map (fun f => "FAILED " ++ f.table ++ ": " ++ f.message)
    ++ (if s.isSuccess then []
      else ["Error: " ++ toString (s.tables - s.succeeded) ++ " of " ++ toString s.tables
        ++ " tables were not reversed"]))

variable {m : Type → Type} [Monad m] [FileSystem m]

/-- A run over the selected tables. -/
def Job.reverse (j : Job) : ExceptT Fault m Report := do
  let summary ← j.run Pool.eager
  pure summary.report

/-- The job that arguments and an environment describe. -/
def Arguments.job (a : Arguments) (environment : List (String × String)) : ExceptT Fault m Job := do
  let loaded ← Settings.load a.config environment
  let settings := a.override loaded
  settings.validate
  pure ⟨settings, ← Snapshot.load settings.catalogFile⟩

/-- What comes of arguments that could be read. -/
def Arguments.run (a : Arguments) (environment : List (String × String)) : ExceptT Fault m Report := do
  let j ← a.job environment
  match a.command with
  | .reverse => j.reverse
  | .table name => pure (j.printTable name)
  | .inspect => pure j.inspect

/-- How the program is used. -/
def usage : String :=
  linesText ["Usage: ora2my-reverse [OPTIONS] [COMMAND]", "",
    "Commands:",
    "  reverse       Convert every selected table (default)",
    "  table <NAME>  Print the statements of one table",
    "  inspect       List the tables of the snapshot", "",
    "Options:",
    "  -c, --config <FILE>         Settings in TOML",
    "      --catalog <FILE>        Snapshot in JSON",
    "  -s, --schema <NAME>         Source schema",
    "      --target-schema <NAME>  Target schema",
    "  -o, --output <DIR>          Output directory",
    "  -t, --threads <N>           Tables in work at the same time",
    "      --dry-run               Write no files",
    "  -h, --help                  Print this text",
    "  -V, --version               Print the version"]

/-- The program with its version. -/
def versionLine : String := "ora2my-reverse 0.1.0"

/-- The report of arguments that could not be read. -/
def Stop.report : Stop → Report
  | .wrongUsage => { code := 2, errors := usage }
  | .version => { output := linesText [versionLine] }
  | .help => { output := usage }

/-- The program. -/
def runProgram (args : List String) (environment : List (String × String)) : m Report := do
  match Arguments.read args with
  | .error stop => pure stop.report
  | .ok a =>
    match ← (a.run environment).run with
    | .ok report => pure report
    | .error f => pure (.ofFault f)

end CatalogDdl
