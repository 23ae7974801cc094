import CatalogDdl.ColumnType.Rule
import CatalogDdl.Text.Blank
import CatalogDdl.Text.Case
import CatalogDdl.Text.Words

/-!
# Settings of a run

What a run reads, what it selects, how it names and types things, and where it writes.

- `Settings`: the settings with their defaults.
- `Settings.effectiveSchema`, `Settings.effectiveTable`: the target names of the schema and of a table.
- `Settings.new` and the `with…` functions: settings put together step by step.
-/

namespace CatalogDdl

/-- Another name for a table in the target. -/
structure Rename where
  sourceTable : String
  targetTable : String
  deriving DecidableEq, Repr

/-- The settings of a run. -/
structure Settings where
  /-- The snapshot to read. -/
  catalogFile : String := ""
  /-- The schema to convert. -/
  sourceSchema : String := ""
  /-- The schema to write for; the source schema if none is given. -/
  targetSchema : Option String := none
  /-- The tables to take, or `*` for all. -/
  includeTables : String := "*"
  /-- The tables to leave out. -/
  excludeTables : String := ""
  /-- The directory of the three output files. -/
  outputDir : String := "."
  /-- How many tables are in work at the same time. -/
  threads : Nat := 4
  /-- What follows the column list of CREATE TABLE. -/
  tableOption : String := "ENGINE=InnoDB DEFAULT CHARSET=utf8mb4 COLLATE=utf8mb4_bin"
  /-- Whether the first failed table ends the run. -/
  failFast : Bool := false
  /-- Whether nothing is written. -/
  dryRun : Bool := false
  /-- How much is logged. -/
  logLevel : Option String := none
  planRules : List PlanRule := []
  customRules : List CustomRule := []
  renames : List Rename := []
  deriving DecidableEq, Repr

namespace Settings

/-- Both tiers of override rules. -/
def rules (s : Settings) : OverrideRules := ⟨s.planRules, s.customRules⟩

/-- The target name of the schema: the one that is given unless it is blank. -/
def effectiveSchema (s : Settings) : String :=
  match s.targetSchema with
  | some t => if Text.isBlankText t then s.sourceSchema else t
  | none => s.sourceSchema

/-- The target name of a table: the one that the first rename for it gives. -/
def effectiveTable (s : Settings) (table : String) : String :=
  match s.renames.find? fun r => Text.equalsIgnoringCase r.sourceTable table with
  | some r => r.targetTable
  | none => table

/-! ## Step by step -/

/-- The default settings for a snapshot and a schema. -/
def new (catalogFile sourceSchema : String) : Settings := { catalogFile, sourceSchema }

/-- Settings with another target schema. -/
def withTargetSchema (s : Settings) (schema : String) : Settings :=
  { s with targetSchema := some schema }

/-- Settings with another output directory. -/
def withOutputDir (s : Settings) (dir : String) : Settings := { s with outputDir := dir }

/-- Settings with another number of tables in work. -/
def withThreads (s : Settings) (n : Nat) : Settings := { s with threads := n }

/-- Settings that take the given tables. -/
def withIncluded (s : Settings) (tables : List String) : Settings :=
  { s with includeTables := Text.joinWith "," tables }

/-- Settings that leave out the given tables. -/
def withExcluded (s : Settings) (tables : List String) : Settings :=
  { s with excludeTables := Text.joinWith "," tables }

/-- Settings with one more plan rule. -/
def withPlanRule (s : Settings) (r : PlanRule) : Settings :=
  { s with planRules := s.planRules ++ [r] }

/-- Settings with one more custom rule. -/
def withCustomRule (s : Settings) (r : CustomRule) : Settings :=
  { s with customRules := s.customRules ++ [r] }

/-- Settings with one more rename. -/
def withRename (s : Settings) (r : Rename) : Settings := { s with renames := s.renames ++ [r] }

/-- Settings under which the first failed table ends the run. -/
def failingFast (s : Settings) : Settings := { s with failFast := true }

/-- Settings under which nothing is written. -/
def withoutWriting (s : Settings) : Settings := { s with dryRun := true }

end Settings

end CatalogDdl
