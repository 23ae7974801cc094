import CatalogDdl.Json.Record
import CatalogDdl.Settings.Basic
import CatalogDdl.Text.Numeral

/-!
# Settings in JSON

Settings and rules as JSON values: `toJson` writes every field, `ofJson?` reads a record in which
every field that has a default may be missing.
-/

namespace CatalogDdl

open Json (text)

/-- A number of 64 bits without a sign. -/
def Json.toNat64? : Json → Option Nat
  | .integer (.ofNat n) => if n < Text.bound64 then some n else none
  | _ => none

/-- The names of a plan rule's fields, in order. -/
def PlanRule.fieldNames : List String := ["source_type", "target_type"]

/-- A plan rule in JSON. -/
def PlanRule.toJson (r : PlanRule) : Json :=
  .ofFields [("source_type", text r.sourceType), ("target_type", text r.targetType)]

/-- The plan rule that a value describes. -/
def PlanRule.ofJson? (j : Json) : Option PlanRule := do
  let fs ← j.record? fieldNames
  let sourceType ← fs.required "source_type" Json.toText?
  let targetType ← fs.required "target_type" Json.toText?
  pure { sourceType, targetType }

/-- The names of a custom rule's fields, in order. -/
def CustomRule.fieldNames : List String := ["table", "column", "source_type", "target_type"]

/-- A custom rule in JSON. -/
def CustomRule.toJson (r : CustomRule) : Json :=
  .ofFields [("table", .ofOption text r.table), ("column", text r.column),
    ("source_type", text r.sourceType), ("target_type", text r.targetType)]

/-- The custom rule that a value describes. -/
def CustomRule.ofJson? (j : Json) : Option CustomRule := do
  let fs ← j.record? fieldNames
  let table ← fs.optional "table" none (Json.toOption? Json.toText?)
  let column ← fs.required "column" Json.toText?
  let sourceType ← fs.required "source_type" Json.toText?
  let targetType ← fs.required "target_type" Json.toText?
  pure { table, column, sourceType, targetType }

/-- The names of a rename's fields, in order. -/
def Rename.fieldNames : List String := ["source_table", "target_table"]

/-- A rename in JSON. -/
def Rename.toJson (r : Rename) : Json :=
  .ofFields [("source_table", text r.sourceTable), ("target_table", text r.targetTable)]

/-- The rename that a value describes. -/
def Rename.ofJson? (j : Json) : Option Rename := do
  let fs ← j.record? fieldNames
  let sourceTable ← fs.required "source_table" Json.toText?
  let targetTable ← fs.required "target_table" Json.toText?
  pure { sourceTable, targetTable }

namespace Settings

/-- The names of the settings, in order. -/
def fieldNames : List String :=
  ["catalog_file", "source_schema", "target_schema", "include_tables", "exclude_tables",
    "output_dir", "threads", "table_option", "fail_fast", "dry_run", "log_level",
    "column_type_rules", "custom_column_rules", "table_rules"]

/-- Settings in JSON. -/
def toJson (s : Settings) : Json :=
  .ofFields [("catalog_file", text s.catalogFile), ("source_schema", text s.sourceSchema),
    ("target_schema", .ofOption text s.targetSchema), ("include_tables", text s.includeTables),
    ("exclude_tables", text s.excludeTables), ("output_dir", text s.outputDir),
    ("threads", .count s.threads), ("table_option", text s.tableOption),
    ("fail_fast", .bool s.failFast), ("dry_run", .bool s.dryRun),
    ("log_level", .ofOption text s.logLevel),
    ("column_type_rules", .array (s.planRules.map PlanRule.toJson)),
    ("custom_column_rules", .array (s.customRules.map CustomRule.toJson)),
    ("table_rules", .array (s.renames.map Rename.toJson))]

/-- The settings that a value describes. -/
def ofJson? (j : Json) : Option Settings := do
  let fs ← j.record? fieldNames
  let d : Settings := {}
  let catalogFile ← fs.optional "catalog_file" d.catalogFile Json.toText?
  let sourceSchema ← fs.optional "source_schema" d.sourceSchema Json.toText?
  let targetSchema ← fs.optional "target_schema" d.targetSchema (Json.toOption? Json.toText?)
  let includeTables ← fs.optional "include_tables" d.includeTables Json.toText?
  let excludeTables ← fs.optional "exclude_tables" d.excludeTables Json.toText?
  let outputDir ← fs.optional "output_dir" d.outputDir Json.toText?
  let threads ← fs.optional "threads" d.threads Json.toNat64?
  let tableOption ← fs.optional "table_option" d.tableOption Json.toText?
  let failFast ← fs.optional "fail_fast" d.failFast Json.toBool?
  let dryRun ← fs.optional "dry_run" d.dryRun Json.toBool?
  let logLevel ← fs.optional "log_level" d.logLevel (Json.toOption? Json.toText?)
  let planRules ← fs.optional "column_type_rules" d.planRules (Json.toList? PlanRule.ofJson?)
  let customRules ← fs.optional "custom_column_rules" d.customRules (Json.toList? CustomRule.ofJson?)
  let renames ← fs.optional "table_rules" d.renames (Json.toList? Rename.ofJson?)
  pure { catalogFile, sourceSchema, targetSchema, includeTables, excludeTables, outputDir, threads,
         tableOption, failFast, dryRun, logLevel, planRules, customRules, renames }

end Settings

end CatalogDdl
