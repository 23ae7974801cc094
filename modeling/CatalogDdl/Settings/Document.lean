import CatalogDdl.Settings.Coercion
import CatalogDdl.Settings.Descriptor

/-!
# Settings from a table

The entries of a table give settings their values; an entry of another name is passed over, and a
setting without an entry keeps its default. A rule is a table, or an array of its fields in order.

- `Toml.required`, `Toml.optional`: the value of an entry.
- `Settings.ofEntries?`: the settings that a table gives.
-/

namespace CatalogDdl

namespace Toml

/-- The value of an entry that must be there. -/
def required (entries : Entries) (name : String) (read : Toml → Option α) : Option α :=
  (entries.lookup name).bind read

/-- The value of an entry that may be left out. -/
def optional (entries : Entries) (name : String) (fallback : α) (read : Toml → Option α) : Option α :=
  match entries.lookup name with
  | none => some fallback
  | some v => read v

/-- The fields of a record: a table, or an array of the fields in order. -/
def record? (names : List String) : Toml → Option Entries
  | .table _ entries => some entries
  | .array _ items => some (names.zip items)
  | _ => none

/-- The items of an array, each read by `read`. -/
def toList? (read : Toml → Option α) : Toml → Option (List α)
  | .array _ items => items.mapM read
  | _ => none

end Toml

/-- The plan rule that a value gives. -/
def PlanRule.ofToml? (c : Coercion) (v : Toml) : Option PlanRule := do
  let es ← v.record? fieldNames
  let sourceType ← Toml.required es "source_type" c.text?
  let targetType ← Toml.required es "target_type" c.text?
  pure { sourceType, targetType }

/-- The custom rule that a value gives. -/
def CustomRule.ofToml? (c : Coercion) (v : Toml) : Option CustomRule := do
  let es ← v.record? fieldNames
  let table ← Toml.optional es "table" none fun t => (c.text? t).map some
  let column ← Toml.required es "column" c.text?
  let sourceType ← Toml.required es "source_type" c.text?
  let targetType ← Toml.required es "target_type" c.text?
  pure { table, column, sourceType, targetType }

/-- The rename that a value gives. -/
def Rename.ofToml? (c : Coercion) (v : Toml) : Option Rename := do
  let es ← v.record? fieldNames
  let sourceTable ← Toml.required es "source_table" c.text?
  let targetTable ← Toml.required es "target_table" c.text?
  pure { sourceTable, targetTable }

/-- The settings that a table gives. -/
def Settings.ofEntries? (c : Coercion) (es : Toml.Entries) : Option Settings := do
  let d : Settings := {}
  let some? (v : Toml) : Option (Option String) := (c.text? v).map some
  let catalogFile ← Toml.optional es "catalog_file" d.catalogFile c.text?
  let sourceSchema ← Toml.optional es "source_schema" d.sourceSchema c.text?
  let targetSchema ← Toml.optional es "target_schema" d.targetSchema some?
  let includeTables ← Toml.optional es "include_tables" d.includeTables c.text?
  let excludeTables ← Toml.optional es "exclude_tables" d.excludeTables c.text?
  let outputDir ← Toml.optional es "output_dir" d.outputDir c.text?
  let threads ← Toml.optional es "threads" d.threads c.number?
  let tableOption ← Toml.optional es "table_option" d.tableOption c.text?
  let failFast ← Toml.optional es "fail_fast" d.failFast c.bool?
  let dryRun ← Toml.optional es "dry_run" d.dryRun c.bool?
  let logLevel ← Toml.optional es "log_level" d.logLevel some?
  let planRules ←
    Toml.optional es "column_type_rules" d.planRules (Toml.toList? (PlanRule.ofToml? c))
  let customRules ←
    Toml.optional es "custom_column_rules" d.customRules (Toml.toList? (CustomRule.ofToml? c))
  let renames ← Toml.optional es "table_rules" d.renames (Toml.toList? (Rename.ofToml? c))
  pure { catalogFile, sourceSchema, targetSchema, includeTables, excludeTables, outputDir, threads,
         tableOption, failFast, dryRun, logLevel, planRules, customRules, renames }

end CatalogDdl
