import CatalogDdl.Catalog.Basic
import CatalogDdl.ColumnType.Rule

/-!
# Why something failed

A fault is a cause; `Fault.message` words it, and `Fault.scope` says how far it reaches: a fault of
one table leaves the other tables alone, a fault of the run stops it.
-/

namespace CatalogDdl

/-- A number that the dictionary keeps as text. -/
inductive NumericField where
  | length
  | precision
  | scale
  deriving DecidableEq, Repr

/-- The dictionary's name of a number. -/
def NumericField.text : NumericField → String
  | .length => "data_length"
  | .precision => "data_precision"
  | .scale => "data_scale"

/-- What is wrong with settings that could be read. -/
inductive InvalidSettings where
  | noCatalogFile
  | missingCatalogFile (path : String)
  | noSourceSchema
  | noThreads
  | blankPlanRule (rule : PlanRule)
  | blankCustomRule (rule : CustomRule)
  deriving DecidableEq, Repr

/-- What is wrong with settings, in words. -/
def InvalidSettings.message : InvalidSettings → String
  | .noCatalogFile => "catalog_file is required"
  | .missingCatalogFile path => "Catalog file not found: " ++ path
  | .noSourceSchema => "source_schema is required"
  | .noThreads => "threads must be at least 1"
  | .blankPlanRule r =>
    "column_type_rules entry " ++ r.shown ++ " needs both source_type and target_type"
  | .blankCustomRule r =>
    "custom_column_rules entry " ++ r.shown ++ " needs column, source_type and target_type"

/-- What a snapshot cannot answer. -/
inductive CatalogGap where
  | otherSchema (held asked : String)
  | noTable (schema table : String)
  | unreadable (path : String)
  deriving DecidableEq, Repr

/-- What a snapshot cannot answer, in words. -/
def CatalogGap.message : CatalogGap → String
  | .otherSchema held asked => "snapshot holds schema [" ++ held ++ "], not [" ++ asked ++ "]"
  | .noTable schema table =>
    "oracle schema [" ++ schema ++ "] table [" ++ table ++ "] not found in snapshot"
  | .unreadable path =>
    "Failed to parse catalog snapshot " ++ path ++ ": not a snapshot in JSON"

/-- The cause of a failure. -/
inductive Fault where
  /-- A number of a column is no integer. -/
  | malformedNumeric (table column : String) (field : NumericField) (value : String)
  /-- A table has several primary keys. -/
  | ambiguousPrimaryKey (schema table : String) (rows : List String)
  /-- A table has several comments. -/
  | ambiguousTableComment (schema table : String) (rows : List String)
  /-- Several rules of one tier match a column. -/
  | conflictingOverrides (column sourceType : String) (custom plan : List String)
  /-- An index has a kind that the target does not know. -/
  | unsupportedIndex (table index kind columns : String)
  /-- An index was found by the look for the other uniqueness. -/
  | uniquenessMismatch (table index : String) (expected found : Uniqueness)
  /-- An index indexes nothing. -/
  | emptyIndex (table index : String)
  /-- A table has no columns. -/
  | emptyTable (schema table : String)
  /-- A snapshot cannot answer. -/
  | catalog (gap : CatalogGap)
  /-- Settings cannot be read. -/
  | unreadableSettings
  /-- Settings make no sense. -/
  | invalidSettings (cause : InvalidSettings)
  /-- The file system refuses. -/
  | files
  /-- A text is no JSON, or not of the expected form. -/
  | json
  /-- There is no mailbox with the room that the threads of a run ask for. The run breaks off. -/
  | noMailbox
  deriving DecidableEq, Repr

/-- How far a fault reaches. -/
inductive Scope where
  /-- Its table is given up. -/
  | table
  /-- The run is given up. -/
  | run
  deriving DecidableEq, Repr

namespace Fault

/-- Contradictory rules are a defect of the settings, not of a table. -/
def scope : Fault → Scope
  | malformedNumeric .. => .table
  | ambiguousPrimaryKey .. => .table
  | ambiguousTableComment .. => .table
  | unsupportedIndex .. => .table
  | uniquenessMismatch .. => .table
  | emptyIndex .. => .table
  | emptyTable .. => .table
  | conflictingOverrides .. => .run
  | catalog _ => .run
  | unreadableSettings => .run
  | invalidSettings _ => .run
  | files => .run
  | json => .run
  | noMailbox => .run

/-- A fault in words. -/
def message : Fault → String
  | malformedNumeric table column field value =>
    "oracle table [" ++ table ++ "] column [" ++ column ++ "] " ++ field.text ++ " [" ++ value
      ++ "] is not an integer"
  | ambiguousPrimaryKey schema table rows =>
    "oracle schema [" ++ schema ++ "] table [" ++ table ++ "] primary key exist multiple values: "
      ++ Text.quotedList rows
  | ambiguousTableComment schema table rows =>
    "oracle schema [" ++ schema ++ "] table [" ++ table ++ "] comments exist multiple values: "
      ++ Text.quotedList rows
  | conflictingOverrides column sourceType custom plan =>
    "column [" ++ column ++ "] type [" ++ sourceType ++ "] matches conflicting override rules: custom "
      ++ Text.quotedList custom ++ ", plan " ++ Text.quotedList plan
  | unsupportedIndex table index kind columns =>
    "oracle table [" ++ table ++ "] index [" ++ index ++ "] type [" ++ kind ++ "] on (" ++ columns
      ++ ") isn't supported by mysql"
  | uniquenessMismatch table index expected found =>
    "oracle table [" ++ table ++ "] index [" ++ index ++ "] expected " ++ expected.text
      ++ " but catalog reported " ++ found.text
  | emptyIndex table index =>
    "oracle table [" ++ table ++ "] index [" ++ index ++ "] has no columns or expressions"
  | emptyTable schema table => "oracle schema [" ++ schema ++ "] table [" ++ table ++ "] has no columns"
  | catalog gap => "Catalog error: " ++ gap.message
  | unreadableSettings => "Configuration error: the settings cannot be read"
  | invalidSettings cause => "Validation error: " ++ cause.message
  | files => "IO error: the file system refused an operation"
  | json => "JSON error: not the expected form"
  | noMailbox => "no mailbox has the room that the threads ask for"

end Fault

end CatalogDdl
