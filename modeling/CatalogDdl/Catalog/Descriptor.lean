import CatalogDdl.Catalog.Basic
import CatalogDdl.Json.Record
import CatalogDdl.Text.Numeral

/-!
# Dictionary rows in JSON

Each record of the catalog has a form in JSON: `toJson` writes every field, `ofJson?` reads a record
whose later fields may be missing. The three numbers of a column may be written as integers or as
null; the kind of an index may be written in any case.
-/

namespace CatalogDdl

open Json (text texts)

/-- A number kept as text: a string as it stands, an integer of 64 bits in decimal, null as zero. -/
def numericText? : Json → Option String
  | .string s => s
  | .integer i => if Text.fitsInt64 i then some (toString i) else none
  | .null => some "0"
  | _ => none

/-- The names of a column's fields, in order. -/
def Column.fieldNames : List String :=
  ["column_name", "data_type", "nullable", "data_length", "data_precision", "data_scale",
    "data_default", "comments"]

/-- A column in JSON. -/
def Column.toJson (c : Column) : Json :=
  .ofFields [("column_name", text c.name), ("data_type", text c.dataType),
    ("nullable", text c.nullable), ("data_length", text c.length),
    ("data_precision", text c.precision), ("data_scale", text c.scale),
    ("data_default", text c.defaultText), ("comments", text c.comment)]

/-- The column that a value describes. -/
def Column.ofJson? (j : Json) : Option Column := do
  let fs ← j.record? fieldNames
  let name ← fs.required "column_name" Json.toText?
  let dataType ← fs.required "data_type" Json.toText?
  let nullable ← fs.optional "nullable" "Y" Json.toText?
  let length ← fs.optional "data_length" "0" numericText?
  let precision ← fs.optional "data_precision" "0" numericText?
  let scale ← fs.optional "data_scale" "0" numericText?
  let defaultText ← fs.optional "data_default" "" Json.toText?
  let comment ← fs.optional "comments" "" Json.toText?
  pure { name, dataType, nullable, length, precision, scale, defaultText, comment }

/-- The names of a key's fields, in order. -/
def Key.fieldNames : List String := ["constraint_name", "column_list"]

/-- A key in JSON. -/
def Key.toJson (k : Key) : Json :=
  .ofFields [("constraint_name", text k.name), ("column_list", texts k.columns)]

/-- The key that a value describes. -/
def Key.ofJson? (j : Json) : Option Key := do
  let fs ← j.record? fieldNames
  let name ← fs.optional "constraint_name" "" Json.toText?
  let columns ← fs.required "column_list" Json.toTexts?
  pure { name, columns }

/-- The names of a foreign key's fields, in order. -/
def ForeignKey.fieldNames : List String :=
  ["constraint_name", "column_list", "r_owner", "r_table_name", "r_column_list", "delete_rule"]

/-- A foreign key in JSON. -/
def ForeignKey.toJson (k : ForeignKey) : Json :=
  .ofFields [("constraint_name", text k.name), ("column_list", texts k.columns),
    ("r_owner", text k.owner), ("r_table_name", text k.table),
    ("r_column_list", texts k.tableColumns), ("delete_rule", text k.deleteRule)]

/-- The foreign key that a value describes. -/
def ForeignKey.ofJson? (j : Json) : Option ForeignKey := do
  let fs ← j.record? fieldNames
  let name ← fs.required "constraint_name" Json.toText?
  let columns ← fs.required "column_list" Json.toTexts?
  let owner ← fs.required "r_owner" Json.toText?
  let table ← fs.required "r_table_name" Json.toText?
  let tableColumns ← fs.required "r_column_list" Json.toTexts?
  let deleteRule ← fs.optional "delete_rule" "" Json.toText?
  pure { name, columns, owner, table, tableColumns, deleteRule }

/-- The names of a check's fields, in order. -/
def Check.fieldNames : List String := ["constraint_name", "search_condition"]

/-- A check in JSON. -/
def Check.toJson (c : Check) : Json :=
  .ofFields [("constraint_name", text c.name), ("search_condition", text c.predicate)]

/-- The check that a value describes. -/
def Check.ofJson? (j : Json) : Option Check := do
  let fs ← j.record? fieldNames
  let name ← fs.required "constraint_name" Json.toText?
  let predicate ← fs.required "search_condition" Json.toText?
  pure { name, predicate }

/-- The uniqueness that a word names. -/
def Uniqueness.ofText? (s : String) : Option Uniqueness :=
  if s = "UNIQUE" then some .unique else if s = "NONUNIQUE" then some .nonunique else none

/-- The uniqueness that a value names: its word, or an object with that word as its only member and
null as its value. -/
def Uniqueness.ofJson? : Json → Option Uniqueness
  | .string s => s.bind ofText?
  | .object [(name, .null)] => name.bind ofText?
  | _ => none

/-- The names of an index's fields, in order. -/
def Index.fieldNames : List String :=
  ["index_name", "uniqueness", "index_type", "column_list", "column_expressions"]

/-- An index in JSON. -/
def Index.toJson (i : Index) : Json :=
  .ofFields [("index_name", text i.name), ("uniqueness", text i.uniqueness.text),
    ("index_type", text i.kind.text), ("column_list", texts i.columns),
    ("column_expressions", texts i.expressions)]

/-- The index that a value describes. -/
def Index.ofJson? (j : Json) : Option Index := do
  let fs ← j.record? fieldNames
  let name ← fs.required "index_name" Json.toText?
  let uniqueness ← fs.required "uniqueness" Uniqueness.ofJson?
  let kind ← fs.required "index_type" Json.toText?
  let columns ← fs.optional "column_list" [] Json.toTexts?
  let expressions ← fs.optional "column_expressions" [] Json.toTexts?
  pure { name, uniqueness, kind := .ofText kind, columns, expressions }

/-- The names of a table's fields, in order. -/
def Table.fieldNames : List String :=
  ["table_name", "comments", "columns", "primary_keys", "unique_keys", "foreign_keys",
    "check_constraints", "unique_indexes", "normal_indexes"]

/-- A table in JSON. -/
def Table.toJson (t : Table) : Json :=
  .ofFields [("table_name", text t.name), ("comments", texts t.comments),
    ("columns", .array (t.columns.map Column.toJson)),
    ("primary_keys", .array (t.primaryKeys.map Key.toJson)),
    ("unique_keys", .array (t.uniqueKeys.map Key.toJson)),
    ("foreign_keys", .array (t.foreignKeys.map ForeignKey.toJson)),
    ("check_constraints", .array (t.checks.map Check.toJson)),
    ("unique_indexes", .array (t.uniqueIndexes.map Index.toJson)),
    ("normal_indexes", .array (t.normalIndexes.map Index.toJson))]

/-- The table that a value describes. -/
def Table.ofJson? (j : Json) : Option Table := do
  let fs ← j.record? fieldNames
  let name ← fs.required "table_name" Json.toText?
  let comments ← fs.optional "comments" [] Json.toTexts?
  let columns ← fs.optional "columns" [] (Json.toList? Column.ofJson?)
  let primaryKeys ← fs.optional "primary_keys" [] (Json.toList? Key.ofJson?)
  let uniqueKeys ← fs.optional "unique_keys" [] (Json.toList? Key.ofJson?)
  let foreignKeys ← fs.optional "foreign_keys" [] (Json.toList? ForeignKey.ofJson?)
  let checks ← fs.optional "check_constraints" [] (Json.toList? Check.ofJson?)
  let uniqueIndexes ← fs.optional "unique_indexes" [] (Json.toList? Index.ofJson?)
  let normalIndexes ← fs.optional "normal_indexes" [] (Json.toList? Index.ofJson?)
  pure { name, comments, columns, primaryKeys, uniqueKeys, foreignKeys, checks, uniqueIndexes,
         normalIndexes }

/-- The names of a snapshot's fields, in order. -/
def Snapshot.fieldNames : List String := ["schema", "target_version", "tables"]

/-- A snapshot in JSON. -/
def Snapshot.toJson (s : Snapshot) : Json :=
  .ofFields [("schema", text s.schema), ("target_version", text s.targetVersion),
    ("tables", .array (s.tables.map Table.toJson))]

/-- The snapshot that a value describes. -/
def Snapshot.ofJson? (j : Json) : Option Snapshot := do
  let fs ← j.record? fieldNames
  let schema ← fs.required "schema" Json.toText?
  let targetVersion ← fs.required "target_version" Json.toText?
  let tables ← fs.optional "tables" [] (Json.toList? Table.ofJson?)
  pure { schema, targetVersion, tables }

end CatalogDdl
