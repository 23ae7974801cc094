import CatalogDdl.ColumnType.Override
import CatalogDdl.Ddl.Bundle
import CatalogDdl.Ddl.ColumnClause
import CatalogDdl.Ddl.Index
import CatalogDdl.Ddl.ServerVersion

/-!
# From a table to its statements

`Request.synthesize` turns the description of one table into its bundle. It looks at nothing but the
request, so tables can be done in any order.

A table fails for the first of these causes: it has no columns; it has several comments; the type of
a column cannot be resolved; it has several primary keys; an index of the unique ones, then of the
others, has no statement. Otherwise every unique key, foreign key and index has exactly one
statement, and so has every check of which something remains. The version of the server decides no
more than the script that foreign keys and checks go to.
-/

namespace CatalogDdl.Ddl

/-- What is asked for one table. -/
structure Request where
  sourceSchema : String
  targetSchema : String
  targetTable : String
  /-- What follows the column list of CREATE TABLE. -/
  tableOption : String
  table : Table
  rules : OverrideRules
  version : ServerVersion

/-- A statement and the catalog object it is for. -/
structure Statement where
  object : String
  sql : String
  deriving DecidableEq, Repr

/-- The group of some statements, if there are any. -/
def groupOf (kind : GroupKind) (statements : List String) : List Group :=
  if statements.isEmpty then [] else [⟨kind, statements⟩]

namespace Request

variable (r : Request)

/-- The table that the statements are about. -/
def target : TargetTable := ⟨r.targetSchema, r.targetTable⟩

/-- Fails for a table without columns. -/
def requireColumns : Except Fault Unit :=
  if r.table.columns.isEmpty then .error (.emptyTable r.sourceSchema r.table.name) else .ok ()

/-- The comment of the table, empty if it has none. -/
def comment : Except Fault String :=
  match r.table.comments with
  | [] => .ok ""
  | [c] => .ok c
  | rows => .error (.ambiguousTableComment r.sourceSchema r.table.name rows)

/-- The clause of a column. -/
def columnClause (c : Column) : Except Fault String := do
  let t ← c.resolve r.table.name r.rules
  pure (c.clause t.target)

/-- The clause of the primary key. -/
def primaryKey : Except Fault (Option String) :=
  primaryKeyClause r.sourceSchema r.table.name r.table.primaryKeys

/-- What follows the column list: the table option. -/
def optionClause : String :=
  if Text.isBlankText r.tableOption then "" else " " ++ Text.trim r.tableOption

/-- The CREATE TABLE statement with given clauses and a comment. -/
def createTable (clauses : List String) (comment : String) : String :=
  "CREATE TABLE " ++ r.target.quoted ++ " (\n  " ++ Text.joinWith ",\n  " clauses ++ "\n)"
    ++ r.optionClause ++ (if comment.isEmpty then "" else " COMMENT=" ++ quoteComment comment)

/-- The statements of indexes that the look for a given uniqueness found. -/
def indexStatements (expected : Uniqueness) (indexes : List Index) :
    Except Fault (List IndexStatement) :=
  indexes.mapM fun i => i.statement r.table.name r.target expected

/-- The statements of the unique keys. -/
def uniqueKeyStatements : List String := r.table.uniqueKeys.map fun k => k.uniqueStatement r.target

/-- The statements of the checks of which something remains. -/
def checkStatements : List Statement :=
  r.table.checks.filterMap fun c => (c.statement? r.target).map fun s => ⟨c.name, s⟩

/-- The foreign keys whose delete rule has a counterpart. -/
def handledKeys : List ForeignKey := r.table.foreignKeys.filter fun k => k.rule.isHandled

/-- The foreign keys whose delete rule has no counterpart. -/
def unhandledKeys : List ForeignKey := r.table.foreignKeys.filter fun k => !k.rule.isHandled

/-- The statements of foreign keys. -/
def keyStatements (keys : List ForeignKey) : List String := keys.map fun k => k.statement r.target

/-- Whether the checks have to be reviewed. -/
def reviewsChecks : Bool := r.version.placement.checks == .compatibility

/-- Whether the foreign keys have to be reviewed. -/
def reviewsForeignKeys : Bool := r.version.placement.foreignKeys == .compatibility

/-- The statements that can be applied after CREATE TABLE. -/
def primaryStatements (indexes : List IndexStatement) : List String :=
  r.uniqueKeyStatements ++ indexes.filterMap IndexStatement.portable?
    ++ (if r.reviewsChecks then [] else r.checkStatements.map Statement.sql)
    ++ (if r.reviewsForeignKeys then [] else r.keyStatements r.handledKeys)

/-- The groups of statements to review. -/
def reviewGroups (indexes : List IndexStatement) : List Group :=
  (if r.reviewsChecks then groupOf .checkConstraints (r.checkStatements.map Statement.sql) else [])
    ++ (if r.reviewsForeignKeys then groupOf .foreignKeys (r.keyStatements r.handledKeys) else [])
    ++ groupOf .unhandledDeleteRules (r.keyStatements r.unhandledKeys)
    ++ groupOf .indexes (indexes.filterMap IndexStatement.review?)

/-- The warning about a foreign key whose delete rule has no counterpart. -/
def unhandledWarning (k : ForeignKey) : Warning :=
  ⟨.unhandledDeleteRule, k.name, "delete rule [" ++ k.rule.text ++ "] is not generated"⟩

/-- The warning about a check that has to be reviewed. -/
def checkWarning (s : Statement) : Warning :=
  ⟨.checkConstraint, s.object, "target " ++ r.version.raw ++ " may not enforce CHECK"⟩

/-- The warning about a foreign key that has to be reviewed. -/
def foreignKeyWarning (k : ForeignKey) : Warning :=
  ⟨.foreignKey, k.name, "target " ++ r.version.raw ++ " foreign key support is not assumed"⟩

/-- The warnings, one for each statement to review. -/
def warnings (indexes : List IndexStatement) : List Warning :=
  indexes.filterMap IndexStatement.warning?
    ++ r.unhandledKeys.map unhandledWarning
    ++ (if r.reviewsChecks then r.checkStatements.map r.checkWarning else [])
    ++ (if r.reviewsForeignKeys then r.handledKeys.map r.foreignKeyWarning else [])

/-- The bundle of a table, or the first cause why it has none. -/
def synthesize : Except Fault Bundle := do
  r.requireColumns
  let comment ← r.comment
  let columns ← r.table.columns.mapM r.columnClause
  let primaryKey ← r.primaryKey
  let unique ← r.indexStatements .unique r.table.uniqueIndexes
  let normal ← r.indexStatements .nonunique r.table.normalIndexes
  let indexes := unique ++ normal
  pure {
    source := displayTable r.sourceSchema r.table.name
    target := displayTable (Text.lower r.targetSchema) (Text.lower r.targetTable)
    createTable := r.createTable (columns ++ primaryKey.toList) comment
    primary := r.primaryStatements indexes
    groups := r.reviewGroups indexes
    warnings := r.warnings indexes }

end Request

end CatalogDdl.Ddl
