import CatalogDdl.Ddl.Banner
import CatalogDdl.Ddl.Warning

/-!
# The statements of a table

A bundle holds what is written for one table: the CREATE TABLE statement, the statements that can be
applied after it, and groups of statements to review.

- `Group`, `Bundle`: the statements.
- `Bundle.primarySql`: the block of the primary script, under a banner.
- `Bundle.compatibilitySql`: the block of the compatibility script, each group under a banner. It is
  empty when there is nothing to review.
-/

namespace CatalogDdl.Ddl

/-- Why statements are grouped for review. -/
inductive GroupKind where
  | foreignKeys
  | checkConstraints
  /-- Foreign keys whose delete rule has no counterpart. -/
  | unhandledDeleteRules
  | indexes
  deriving DecidableEq, Repr

/-- The name of a kind. -/
def GroupKind.text : GroupKind → String
  | .foreignKeys => "ForeignKeys"
  | .checkConstraints => "CheckConstraints"
  | .unhandledDeleteRules => "UnhandledDeleteRules"
  | .indexes => "Indexes"

/-- Statements to review under one banner. -/
structure Group where
  kind : GroupKind
  statements : List String
  deriving DecidableEq, Repr

/-- What is written for one table. -/
structure Bundle where
  /-- The source table with its schema. -/
  source : String
  /-- The target table with its schema. -/
  target : String
  createTable : String
  /-- The statements that can be applied after CREATE TABLE. -/
  primary : List String
  /-- The statements to review. -/
  groups : List Group
  warnings : List Warning
  deriving DecidableEq, Repr

/-- The title of the banner over a table. -/
def tableTitle : String := "oracle table reverse sql"

/-- The title of the banner over a group. -/
def groupTitle : String := "oracle table check constraint maybe mysql has compatibility, skip"

/-- Statements, each ended by a semicolon and a line end. -/
def terminated (statements : List String) : String :=
  Text.joinWith "" (statements.map fun s => s ++ ";\n")

namespace Bundle

/-- The block of the primary script. -/
def primarySql (b : Bundle) : String :=
  renderBanner tableTitle b.source b.target "Manual" ++ b.createTable ++ ";\n\n"
    ++ terminated b.primary

/-- The block of a group. -/
def groupSql (b : Bundle) (g : Group) : String :=
  renderBanner groupTitle b.source b.target "Manual Create" ++ terminated g.statements

/-- The block of the compatibility script. -/
def compatibilitySql (b : Bundle) : String := Text.joinWith "" (b.groups.map b.groupSql)

/-- The number of statements to review. -/
def reviewCount (b : Bundle) : Nat := (b.groups.flatMap Group.statements).length

end Bundle

end CatalogDdl.Ddl
