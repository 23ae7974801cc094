import CatalogDdl.Text.Quoted

/-!
# Override rules

Two tiers of rules replace the built-in type mapping: plan rules for every column of a source type,
and custom rules for one column, in one table or in all.
-/

namespace CatalogDdl

/-- A rule for every column of one source type. -/
structure PlanRule where
  sourceType : String
  targetType : String
  deriving DecidableEq, Repr

/-- A rule for one column of one source type, in one table or in every table. -/
structure CustomRule where
  table : Option String := none
  column : String
  sourceType : String
  targetType : String
  deriving DecidableEq, Repr

/-- Both tiers of rules. -/
structure OverrideRules where
  plan : List PlanRule := []
  custom : List CustomRule := []
  deriving DecidableEq, Repr

/-- How a message shows a rule. -/
def PlanRule.shown (r : PlanRule) : String :=
  "ColumnTypeRule \x7b source_type: " ++ Text.quoted r.sourceType ++ ", target_type: "
    ++ Text.quoted r.targetType ++ " \x7d"

/-- How a message shows the table of a rule. -/
def shownTable : Option String → String
  | none => "None"
  | some t => "Some(" ++ Text.quoted t ++ ")"

/-- How a message shows a rule. -/
def CustomRule.shown (r : CustomRule) : String :=
  "CustomColumnRule \x7b table: " ++ shownTable r.table ++ ", column: " ++ Text.quoted r.column
    ++ ", source_type: " ++ Text.quoted r.sourceType ++ ", target_type: "
    ++ Text.quoted r.targetType ++ " \x7d"

end CatalogDdl
