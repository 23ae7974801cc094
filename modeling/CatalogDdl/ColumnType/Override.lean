import CatalogDdl.ColumnType.Builtin
import CatalogDdl.Fault
import CatalogDdl.Text.Numeral

/-!
# Choosing the target type of a column

A custom rule that matches a column beats a plan rule that matches it, and both beat the built-in
mapping. Within a tier at most one rule may match.

- `PlanRule.matches`, `CustomRule.matches`: when a rule matches. A rule without a target never does.
- `Column.attributes`: the numbers of a column, or the first one that is no integer.
- `Column.resolve`: the target type and the tier that chose it.
-/

namespace CatalogDdl

/-- The tier that chose a target type. -/
inductive TypeSource where
  | builtin
  | plan
  | custom
  deriving DecidableEq, Repr

/-- The target type of a column and what it was chosen from. -/
structure ResolvedType where
  /-- The display form of the source type. -/
  origin : String
  /-- The target type of the built-in mapping. -/
  builtin : String
  /-- The target type. -/
  target : String
  source : TypeSource
  deriving DecidableEq, Repr

/-- Whether a rule matches the columns of a source type. -/
def PlanRule.matches (r : PlanRule) (origin : String) : Bool :=
  TypeName.normalize r.sourceType == origin && !Text.isBlankText r.targetType

/-- Whether a rule concerns a table. -/
def CustomRule.concerns (r : CustomRule) (table : String) : Bool :=
  match r.table with
  | none => true
  | some t => Text.equalsIgnoringCase t table

/-- Whether a rule matches a column of a table and a source type. -/
def CustomRule.matches (r : CustomRule) (table column origin : String) : Bool :=
  r.concerns table && Text.equalsIgnoringCase (Text.trim r.column) (Text.trim column)
    && TypeName.normalize r.sourceType == origin && !Text.isBlankText r.targetType

/-- The integer that a number of a column writes. -/
def Column.number (c : Column) (table : String) (field : NumericField) (value : String) :
    Except Fault Int :=
  match Text.readInt64? (Text.trim value) with
  | some i => .ok i
  | none => .error (.malformedNumeric table c.name field value)

/-- The three numbers of a column. -/
def Column.attributes (c : Column) (table : String) : Except Fault TypeAttributes := do
  let length ← c.number table .length c.length
  let precision ← c.number table .precision c.precision
  let scale ← c.number table .scale c.scale
  pure { length, precision, scale }

/-- The targets of the custom rules that match a column. -/
def OverrideRules.customTargets (rules : OverrideRules) (table column origin : String) :
    List String :=
  (rules.custom.filter fun r => r.matches table column origin).map CustomRule.targetType

/-- The targets of the plan rules that match a source type. -/
def OverrideRules.planTargets (rules : OverrideRules) (origin : String) : List String :=
  (rules.plan.filter fun r => r.matches origin).map PlanRule.targetType

/-- The target type of a column of a table. -/
def Column.resolve (c : Column) (table : String) (rules : OverrideRules) :
    Except Fault ResolvedType := do
  let a ← c.attributes table
  let m := builtinType c.dataType a
  match rules.customTargets table c.name m.origin, rules.planTargets m.origin with
  | [], [] => pure ⟨m.origin, m.target, m.target, .builtin⟩
  | [], [t] => pure ⟨m.origin, m.target, Text.trim t, .plan⟩
  | [t], [] => pure ⟨m.origin, m.target, Text.trim t, .custom⟩
  | [t], [_] => pure ⟨m.origin, m.target, Text.trim t, .custom⟩
  | custom, plan => throw (.conflictingOverrides c.name m.origin custom plan)

end CatalogDdl
