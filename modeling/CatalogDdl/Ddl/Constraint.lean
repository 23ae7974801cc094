import CatalogDdl.Ddl.Check
import CatalogDdl.Ddl.Identifier
import CatalogDdl.Fault

/-!
# Constraints

A primary key is a clause of CREATE TABLE; every other constraint is added by a statement of its own.

- `TargetTable`: the table that statements are about.
- `DeleteRule`: what a foreign key does when the row it refers to is deleted. A rule that has no
  counterpart keeps its text and gets no clause.
- `primaryKeyClause`: the clause of the only primary key.
- `Key.uniqueStatement`, `ForeignKey.statement`, `Check.statement?`: the statements. A check of which
  nothing remains has none.
-/

namespace CatalogDdl

namespace Ddl

/-- The table that statements are about. -/
structure TargetTable where
  schema : String
  name : String
  deriving DecidableEq, Repr

/-- The table with its schema. -/
def TargetTable.quoted (t : TargetTable) : String := quoteTable t.schema t.name

/-- The statement that adds a clause to a table. -/
def TargetTable.add (t : TargetTable) (clause : String) : String :=
  "ALTER TABLE " ++ t.quoted ++ " ADD " ++ clause

/-- What happens to a row when the row it refers to is deleted. -/
inductive DeleteRule where
  | noAction
  | cascade
  | setNull
  /-- A rule without a counterpart. -/
  | unhandled (name : String)
  deriving DecidableEq, Repr

/-- The rule that a text names. -/
def DeleteRule.ofText (s : String) : DeleteRule :=
  let name := Text.upper (Text.trim s)
  if name = "" || name = "NO ACTION" then .noAction
  else if name = "CASCADE" then .cascade
  else if name = "SET NULL" then .setNull
  else .unhandled (Text.trim s)

/-- The name of a rule. -/
def DeleteRule.text : DeleteRule → String
  | .noAction => "NO ACTION"
  | .cascade => "CASCADE"
  | .setNull => "SET NULL"
  | .unhandled name => name

/-- The clause of a rule. -/
def DeleteRule.clause : DeleteRule → String
  | .noAction => ""
  | .cascade => " ON DELETE CASCADE"
  | .setNull => " ON DELETE SET NULL"
  | .unhandled _ => ""

/-- Whether a rule has a counterpart. -/
def DeleteRule.isHandled : DeleteRule → Bool
  | .unhandled _ => false
  | _ => true

/-- How a message shows a key. -/
def shownKey (k : Key) : String := k.name ++ "(" ++ Text.joinWith "," k.columns ++ ")"

/-- The clause of the only primary key of a source table, if it has one. -/
def primaryKeyClause (schema table : String) : List Key → Except Fault (Option String)
  | [] => .ok none
  | [k] => .ok (some ("PRIMARY KEY (" ++ quoteNames k.columns ++ ")"))
  | keys => .error (.ambiguousPrimaryKey schema table (keys.map shownKey))

end Ddl

open Ddl

/-- The statement that adds a unique key. -/
def Key.uniqueStatement (k : Key) (t : TargetTable) : String :=
  t.add ("UNIQUE " ++ quoteName k.name ++ " (" ++ quoteNames k.columns ++ ")")

/-- The delete rule of a foreign key. -/
def ForeignKey.rule (k : ForeignKey) : DeleteRule := .ofText k.deleteRule

/-- The table that a foreign key refers to. -/
def ForeignKey.reference (k : ForeignKey) : String := quoteTable k.owner k.table

/-- The statement that adds a foreign key. -/
def ForeignKey.statement (k : ForeignKey) (t : TargetTable) : String :=
  t.add ("CONSTRAINT " ++ quoteName k.name ++ " FOREIGN KEY(" ++ quoteNames k.columns
    ++ ") REFERENCES " ++ k.reference ++ "(" ++ quoteNames k.tableColumns ++ ")" ++ k.rule.clause)

/-- The statement that adds what remains of a check. -/
def Check.statement? (c : Check) (t : TargetTable) : Option String :=
  (residue? c.predicate).map fun p =>
    t.add ("CONSTRAINT " ++ quoteName c.name ++ " CHECK (" ++ p ++ ")")

end CatalogDdl
