import CatalogDdl.Ddl.Bundle
import CatalogDdl.Text.Quoted

/-!
# What comes of a table

A run gives every table that it starts an outcome: its bundle, or what went wrong in words. An outcome
contributes to three texts.

- `Outcome`: the outcome of a table, with the position of the table in the selection.
- `Scripts`: the primary script, the compatibility script and the log.
- `Outcome.entry`: what an outcome contributes to them.
-/

namespace CatalogDdl

open Ddl (Bundle)

/-- The outcome of a table. -/
structure Outcome where
  /-- The position of the table in the selection. -/
  position : Nat
  table : String
  /-- What is written for the table, or what went wrong. -/
  result : Except String Bundle

/-- The three texts of a run. -/
structure Scripts where
  primary : String := ""
  compatibility : String := ""
  log : String := ""
  deriving DecidableEq, Repr

/-- Scripts followed by others. -/
def Scripts.append (a b : Scripts) : Scripts :=
  ⟨a.primary ++ b.primary, a.compatibility ++ b.compatibility, a.log ++ b.log⟩

instance : Append Scripts := ⟨Scripts.append⟩

namespace Outcome

/-- Whether a table has a bundle. -/
def isOk (o : Outcome) : Bool :=
  match o.result with
  | .ok _ => true
  | .error _ => false

/-- An outcome as a message shows it. -/
def shown (o : Outcome) : String :=
  "TableOutcome \x7b seq: " ++ toString o.position ++ ", table: " ++ Text.quoted o.table ++ ", ok: "
    ++ (if o.isOk then "true" else "false") ++ " \x7d"

/-- The line that the log has for an outcome. -/
def logLine (o : Outcome) : String :=
  "[" ++ toString o.position ++ "] " ++
    match o.result with
    | .ok b =>
      b.source ++ " -> " ++ b.target ++ ": ok, primary=" ++ toString (b.primary.length + 1)
        ++ ", compatibility=" ++ toString b.reviewCount
        ++ ", warnings=" ++ toString b.warnings.length ++ "\n"
    | .error message => o.table ++ ": failed, " ++ message ++ "\n"

/-- A block of a script, or nothing for an empty one. -/
def block (sql : String) : String := if sql.isEmpty then "" else sql ++ "\n"

/-- What an outcome contributes to the scripts. -/
def entry (o : Outcome) : Scripts :=
  match o.result with
  | .ok b => ⟨b.primarySql ++ "\n", block b.compatibilitySql, o.logLine⟩
  | .error _ => ⟨"", "", o.logLine⟩

end Outcome

end CatalogDdl
