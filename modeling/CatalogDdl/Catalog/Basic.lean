import CatalogDdl.Text.Case
import CatalogDdl.Text.Blank

/-!
# What the data dictionary says about a table

One record per kind of dictionary row, and the table that collects them. Texts are kept as the
dictionary gives them; whoever uses one trims or folds it.

- `Column`, `Key`, `ForeignKey`, `Check`, `Index`: the parts of a table.
- `Index.keyParts`: the indexed positions, each an expression or a plain column.
- `Table`, `Snapshot`: a table, and the tables of one schema with the version of the target server.
-/

namespace CatalogDdl

/-- A source column. The numbers are kept as text and read when its type is resolved, so that a
malformed one concerns its table alone. -/
structure Column where
  name : String
  /-- The type name, such as `NUMBER` or `TIMESTAMP(6) WITH TIME ZONE`. -/
  dataType : String
  /-- `Y` when the column accepts null. -/
  nullable : String := "Y"
  length : String := "0"
  precision : String := "0"
  scale : String := "0"
  /-- The text of the default value; empty when there is none. -/
  defaultText : String := ""
  /-- The comment; empty when there is none. -/
  comment : String := ""
  deriving DecidableEq, Repr

/-- Only an explicit `Y` lets a column accept null. -/
def Column.acceptsNull (c : Column) : Bool := c.nullable == "Y"

/-- A primary or unique key. -/
structure Key where
  name : String := ""
  columns : List String
  deriving DecidableEq, Repr

/-- A foreign key. -/
structure ForeignKey where
  name : String
  columns : List String
  /-- The owner of the referenced table. -/
  owner : String
  table : String
  tableColumns : List String
  /-- What happens to a row when the row it refers to is deleted. -/
  deleteRule : String := ""
  deriving DecidableEq, Repr

/-- A check constraint with its predicate. -/
structure Check where
  name : String
  predicate : String
  deriving DecidableEq, Repr

/-- Whether an index allows a key twice. -/
inductive Uniqueness where
  | unique
  | nonunique
  deriving DecidableEq, Repr

/-- The dictionary's word for it. -/
def Uniqueness.text : Uniqueness → String
  | .unique => "UNIQUE"
  | .nonunique => "NONUNIQUE"

/-- The kind of an index. -/
inductive IndexKind where
  | normal
  | functionBased
  | bitmap
  /-- Any other kind, as the dictionary spells it. -/
  | other (name : String)
  deriving DecidableEq, Repr

/-- The dictionary's word for a kind. -/
def IndexKind.text : IndexKind → String
  | .normal => "NORMAL"
  | .functionBased => "FUNCTION-BASED NORMAL"
  | .bitmap => "BITMAP"
  | .other name => name

/-- The kind that a text names, in any case and with blanks around it. -/
def IndexKind.ofText (s : String) : IndexKind :=
  let name := Text.upper (Text.trim s)
  if name = "NORMAL" then .normal
  else if name = "FUNCTION-BASED NORMAL" then .functionBased
  else if name = "BITMAP" then .bitmap
  else .other s

/-- Whether statements are written for a kind. -/
def IndexKind.isKnown : IndexKind → Bool
  | .other _ => false
  | _ => true

/-- An index. -/
structure Index where
  name : String
  uniqueness : Uniqueness
  kind : IndexKind
  columns : List String := []
  /-- An expression for each position; a blank one leaves the position to the column. -/
  expressions : List String := []
  deriving DecidableEq, Repr

/-- An indexed position. -/
inductive KeyPart where
  | expression (text : String)
  | column (name : String)
  deriving DecidableEq, Repr

/-- The text of a position. -/
def KeyPart.text : KeyPart → String
  | .expression t => t
  | .column n => n

/-- What a position indexes: its expression if it has one, else its column if it has one. -/
def keyPart? (column expression : String) : Option KeyPart :=
  if !Text.isBlankText expression then some (.expression (Text.trim expression))
  else if !Text.isBlankText column then some (.column (Text.trim column))
  else none

/-- What the positions of two lists index, the shorter list taken as blank beyond its end. -/
def keyPartsOf : List String → List String → List KeyPart
  | [], es => es.filterMap (keyPart? "")
  | c :: cs, [] => (keyPart? c "").toList ++ keyPartsOf cs []
  | c :: cs, e :: es => (keyPart? c e).toList ++ keyPartsOf cs es

/-- What an index indexes, position by position. -/
def Index.keyParts (i : Index) : List KeyPart := keyPartsOf i.columns i.expressions

/-- The text of each position. -/
def Index.keyTexts (i : Index) : List String := i.keyParts.map KeyPart.text

/-- A table. -/
structure Table where
  name : String
  /-- The comment rows; more than one is ambiguous. -/
  comments : List String := []
  /-- The columns in their order. -/
  columns : List Column := []
  /-- The primary key rows; more than one is ambiguous. -/
  primaryKeys : List Key := []
  uniqueKeys : List Key := []
  foreignKeys : List ForeignKey := []
  checks : List Check := []
  /-- What the look for unique indexes found. -/
  uniqueIndexes : List Index := []
  /-- What the look for other indexes found. -/
  normalIndexes : List Index := []
  deriving DecidableEq, Repr

/-- The number of constraints of every kind. -/
def Table.constraintCount (t : Table) : Nat :=
  t.primaryKeys.length + t.uniqueKeys.length + t.foreignKeys.length + t.checks.length

/-- The number of indexes of both kinds. -/
def Table.indexCount (t : Table) : Nat := t.uniqueIndexes.length + t.normalIndexes.length

/-- The tables of one schema. -/
structure Snapshot where
  schema : String
  /-- What the target server says about its version. -/
  targetVersion : String
  tables : List Table := []
  deriving DecidableEq, Repr

end CatalogDdl
