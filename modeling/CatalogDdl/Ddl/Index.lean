import CatalogDdl.Ddl.Constraint
import CatalogDdl.Ddl.Warning

/-!
# Indexes

A normal index is carried over as it is. The statements of function-based and bitmap indexes have to
be reviewed, and each comes with a warning. An index of another kind, one that indexes nothing, and
one that the look for the other uniqueness found make the whole table fail.

- `renderExpression`: an indexed expression in lower case, its double-quoted names between backticks.
- `IndexStatement`: the statement of an index, with a warning if it has to be reviewed.
- `Index.statement`: the statement of an index, or what is wrong with it.
-/

namespace CatalogDdl

namespace Ddl

/-- A text with its double-quoted names between backticks. `name` holds the characters of the name
that the text starts in, last one first. A double quote without a partner stays. -/
def requote (name : Option (List Char)) : List Char → List Char
  | [] =>
    match name with
    | none => []
    | some inner => doubleQuote :: inner.reverse
  | c :: cs =>
    match name with
    | none => if c = doubleQuote then requote (some []) cs else c :: requote none cs
    | some inner =>
      if c = doubleQuote then quoteChars inner.reverse ++ requote none cs
      else requote (some (c :: inner)) cs

/-- An indexed expression in lower case, its double-quoted names between backticks. -/
def renderExpression (s : String) : String :=
  String.ofList (requote none (Text.lowerChars s.toList))

/-- A position of an index: an expression in parentheses or a plain column. -/
def renderKeyPart : KeyPart → String
  | .expression e => "(" ++ renderExpression e ++ ")"
  | .column c => quoteName c

/-- The word that makes an index unique. -/
def uniqueWord : Uniqueness → String
  | .unique => "UNIQUE "
  | .nonunique => ""

/-- The statement of an index. -/
inductive IndexStatement where
  | portable (statement : String)
  /-- A statement that has to be reviewed. -/
  | review (statement : String) (warning : Warning)
  deriving DecidableEq, Repr

/-- The statement that can be applied as it is. -/
def IndexStatement.portable? : IndexStatement → Option String
  | .portable s => some s
  | .review _ _ => none

/-- The statement that has to be reviewed. -/
def IndexStatement.review? : IndexStatement → Option String
  | .portable _ => none
  | .review s _ => some s

/-- The warning. -/
def IndexStatement.warning? : IndexStatement → Option Warning
  | .portable _ => none
  | .review _ w => some w

/-- The statement that creates an index with given words before INDEX and given positions. -/
def createIndex (words : String) (i : Index) (t : TargetTable) (positions : String) : String :=
  "CREATE " ++ words ++ "INDEX " ++ quoteName i.name ++ " ON " ++ t.quoted ++ "(" ++ positions ++ ")"

end Ddl

open Ddl

/-- The statement of an index of a source table that the look for a given uniqueness found. -/
def Index.statement (i : Index) (sourceTable : String) (t : TargetTable) (expected : Uniqueness) :
    Except Fault IndexStatement :=
  if i.uniqueness ≠ expected then
    .error (.uniquenessMismatch sourceTable i.name expected i.uniqueness)
  else if i.keyParts.isEmpty then .error (.emptyIndex sourceTable i.name)
  else
    match i.kind with
    | .normal => .ok (.portable (createIndex (uniqueWord expected) i t (quoteNames i.columns)))
    | .functionBased =>
      .ok (.review
        (createIndex (uniqueWord expected) i t (Text.joinWith "," (i.keyParts.map renderKeyPart)))
        ⟨.functionBasedIndex, i.name, "expressions: " ++ Text.joinWith ", " i.keyTexts⟩)
    | .bitmap =>
      .ok (.review (createIndex (uniqueWord expected ++ "BITMAP ") i t (quoteNames i.columns))
        ⟨.bitmapIndex, i.name, "columns: " ++ Text.joinWith ", " i.columns⟩)
    | .other kind =>
      .error (.unsupportedIndex sourceTable i.name kind (Text.joinWith "," i.keyTexts))

end CatalogDdl
