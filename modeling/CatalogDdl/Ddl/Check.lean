import CatalogDdl.Text.Case
import CatalogDdl.Text.Words

/-!
# What remains of a check predicate

That a column is not null is said in its clause, so the parts of a check that say it again are taken
out. The predicate is treated as text: its words are cut into segments before each AND and OR, a
segment that contains IS NOT NULL is left out with the operator in front of it, and an operator that
is then first or last is dropped. Nothing is left of a check that says no more than that.

- `joinsClauses`: whether an AND or OR stands between blanks. A predicate without one is a single
  clause and keeps its spacing.
- `isNotNullClause`: whether a clause contains IS NOT NULL in its first line, in any case.
- `segments`: the words of a predicate cut before each operator.
- `residue?`: what remains.
-/

namespace CatalogDdl.Ddl

/-- A word of a predicate. -/
abbrev Word := List Char

/-- The operators between clauses, in lower case. -/
def operators : List Word := [['a', 'n', 'd'], ['o', 'r']]

/-- Whether a word is AND or OR. -/
def isOperator (w : Word) : Bool := operators.contains (Text.lowerAscii w)

/-- Whether a text starts with an operator and a blank. -/
def startsWithOperator (cs : List Char) : Bool :=
  operators.any fun op =>
    Text.lowerAscii (cs.take op.length) == op && (cs.drop op.length).head?.any Text.isBlank

/-- Whether an operator stands between blanks. -/
def joinsClauses : List Char → Bool
  | [] => false
  | c :: cs => (Text.isBlank c && startsWithOperator cs) || joinsClauses cs

/-- The characters of IS NOT NULL, in lower case. -/
def notNullTest : List Char := ['i', 's', ' ', 'n', 'o', 't', ' ', 'n', 'u', 'l', 'l']

/-- A character without its case, as far as the letters of IS NOT NULL are concerned: the long s is
an s. -/
def foldChar (c : Char) : Char := if c = 'ſ' then 's' else c.toLower

/-- Whether a clause contains IS NOT NULL in its first line. -/
def isNotNullClause (cs : List Char) : Bool :=
  Text.containsChars notNullTest ((cs.takeWhile (· != '\n')).map foldChar)

/-- Words cut before each operator. The first segment is empty if an operator comes first. -/
def segments : List Word → List (List Word)
  | [] => [[]]
  | w :: ws =>
    match segments ws with
    | [] => [[w]]
    | s :: ss => if isOperator w then [] :: (w :: s) :: ss else (w :: s) :: ss

/-- Whether a segment stays. -/
def keeps (s : List Word) : Bool := !isNotNullClause (Text.joinCharsWith [' '] s)

/-- Words without an operator at the front. -/
def dropLeadingOperator : List Word → List Word
  | [] => []
  | w :: ws => if isOperator w then ws else w :: ws

/-- Words without an operator at the end. -/
def dropTrailingOperator (ws : List Word) : List Word :=
  if ws.getLast?.any isOperator then ws.dropLast else ws

/-- The words that remain of the words of a predicate. -/
def residueWords (ws : List Word) : List Word :=
  dropTrailingOperator (dropLeadingOperator ((segments ws).filter keeps).flatten)

/-- What remains of a predicate. -/
def residueChars? (cs : List Char) : Option (List Char) :=
  let p := Text.trimChars cs
  if joinsClauses p then
    match residueWords (Text.words p) with
    | [] => none
    | ws => some (Text.joinCharsWith [' '] ws)
  else if p.isEmpty || isNotNullClause p then none
  else some p

/-- What remains of a predicate. -/
def residue? (s : String) : Option String := (residueChars? s.toList).map String.ofList

end CatalogDdl.Ddl
