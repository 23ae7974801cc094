import CatalogDdl.Text.Case
import CatalogDdl.Text.Words

/-!
# Type names

The same source type is spelled in many ways: `number( 10 , 2 )` is `NUMBER(10,2)`. Names are compared
in a normal form.

- `TypeName.normalize`: upper case, single spaces between words, no space around the parentheses and
  commas of a parameter list.
- `TypeName.canonical`: the name that two short spellings stand for.
-/

namespace CatalogDdl

namespace TypeName

/-- A text without the spaces that stand directly before a given character. -/
def dropSpaceBefore (mark : Char) : List Char → List Char
  | [] => []
  | c :: cs =>
    if c = ' ' && cs.head? == some mark then dropSpaceBefore mark cs
    else c :: dropSpaceBefore mark cs

/-- A text without the space that stands directly after a given character. -/
def dropSpaceAfter (mark : Char) : List Char → List Char
  | [] => []
  | [c] => [c]
  | c :: d :: cs =>
    if c = mark && d = ' ' then c :: dropSpaceAfter mark cs
    else c :: dropSpaceAfter mark (d :: cs)

/-- A name without the spaces around parentheses and commas. -/
def tightenMarks (cs : List Char) : List Char :=
  dropSpaceAfter ',' (dropSpaceBefore ',' (dropSpaceBefore ')' (dropSpaceAfter '('
    (dropSpaceBefore '(' cs))))

/-- The normal form of a name. -/
def normalizeChars (cs : List Char) : List Char :=
  tightenMarks (Text.upperChars (Text.joinCharsWith [' '] (Text.words cs)))

/-- The normal form of a name. -/
def normalize (s : String) : String := String.ofList (normalizeChars s.toList)

/-- The name that a short spelling stands for. -/
def canonical (name : String) : String :=
  if name = "INT" then "INTEGER" else if name = "DEC" then "DECIMAL" else name

end TypeName

end CatalogDdl
