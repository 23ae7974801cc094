import CatalogDdl.Catalog.Basic
import CatalogDdl.Ddl.Identifier

/-!
# Column clauses and comments

A column clause has the name, the type, and where they apply the exclusion of null, the default and
the comment. A comment is a string literal in which double quotes have become single ones. The
literal stands between single quotes, unless two single quotes in one line of it would close it
early; then it stands between double quotes.

- `quoteComment`: the string literal of a comment.
- `Column.clause`: the clause of a column with a given target type.
-/

namespace CatalogDdl

namespace Ddl

/-- A text with its double quotes turned into single ones. -/
def straighten (cs : List Char) : List Char :=
  cs.map fun c => if c = doubleQuote then apostrophe else c

/-- Whether the first line of a text holds a single quote. -/
def closesInLine : List Char → Bool
  | [] => false
  | c :: cs => c == apostrophe || (c != '\n' && closesInLine cs)

/-- Whether somewhere a single quote is followed by another one in the same line. -/
def hasQuotedRun : List Char → Bool
  | [] => false
  | c :: cs => (c == apostrophe && closesInLine cs) || hasQuotedRun cs

/-- The string literal of a comment. -/
def quoteCommentChars (cs : List Char) : List Char :=
  let body := straighten cs
  let mark := if hasQuotedRun body then doubleQuote else apostrophe
  mark :: (body ++ [mark])

/-- The string literal of a comment. -/
def quoteComment (s : String) : String := String.ofList (quoteCommentChars s.toList)

end Ddl

namespace Column

/-- The exclusion of null. -/
def nullClause (c : Column) : String := if c.acceptsNull then "" else " NOT NULL"

/-- The default value. -/
def defaultClause (c : Column) : String :=
  if Text.isBlankText c.defaultText then "" else " DEFAULT " ++ Text.trim c.defaultText

/-- The comment. -/
def commentClause (c : Column) : String :=
  if c.comment.isEmpty then "" else " COMMENT " ++ Ddl.quoteComment c.comment

/-- The clause of a column in the body of CREATE TABLE. -/
def clause (c : Column) (target : String) : String :=
  Ddl.quoteName c.name ++ " " ++ Text.lower (Text.trim target) ++ c.nullClause ++ c.defaultClause
    ++ c.commentClause

end Column

end CatalogDdl
