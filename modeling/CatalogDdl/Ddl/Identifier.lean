import CatalogDdl.Ddl.Quote
import CatalogDdl.Text.Blank
import CatalogDdl.Text.Case
import CatalogDdl.Text.Words

/-!
# Identifiers

Every name in a generated statement is trimmed, in lower case and between backticks. A backtick
inside a name is written twice, so that the next single backtick ends the name whatever it holds.

- `quoteName`, `quoteTable`, `quoteNames`: one name, a table with its schema, a list of names.
- `displayTable`: a table with its schema as banners and log lines show it.
-/

namespace CatalogDdl.Ddl

/-- The form in which a name is written: trimmed and in lower case. -/
def foldName (s : String) : String := Text.lower (Text.trim s)

/-- A name as an identifier. -/
def quoteName (s : String) : String := String.ofList (quoteChars (foldName s).toList)

/-- A table with its schema. -/
def quoteTable (schema table : String) : String := quoteName schema ++ "." ++ quoteName table

/-- A list of names. -/
def quoteNames (names : List String) : String := Text.joinWith "," (names.map quoteName)

/-- A table with its schema, unquoted. -/
def displayTable (schema table : String) : String := schema ++ "." ++ table

end CatalogDdl.Ddl
