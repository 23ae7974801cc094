/-!
# Quotation marks

The three marks that quote something in a statement, and the rule by which a mark that occurs inside
a quotation is told from the one that ends it: inside it is written twice.
-/

namespace CatalogDdl.Ddl

/-- The backtick, which quotes identifiers. -/
def backtick : Char := '\x60'

/-- The single quote, which quotes strings. -/
def apostrophe : Char := '\x27'

/-- The double quote, which quotes strings, and names in source expressions. -/
def doubleQuote : Char := '\x22'

/-- A text with every occurrence of a mark written twice. -/
def doubled (mark : Char) (cs : List Char) : List Char :=
  cs.flatMap fun c => if c = mark then [mark, mark] else [c]

/-- A text between backticks. -/
def quoteChars (cs : List Char) : List Char := backtick :: (doubled backtick cs ++ [backtick])

end CatalogDdl.Ddl
