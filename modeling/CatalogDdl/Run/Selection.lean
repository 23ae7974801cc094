import CatalogDdl.Text.Blank
import CatalogDdl.Text.Case
import CatalogDdl.Text.Words

/-!
# Which tables are taken

Two texts select tables: a list of those to take and a list of those to leave out, both separated by
commas. Entries are trimmed, and they are compared with table names in upper case.

- `listEntries`: the entries of a list.
- `takesAll`: whether a list takes every table.
- `selectTables`: the selected tables, in the given order.
-/

namespace CatalogDdl

/-- The entries of a list, trimmed and in upper case. -/
def listEntries (list : String) : List String :=
  (Text.split ',' list).map fun piece => Text.upper (Text.trim piece)

/-- Whether a list takes every table: it is blank or a lone star. -/
def takesAll (list : String) : Bool := Text.trim list == "*" || (Text.trim list).isEmpty

/-- Whether a table is among those to take. -/
def isIncluded (list table : String) : Bool :=
  takesAll list || (listEntries list).contains (Text.upper table)

/-- Whether a table is among those to leave out. A blank entry leaves out nothing. -/
def isExcluded (list table : String) : Bool :=
  ((listEntries list).filter fun e => !e.isEmpty).contains (Text.upper table)

/-- The tables that two lists select. -/
def selectTables (included excluded : String) (tables : List String) : List String :=
  tables.filter fun t => isIncluded included t && !isExcluded excluded t

end CatalogDdl
