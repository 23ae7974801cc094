import CatalogDdl.Number.Binary64

/-!
# Settings documents

The values of a TOML document. A table remembers how it came about, because that decides whether a
later line of the document may add to it.

- `Toml`: the values.
- `Toml.DottedKeys`: the one point in which two readings of a document may differ.
- `Toml.assign`, `Toml.openTable`, `Toml.openElement`: what the three kinds of lines do to the
  entries of a document. There is no such change for a line that gives a key a second time or adds to
  what is closed, and the document is refused.
-/

namespace CatalogDdl

/-- How a table came about. -/
inductive TableForm where
  /-- By its own header, or as the whole document. -/
  | explicit
  /-- By a header of a table in it. -/
  | implied
  /-- By a dotted key. -/
  | dotted
  /-- As a value between braces; nothing is added to it later. -/
  | inline
  deriving DecidableEq, Repr

/-- A value. -/
inductive Toml where
  | text (s : String)
  | integer (i : Int)
  | float (x : Binary64)
  | bool (b : Bool)
  /-- A date, a time or both, in normal form. -/
  | datetime (s : String)
  /-- An array; `byHeaders` if its items are tables with a header each. -/
  | array (byHeaders : Bool) (items : List Toml)
  | table (form : TableForm) (entries : List (String × Toml))
  deriving Repr, Inhabited

namespace Toml

/-- The entries of a table. -/
abbrev Entries := List (String × Toml)

/-- Entries with the one of a name changed or added. -/
def changeEntry (name : String) (change : Option Toml → Option Toml) : Entries → Option Entries
  | [] => (change none).map fun v => [(name, v)]
  | (n, v) :: rest =>
    if n = name then (change (some v)).map fun w => (n, w) :: rest
    else (changeEntry name change rest).map fun es => (n, v) :: es

/-- A change of a table. -/
abbrev Change := TableForm → Entries → Option Toml

/-- What a dotted key does to a table that headers imply. -/
inductive DottedKeys where
  /-- It may pass through the table but adds no entry to it. -/
  | passing
  /-- It turns the table into one that came about by dotted keys. -/
  | claiming
  deriving DecidableEq, Repr

/-- How a line leads to the table that it changes. -/
inductive Approach where
  | header
  | dottedKey (keys : DottedKeys)
  deriving DecidableEq, Repr

/-- How a table comes about that a line leads through first. -/
def Approach.newForm : Approach → TableForm
  | .header => .implied
  | .dottedKey _ => .dotted

/-- How a table came about once a line has led through it. Nothing leads through a table between
braces, and a dotted key does not lead through a table with a header. -/
def Approach.through? : Approach → TableForm → Option TableForm
  | _, .inline => none
  | .header, form => some form
  | .dottedKey _, .explicit => none
  | .dottedKey .claiming, .implied => some .dotted
  | .dottedKey _, form => some form

/-- A change of the table that an entry holds. An array of tables stands for its last item, and a
missing entry for a new table. -/
def changeWithin (a : Approach) (change : Change) : Option Toml → Option Toml
  | none => change a.newForm []
  | some (.table form entries) => (a.through? form).bind fun form => change form entries
  | some (.array true items) =>
    match items.getLast? with
    | some (.table form entries) =>
      (change form entries).map fun v => .array true (items.dropLast ++ [v])
    | _ => none
  | _ => none

/-- A change of the table that a path leads to. -/
def changeAt (a : Approach) : List String → Change → Change
  | [], change => change
  | name :: rest, change => fun form entries =>
    (changeEntry name (changeWithin a (changeAt a rest change)) entries).map (.table form)

/-- The change that adds an entry of a new name. -/
def addEntry (name : String) (v : Toml) : Change := fun form entries =>
  (changeEntry name (fun old => if old.isNone then some v else none) entries).map (.table form)

/-- The change by a key with a value. All but the last name of a dotted key lead to a table that came
about by dotted keys. -/
def assign (keys : DottedKeys) (path : List String) (name : String) (v : Toml) : Change :=
  changeAt (.dottedKey keys) path fun form entries =>
    if (form == .dotted) == path.isEmpty then none else addEntry name v form entries

/-- The change by the header of a table, which may have been implied before. -/
def openTable (path : List String) (name : String) : Change :=
  changeAt .header path fun form entries =>
    (changeEntry name
      (fun
        | none => some (.table .explicit [])
        | some (.table .implied inner) => some (.table .explicit inner)
        | some _ => none)
      entries).map (.table form)

/-- The change by the header of an item of an array of tables. -/
def openElement (path : List String) (name : String) : Change :=
  changeAt .header path fun form entries =>
    (changeEntry name
      (fun
        | none => some (.array true [.table .explicit []])
        | some (.array true items) => some (.array true (items ++ [.table .explicit []]))
        | some _ => none)
      entries).map (.table form)

/-- The change by a key with a value below the last header. -/
def assignBelow (keys : DottedKeys) (header path : List String) (name : String) (v : Toml) : Change :=
  changeAt .header header (assign keys path name v)

/-- The entries of a table. -/
def entries? : Toml → Option Entries
  | .table _ entries => some entries
  | _ => none

end Toml

end CatalogDdl
