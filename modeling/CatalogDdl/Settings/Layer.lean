import CatalogDdl.Toml.Basic
import CatalogDdl.Text.Words

/-!
# Layers of settings

Settings may come from several sources, of which a later one wins over an earlier one. A source gives
values to keys. A key names an entry, or an entry inside an entry: names with a dot between them go
down into tables, and a number in brackets, with or without blanks around it, counts the items of an
array, from its end if it is negative. A text that is no such key names an entry as it stands.

A table given for an entry is merged into a table that is already there, entry by entry; any other
value takes the place of what is there.

- `Toml.overlay`: a value given where another one may be.
- `Selector.ofText?`: the steps of a key.
- `Layer`: the keys of a source with their values.
- `Layer.onto`: entries after a source.
-/

namespace CatalogDdl

namespace Toml

/-- Entries after a change of the one of a name, which may be missing. -/
def putEntry (name : String) (change : Option Toml → Toml) : Entries → Entries
  | [] => [(name, change none)]
  | (n, v) :: rest =>
    if n = name then (n, change (some v)) :: rest else (n, v) :: putEntry name change rest

/-- The entries of what may be a table; none otherwise. -/
def entriesOf (v : Option Toml) : Entries := (v.bind entries?).getD []

/-- The items of what may be an array; none otherwise. -/
def itemsOf : Option Toml → List Toml
  | some (.array _ items) => items
  | _ => []

mutual

/-- A value given where another one may be. -/
def overlay : Toml → Option Toml → Toml
  | .table _ entries, old => .table .explicit (overlayEntries entries (entriesOf old))
  | v, _ => v

/-- Entries given where others are. -/
def overlayEntries : Entries → Entries → Entries
  | [], old => old
  | (name, v) :: rest, old => overlayEntries rest (putEntry name (overlay v) old)

end

end Toml

/-- A step of a key. -/
inductive KeyStep where
  | name (s : String)
  | index (i : Int)
  deriving DecidableEq, Repr

/-- The steps of a key. -/
abbrev Selector := List KeyStep

namespace Selector

/-- Whether a character may stand in a name of a key. -/
def isNameChar (c : Char) : Bool := c.isAlphanum || c = '_' || c = '-'

/-- A text without the spaces and tabs at its ends. -/
def trimGaps (cs : List Char) : List Char :=
  let front (cs : List Char) := cs.dropWhile fun c => c = ' ' || c = '\t'
  (front (front cs).reverse).reverse

/-- The number that digits write, with a minus sign if it is negative. -/
def position? (cs : List Char) : Option Int :=
  if cs.head? = some '+' then none else (Text.readInteger? cs).filter Text.fitsInt64

/-- The number before a closing bracket. -/
def index? (cs : List Char) : Option KeyStep :=
  if cs.getLast? = some ']' then (position? (trimGaps cs.dropLast)).map .index else none

/-- The steps of a name and the numbers in brackets after it. -/
def ofPiece? (cs : List Char) : Option Selector :=
  let name := cs.takeWhile isNameChar
  let rest := cs.dropWhile isNameChar
  if name.isEmpty || (!rest.isEmpty && rest.head? != some '[') then none
  else
    ((Text.splitAt '[' rest).tail.mapM index?).map fun steps => .name (String.ofList name) :: steps

/-- The steps of a key. -/
def ofText? (s : String) : Option Selector :=
  ((Text.splitAt '.' s.toList).mapM ofPiece?).map List.flatten

/-- Items with one changed, where `i` counts from the end if it is negative. Missing items are empty
tables. -/
def putItem (i : Int) (change : Option Toml → Toml) (items : List Toml) : List Toml :=
  let missing (n : Nat) : List Toml := List.replicate n (.table .explicit [])
  if 0 ≤ i then
    let n := i.toNat
    let filled := items ++ missing (n + 1 - items.length)
    filled.modify n fun v => change (some v)
  else
    let n := (-i).toNat
    if n ≤ items.length then items.modify (items.length - n) fun v => change (some v)
    else
      let filled := missing (n - items.length) ++ items
      filled.modify 0 fun v => change (some v)

/-- A value after a change of what a key leads to. What stands in the way of a step is replaced. -/
def put : Selector → (Option Toml → Toml) → Option Toml → Toml
  | [], change => change
  | .name s :: rest, change => fun old =>
    .table .explicit (Toml.putEntry s (put rest change) (Toml.entriesOf old))
  | .index i :: rest, change => fun old => .array false (putItem i (put rest change) (Toml.itemsOf old))

end Selector

/-- The keys of a source with their values. -/
abbrev Layer := List (String × Toml)

/-- Entries after one key of a source. -/
def putKey (base : Toml.Entries) (key : String) (v : Toml) : Toml.Entries :=
  let steps := (Selector.ofText? key).getD [.name key]
  Toml.entriesOf (some (steps.put v.overlay (some (.table .explicit base))))

/-- Entries after a source. -/
def Layer.onto (l : Layer) (base : Toml.Entries) : Toml.Entries :=
  l.foldl (fun es k => putKey es k.1 k.2) base

end CatalogDdl
