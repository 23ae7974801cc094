import CatalogDdl.Json.Basic

/-!
# Records in JSON

A record with fields in a declared order is written as an object, where members of other names are
passed over, or as an array of its fields in order, where the last ones may be left out. Writing a
field twice is an error.

- `Json.record?`: the fields that are there.
- `Fields.required`, `Fields.optional`: one of them, read by a given reader; an optional field has a
  value to fall back on when it is not there.
- `toText?`, `toTexts?`, `toList?`, `toBool?`, `toOption?`: readers of plain values.
- `lastMembers`: a value as a map reads it, where the last member of a name wins.
-/

namespace CatalogDdl

namespace Json

/-- Fields by name. -/
abbrev Fields := List (String × Json)

/-- The members of an object whose names are among `names`; `none` if a name has no text. -/
def knownMembers? (names : List String) : List (Option String × Json) → Option Fields
  | [] => some []
  | (none, _) :: _ => none
  | (some name, value) :: rest =>
    (knownMembers? names rest).map fun fs => if names.contains name then (name, value) :: fs else fs

/-- Whether no field is written twice. -/
def Fields.distinct : Fields → Bool
  | [] => true
  | f :: rest => !(rest.any fun g => g.1 == f.1) && distinct rest

/-- The fields that a record has, from an object or an array. -/
def record? (names : List String) : Json → Option Fields
  | .object members => (knownMembers? names members).filter Fields.distinct
  | .array items => if items.length ≤ names.length then some (names.zip items) else none
  | _ => none

/-- A field that must be there. -/
def Fields.required (fs : Fields) (name : String) (read : Json → Option α) : Option α :=
  (fs.lookup name).bind read

/-- A field that may be left out. -/
def Fields.optional (fs : Fields) (name : String) (fallback : α) (read : Json → Option α) :
    Option α :=
  match fs.lookup name with
  | none => some fallback
  | some value => read value

/-- The text of a string. -/
def toText? : Json → Option String
  | .string s => s
  | _ => none

/-- The items of an array, each read by `read`. -/
def toList? (read : Json → Option α) : Json → Option (List α)
  | .array items => items.mapM read
  | _ => none

/-- The texts of an array of strings. -/
def toTexts? : Json → Option (List String) := toList? toText?

/-- A truth value. -/
def toBool? : Json → Option Bool
  | .bool b => some b
  | _ => none

/-- A value, or null for none. -/
def toOption? (read : Json → Option α) : Json → Option (Option α)
  | .null => some none
  | j => (read j).map some

mutual

/-- A value as a map reads it: of the members of one name only the last one counts. -/
def lastMembers : Json → Json
  | .array items => .array (lastMembersOfItems items)
  | .object members => .object (lastMembersOfFields members)
  | j => j

/-- The items of an array, each as a map reads it. -/
def lastMembersOfItems : List Json → List Json
  | [] => []
  | j :: rest => lastMembers j :: lastMembersOfItems rest

/-- The members of an object of which none follows with the same name. -/
def lastMembersOfFields : List (Option String × Json) → List (Option String × Json)
  | [] => []
  | (name, j) :: rest =>
    if rest.any fun m => m.1 == name then lastMembersOfFields rest
    else (name, lastMembers j) :: lastMembersOfFields rest

end

end Json

end CatalogDdl
