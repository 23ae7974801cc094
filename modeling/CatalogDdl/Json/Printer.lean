import CatalogDdl.Json.Basic
import CatalogDdl.Text.Quoted

/-!
# Writing JSON

`Json.compact` writes a value without blanks, the members of an object in the order they have. What
it writes reads back as the same value, except that a string without a text is written as null.
-/

namespace CatalogDdl

namespace Json

/-- How a character is written in a string literal. -/
def literalChar (c : Char) : List Char :=
  if c = '\x22' then ['\\', '\x22']
  else if c = '\\' then ['\\', '\\']
  else if c = '\n' then ['\\', 'n']
  else if c = '\r' then ['\\', 'r']
  else if c = '\t' then ['\\', 't']
  else if c = '\x08' then ['\\', 'b']
  else if c = '\x0c' then ['\\', 'f']
  else if c.toNat < 0x20 then
    ['\\', 'u', '0', '0', Text.hexDigit (c.toNat / 16), Text.hexDigit (c.toNat % 16)]
  else [c]

/-- The string literal of a text. -/
def literal (s : String) : String :=
  String.ofList ('\x22' :: (s.toList.flatMap literalChar ++ ['\x22']))

/-- What stands for a string: its literal, or null for one without a text. -/
def stringText : Option String → String
  | some s => literal s
  | none => "null"

mutual

/-- A value without blanks. -/
def compact : Json → String
  | .null => "null"
  | .bool b => if b then "true" else "false"
  | .integer i => toString i
  | .real s => s
  | .string s => stringText s
  | .array items => "[" ++ Text.joinWith "," (compactItems items) ++ "]"
  | .object members => "\x7b" ++ Text.joinWith "," (compactMembers members) ++ "\x7d"

/-- The items of an array. -/
def compactItems : List Json → List String
  | [] => []
  | j :: rest => compact j :: compactItems rest

/-- The members of an object. -/
def compactMembers : List (Option String × Json) → List String
  | [] => []
  | (name, j) :: rest => (stringText name ++ ":" ++ compact j) :: compactMembers rest

end

end Json

end CatalogDdl
