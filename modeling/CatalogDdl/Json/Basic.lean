import CatalogDdl.Text.Words

/-!
# JSON values

The format of catalog snapshots. A value keeps the order and the repetition of the members of an
object, because a repeated member is an error in one place and harmless in another, and it keeps
the difference between integers and other numbers.

A string literal may name half of a surrogate pair, which is no character. Such a literal is
grammatical, so a value holds it as `none`; whoever wants the text refuses it.
-/

namespace CatalogDdl

/-- A JSON value. -/
inductive Json where
  | null
  | bool (b : Bool)
  /-- A number written without fraction and exponent, negative zero apart. -/
  | integer (i : Int)
  /-- Any other number, as it is written. -/
  | real (literal : String)
  /-- A string; `none` if its literal names half of a surrogate pair. -/
  | string (text : Option String)
  | array (items : List Json)
  | object (members : List (Option String × Json))
  deriving Repr, Inhabited

namespace Json

/-- The string with a given text. -/
def text (s : String) : Json := .string (some s)

/-- An array of strings. -/
def texts (ss : List String) : Json := .array (ss.map text)

/-- The object with given members. -/
def ofFields (fields : List (String × Json)) : Json := .object (fields.map fun f => (some f.1, f.2))

/-- The number that counts something. -/
def count (n : Nat) : Json := .integer n

/-- A value or null. -/
def ofOption (f : α → Json) : Option α → Json
  | none => .null
  | some a => f a

end Json

end CatalogDdl
