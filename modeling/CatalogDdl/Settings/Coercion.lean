import CatalogDdl.Number.Shortest
import CatalogDdl.Text.Case
import CatalogDdl.Toml.Basic

/-!
# What a value may stand for

A setting is a text, a truth value or a number, and so is the value given for it. Where settings come
from one document the two kinds must agree; where a value may come from the environment, which knows
nothing but texts, a value of one kind stands for one of another.

- `Coercion`: what values stand for.
- `Coercion.strict`: a value stands for itself.
- `Coercion.lenient`: a value stands for what its written form means.
-/

namespace CatalogDdl

/-- What values stand for. -/
structure Coercion where
  text? : Toml → Option String
  bool? : Toml → Option Bool
  /-- The natural number of 64 bits that a value stands for. -/
  number? : Toml → Option Nat

namespace Coercion

/-- A natural number of 64 bits. -/
def natural? (i : Int) : Option Nat := if 0 ≤ i && i.toNat < Text.bound64 then some i.toNat else none

/-- Every value stands for itself. -/
def strict : Coercion where
  text?
    | .text s => some s
    | _ => none
  bool?
    | .bool b => some b
    | _ => none
  number?
    | .integer i => natural? i
    | _ => none

/-- The truth value that a word stands for. -/
def wordBool? (s : String) : Option Bool :=
  let word := Text.lower s
  if ["1", "true", "on", "yes"].contains word then some true
  else if ["0", "false", "off", "no"].contains word then some false
  else none

/-- The number that a word stands for. -/
def wordNumber? (s : String) : Option Nat :=
  let word := Text.lower s
  if ["true", "on", "yes"].contains word then some 1
  else if ["false", "off", "no"].contains word then some 0
  else Text.readNat64? word

/-- Numbers and truth values stand for their written form and the other way round; a number is true
unless it is zero, and a float stands for the nearest natural number. -/
def lenient : Coercion where
  text?
    | .text s => some s
    | .datetime s => some s
    | .bool b => some (if b then "true" else "false")
    | .integer i => some (toString i)
    | .float x => some x.text
    | _ => none
  bool?
    | .text s => wordBool? s
    | .datetime s => wordBool? s
    | .bool b => some b
    | .integer i => some (i != 0)
    | .float x => some x.isNonzero
    | _ => none
  number?
    | .text s => wordNumber? s
    | .datetime s => wordNumber? s
    | .bool b => some (if b then 1 else 0)
    | .integer i => natural? i
    | .float x => some x.toNat64
    | _ => none

end Coercion

end CatalogDdl
