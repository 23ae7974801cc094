/-!
# Reading integers

Numbers stand in the catalog as texts. `readInteger?` takes an optional sign and decimal digits,
nothing else, and refuses what does not fit the given bounds; `readInt64?` and `readNat64?` are its
two uses.
-/

namespace CatalogDdl.Text

/-- The value of a decimal digit. -/
def digit? (c : Char) : Option Nat :=
  if 48 ≤ c.toNat && c.toNat ≤ 57 then some (c.toNat - 48) else none

/-- The number that decimal digits write after `acc`. -/
def readDigits? (acc : Nat) : List Char → Option Nat
  | [] => some acc
  | c :: cs => (digit? c).bind fun d => readDigits? (10 * acc + d) cs

/-- The number that one or more decimal digits write. -/
def readNat? : List Char → Option Nat
  | [] => none
  | c :: cs => readDigits? 0 (c :: cs)

/-- The integer that an optional sign and decimal digits write. -/
def readInteger? : List Char → Option Int
  | '-' :: cs => (readNat? cs).map fun n => -(n : Int)
  | '+' :: cs => (readNat? cs).map fun n => (n : Int)
  | cs => (readNat? cs).map fun n => (n : Int)

/-- The first integer that has no signed representation in 64 bits. -/
def signedBound64 : Int := 9223372036854775808

/-- The first natural number that has no representation in 64 bits. -/
def bound64 : Nat := 18446744073709551616

/-- Whether an integer has a signed representation in 64 bits. -/
def fitsInt64 (i : Int) : Bool := -signedBound64 ≤ i && i < signedBound64

/-- The integer that a text writes, if it fits 64 bits with a sign. -/
def readInt64? (s : String) : Option Int := (readInteger? s.toList).filter fitsInt64

/-- The number that a text writes with an optional plus sign, if it fits 64 bits. -/
def readNat64? (s : String) : Option Nat :=
  (match s.toList with
    | '+' :: cs => readNat? cs
    | cs => readNat? cs).filter fun n => n < bound64

end CatalogDdl.Text
