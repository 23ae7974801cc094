import CatalogDdl.Text.Case
import CatalogDdl.Text.Numeral

/-!
# Binary floating point with 64 bits

A setting may be written as a real number, which stands for the nearest binary number of 53 bits
and bounded exponent. Here such numbers are pairs of a mantissa and an exponent, and all arithmetic
on them is exact arithmetic on natural numbers.

- `Binary64`: the numbers, with the two infinities and the value that is no number.
- `Binary64.ofRatio`, `Binary64.ofDecimal`: the number nearest to a ratio and to a decimal; of two
  nearest ones the one with the even mantissa.
- `Binary64.read?`: the number that a text writes.
- `Binary64.toNat64`: the nearest natural number, a half going up, cut to 64 bits.
-/

namespace CatalogDdl

/-- A binary floating point number. A finite one is `mantissa * 2 ^ exponent`, with a sign. -/
inductive Binary64 where
  /-- No number. -/
  | nan
  /-- One of the infinities. -/
  | infinite (negative : Bool)
  /-- A finite number. -/
  | finite (negative : Bool) (mantissa : Nat) (exponent : Int)
  deriving DecidableEq, Repr

namespace Binary64

/-- The least exponent. -/
def leastExponent : Int := -1074

/-- The greatest exponent. -/
def greatestExponent : Int := 971

/-- The least mantissa of a number that is not too small for its full precision. -/
def leastFullMantissa : Nat := 4503599627370496

/-- `n * 2 ^ e` as a natural number, for the positive part of `e`. -/
def scaleUp (n : Nat) (e : Int) : Nat := n <<< e.toNat

/-- `n * 10 ^ e` as a natural number, for the positive part of `e`. -/
def scaleUpTen (n : Nat) (e : Int) : Nat := n * Nat.pow 10 e.toNat

/-- The quotient of two natural numbers, rounded to the nearest one and on a tie to the even one. -/
def divideToEven (n d : Nat) : Nat :=
  let q := n / d
  let r := n % d
  if d < 2 * r || (2 * r == d && q % 2 == 1) then q + 1 else q

/-- The number nearest to `num / den`. -/
def ofRatio (negative : Bool) (num den : Nat) : Binary64 :=
  if num = 0 || den = 0 then .finite negative 0 leastExponent
  else
    let guess : Int := (Nat.log2 num : Int) - Nat.log2 den - 52
    let small := scaleUp num (-guess) < leastFullMantissa * scaleUp den guess
    let e := max leastExponent (if small then guess - 1 else guess)
    let m := divideToEven (scaleUp num (-e)) (scaleUp den e)
    let (m, e) := if m = 2 * leastFullMantissa then (leastFullMantissa, e + 1) else (m, e)
    if greatestExponent < e then .infinite negative else .finite negative m e

/-- The number nearest to `digits * 10 ^ exponent`. Far outside the range of exponents the answer is
known without the power. -/
def ofDecimal (negative : Bool) (digits : Nat) (exponent : Int) : Binary64 :=
  let magnitude := ((toString digits).length : Int) + exponent
  if digits = 0 || magnitude < -330 then .finite negative 0 leastExponent
  else if 320 < magnitude then .infinite negative
  else ofRatio negative (scaleUpTen digits exponent) (scaleUpTen 1 (-exponent))

/-- Whether a character is a decimal digit. -/
def isDigit (c : Char) : Bool := (Text.digit? c).isSome

/-- The exponent that may follow the digits of a real number. -/
def readExponent? : List Char → Option Int
  | [] => some 0
  | c :: cs => if c = 'e' || c = 'E' then Text.readInteger? cs else none

/-- The digits of a real number: a point may stand among them or at one end. -/
def readDecimal? (negative : Bool) (cs : List Char) : Option Binary64 :=
  let whole := cs.takeWhile isDigit
  let (fraction, rest) :=
    match cs.dropWhile isDigit with
    | '.' :: tail => (tail.takeWhile isDigit, tail.dropWhile isDigit)
    | tail => ([], tail)
  match Text.readNat? (whole ++ fraction), readExponent? rest with
  | some digits, some e => some (ofDecimal negative digits (e - fraction.length))
  | _, _ => none

/-- What follows the sign of a real number: `inf`, `infinity` or `nan` in any case, or digits. -/
def readUnsigned? (negative : Bool) (cs : List Char) : Option Binary64 :=
  let word := String.ofList (Text.lowerAscii cs)
  if word == "inf" || word == "infinity" then some (.infinite negative)
  else if word == "nan" then some .nan
  else readDecimal? negative cs

/-- The number that a text writes. -/
def read? : List Char → Option Binary64
  | '-' :: cs => readUnsigned? true cs
  | '+' :: cs => readUnsigned? false cs
  | cs => readUnsigned? false cs

/-- Whether a number differs from zero; what is no number does. -/
def isNonzero : Binary64 → Bool
  | .finite _ m _ => m != 0
  | _ => true

/-- The nearest natural number, a half going up. Negative numbers and what is no number give zero,
and too large ones the greatest number of 64 bits. -/
def toNat64 : Binary64 → Nat
  | .nan => 0
  | .infinite negative => if negative then 0 else Text.bound64 - 1
  | .finite true _ _ => 0
  | .finite false m e =>
    let rounded :=
      if 0 ≤ e then scaleUp m e else (2 * m + scaleUp 1 (-e)) / (2 * scaleUp 1 (-e))
    min rounded (Text.bound64 - 1)

end Binary64

end CatalogDdl
