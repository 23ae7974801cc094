import CatalogDdl.Number.Binary64

/-!
# The shortest decimal of a binary number

A number is written with the fewest digits that read back as the same number; among those the
nearest digits are taken, and a tie goes up. The digits stand in positional notation whatever their
size, and an integral number has no point.

- `shortest`: the digits and the power of ten of the last one.
- `Binary64.text`: the written form.

Every real number between the middles to the two neighbours reads back as the number, the middles
themselves when its mantissa is even. A power of ten `10 ^ k` is fine enough when one of the two
multiples around the number lies in that interval, so the greatest such `k` gives the fewest digits.
-/

namespace CatalogDdl

namespace Binary64

/-- The multiple of `10 ^ k` nearest to `m * 2 ^ e` among the two around it that read back as that
number, without its factor `10 ^ k`. -/
def multipleAt? (m : Nat) (e k : Int) : Option Nat :=
  let unit := scaleUp (scaleUpTen 1 k) (2 - e)
  let scale := scaleUp (scaleUpTen 1 (-k)) (e - 2)
  let gapBelow := if m = leastFullMantissa && leastExponent < e then 1 else 2
  let low := (4 * m - gapBelow) * scale
  let high := (4 * m + 2) * scale
  let inside (d : Nat) : Bool :=
    if m % 2 = 0 then low ≤ d * unit && d * unit ≤ high else low < d * unit && d * unit < high
  let below := 4 * m * scale / unit
  let rest := 4 * m * scale % unit
  match inside below, inside (below + 1) with
  | true, true => some (if 2 * rest < unit then below else below + 1)
  | true, false => some below
  | false, true => some (below + 1)
  | false, false => none

/-- The powers of ten to try, the greatest first. -/
def powers : List Int := (List.range 660).map fun (i : Nat) => 310 - (i : Int)

/-- The fewest digits that read back as `m * 2 ^ e`, and the power of ten of the last one. -/
def shortest (m : Nat) (e : Int) : Nat × Int :=
  (powers.findSome? fun k => (multipleAt? m e k).map fun d => (d, k)).getD (0, 0)

/-- Digits in positional notation, where the last one stands for `10 ^ k`. -/
def positional (digits : Nat) (k : Int) : List Char :=
  let ds := (toString digits).toList
  if 0 ≤ k then ds ++ List.replicate k.toNat '0'
  else
    let places := (-k).toNat
    let padded := List.replicate (places + 1 - ds.length) '0' ++ ds
    padded.take (padded.length - places) ++ '.' :: padded.drop (padded.length - places)

/-- The written form of a number. -/
def text : Binary64 → String
  | .nan => "NaN"
  | .infinite negative => if negative then "-inf" else "inf"
  | .finite negative m e =>
    let digits := if m = 0 then ['0'] else positional (shortest m e).1 (shortest m e).2
    String.ofList (if negative then '-' :: digits else digits)

end Binary64

end CatalogDdl
