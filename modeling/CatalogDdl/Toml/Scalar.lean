import CatalogDdl.Json.Reader
import CatalogDdl.Toml.Basic
import CatalogDdl.Toml.Datetime

/-!
# Words as values

A word is a truth value, an integer in one of four bases, a float, a date or a time. Single
underscores may stand between the digits of a number; a decimal number has no superfluous zero at its
front; an integer that has neither a signed nor an unsigned representation in 128 bits is refused, and
so is a float that is too large for its format.

- `Toml.ofWord?`: the value of a word.
-/

namespace CatalogDdl

namespace Toml

/-- The digits of a run in which single underscores may stand between two digits. -/
def digitRun? (isDigit : Char → Bool) (cs : List Char) : Option (List Char) :=
  let groups := Text.splitAt '_' cs
  if groups.all fun g => !g.isEmpty && g.all isDigit then some groups.flatten else none

/-- The digits of a run of decimal digits. -/
def decimals? (cs : List Char) : Option (List Char) := digitRun? Char.isDigit cs

/-- The number that digits of a base write. -/
def valueIn (base : Nat) (ds : List Char) : Nat :=
  ds.foldl (fun n c => base * n + (Json.hexValue? c).getD 0) 0

/-- Whether a character is a digit of a base. -/
def isDigitIn (base : Nat) (c : Char) : Bool := (Json.hexValue? c).any fun d => d < base

/-- The number that a word writes with the mark of its base. -/
def based? : List Char → Option Nat
  | '0' :: mark :: cs =>
    let base := if mark = 'x' then 16 else if mark = 'o' then 8 else if mark = 'b' then 2 else 0
    (digitRun? (isDigitIn base) cs).map (valueIn base)
  | _ => none

/-- A word without its sign, and whether that is a minus. -/
def unsigned : List Char → Bool × List Char
  | '-' :: cs => (true, cs)
  | '+' :: cs => (false, cs)
  | cs => (false, cs)

/-- The digits of a whole number without a superfluous zero. -/
def whole? (cs : List Char) : Option (List Char) :=
  (decimals? cs).filter fun ds => ds.length == 1 || ds.head? != some '0'

/-- The characters of a float other than digits. -/
def isMark (c : Char) : Bool := c = '.' || c = 'e' || c = 'E'

/-- The digits of a fraction at the front of what follows the whole part, and the rest. -/
def fractionDigits? : List Char → Option (List Char × List Char)
  | '.' :: cs =>
    (decimals? (cs.takeWhile fun c => !isMark c)).map fun ds => (ds, cs.dropWhile fun c => !isMark c)
  | cs => some ([], cs)

/-- The exponent that ends a float. -/
def exponent? : List Char → Option Int
  | [] => some 0
  | c :: cs =>
    if c = 'e' || c = 'E' then
      (decimals? (unsigned cs).2).map fun ds =>
        if (unsigned cs).1 then -(valueIn 10 ds : Int) else valueIn 10 ds
    else none

/-- The decimal number that a word writes with a fraction or an exponent. -/
def decimal? (negative : Bool) (cs : List Char) : Option Binary64 := do
  let front ← whole? (cs.takeWhile fun c => !isMark c)
  let (fraction, rest) ← fractionDigits? (cs.dropWhile fun c => !isMark c)
  let e ← exponent? rest
  match Binary64.ofDecimal negative (valueIn 10 (front ++ fraction)) (e - fraction.length) with
  | .finite sign m k => some (.finite sign m k)
  | _ => none

/-- The float that a word writes. -/
def float? (cs : List Char) : Option Binary64 :=
  let (negative, rest) := unsigned cs
  if rest = ['i', 'n', 'f'] then some (.infinite negative)
  else if rest = ['n', 'a', 'n'] then some .nan
  else decimal? negative rest

/-- The integer that a word writes. -/
def integer? (cs : List Char) : Option Int :=
  match based? cs with
  | some n => some n
  | none =>
    let (negative, rest) := unsigned cs
    (whole? rest).map fun ds => if negative then -(valueIn 10 ds : Int) else valueIn 10 ds

/-- The first natural number that has no representation in 128 bits. -/
def bound128 : Int := 340282366920938463463374607431768211456

/-- The first natural number that has no signed representation in 128 bits. -/
def signedBound128 : Int := 170141183460469231731687303715884105728

/-- Whether an integer has a signed or an unsigned representation in 128 bits. -/
def fits128 (i : Int) : Bool := -signedBound128 ≤ i && i < bound128

/-- The value of a word. -/
def ofWord? (cs : List Char) : Option Toml :=
  if cs = ['t', 'r', 'u', 'e'] then some (.bool true)
  else if cs = ['f', 'a', 'l', 's', 'e'] then some (.bool false)
  else
    match integer? cs, datetime? cs, float? cs with
    | some i, _, _ => if fits128 i then some (.integer i) else none
    | none, some d, _ => some (.datetime d)
    | none, none, some x => some (.float x)
    | none, none, none => none

end Toml

end CatalogDdl
