import CatalogDdl.Text.Numeral

/-!
# Dates and times

A date, a time, or a date and a time with or without an offset. The parts must exist: a month has its
days, a leap year one more, a minute may have a sixty-first second. In the normal form a `T` stands
between date and time, an offset of no minutes has a plus sign unless it is written `Z`, and a fraction
of a second has at most nine digits and no zeros at its end but for a lone one.

- `Toml.datetime?`: the normal form of a word.
-/

namespace CatalogDdl

namespace Toml

/-- The number that a given count of digits at the front of a word writes, and the rest. -/
def digits? (count : Nat) (cs : List Char) : Option (Nat × List Char) :=
  let front := cs.take count
  if front.length = count then (Text.readNat? front).map fun n => (n, cs.drop count) else none

/-- The rest of a word after a given character. -/
def after? (c : Char) : List Char → Option (List Char)
  | [] => none
  | d :: cs => if d = c then some cs else none

/-- The number of days of a month. -/
def daysIn (year month : Nat) : Nat :=
  if month = 2 then
    if year % 4 = 0 && (year % 100 ≠ 0 || year % 400 = 0) then 29 else 28
  else if [4, 6, 9, 11].contains month then 30
  else 31

/-- The characters of a word up to its rest. -/
def upTo (cs rest : List Char) : List Char := cs.take (cs.length - rest.length)

/-- The date at the front of a word, and the rest. -/
def date? (cs : List Char) : Option (List Char × List Char) := do
  let (year, r) ← digits? 4 cs
  let (month, r) ← digits? 2 (← after? '-' r)
  let (day, r) ← digits? 2 (← after? '-' r)
  if 1 ≤ month && month ≤ 12 && 1 ≤ day && day ≤ daysIn year month then some (upTo cs r, r) else none

/-- The normal form of the digits of a fraction. -/
def fraction (ds : List Char) : List Char :=
  let kept := ((ds.take 9).reverse.dropWhile (· == '0')).reverse
  '.' :: if kept.isEmpty then ['0'] else kept

/-- The fraction at the front of what follows the seconds, and the rest. -/
def fraction? : List Char → Option (List Char × List Char)
  | '.' :: cs =>
    let ds := cs.takeWhile Char.isDigit
    if ds.isEmpty then none else some (fraction ds, cs.dropWhile Char.isDigit)
  | cs => some ([], cs)

/-- The seconds, with their fraction, at the front of what follows the minutes, and the rest. They
may be left out. -/
def seconds? : List Char → Option (List Char × List Char)
  | ':' :: cs => do
    let (second, r) ← digits? 2 cs
    let (part, rest) ← fraction? r
    if second ≤ 60 then some (':' :: (upTo cs r ++ part), rest) else none
  | cs => some ([], cs)

/-- The hour and minute at the front of a word, and the rest. -/
def hourMinute? (cs : List Char) : Option (List Char × List Char) := do
  let (hour, r) ← digits? 2 cs
  let (minute, r) ← digits? 2 (← after? ':' r)
  if hour ≤ 23 && minute ≤ 59 then some (upTo cs r, r) else none

/-- The time at the front of a word, and the rest. -/
def time? (cs : List Char) : Option (List Char × List Char) := do
  let (front, r) ← hourMinute? cs
  let (back, rest) ← seconds? r
  some (front ++ back, rest)

/-- The sign in the normal form of an offset, which is a minus only before an offset of some
minutes. -/
def offsetSign (sign : Char) (zone : List Char) : Char :=
  if zone.all fun c => c = '0' || c = ':' then '+' else sign

/-- The normal form of an offset. -/
def offset? : List Char → Option (List Char)
  | [] => some []
  | c :: cs =>
    if c = 'Z' || c = 'z' then (if cs.isEmpty then some ['Z'] else none)
    else if c = '+' || c = '-' then
      (hourMinute? cs).bind fun (zone, rest) =>
        if rest.isEmpty then some (offsetSign c zone :: zone) else none
    else none

/-- The normal form of what follows a date. -/
def afterDate? : List Char → Option (List Char)
  | [] => some []
  | c :: cs =>
    if c = 'T' || c = 't' || c = ' ' then do
      let (time, rest) ← time? cs
      let zone ← offset? rest
      some ('T' :: (time ++ zone))
    else none

/-- The normal form of a date, a time or both. -/
def datetime? (cs : List Char) : Option String :=
  match date? cs with
  | some (date, rest) => (afterDate? rest).map fun more => String.ofList (date ++ more)
  | none =>
    match time? cs with
    | some (time, []) => some (String.ofList time)
    | _ => none

end Toml

end CatalogDdl
