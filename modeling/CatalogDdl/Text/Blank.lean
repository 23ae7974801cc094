/-!
# Blanks and trimming

Names, types and predicates come from a data dictionary with arbitrary padding, so every reader
of catalog text first takes the blanks off both ends. A blank is a character with the Unicode
property White_Space.

- `isBlank`: the property, as its twenty-five code points.
- `trimChars`, `trim`: a text without the blanks at its two ends.
- `isBlankText`: whether nothing but blanks is there, which is when `trim` leaves the empty text.
-/

namespace CatalogDdl.Text

/-- The characters with the Unicode property White_Space. -/
def isBlank (c : Char) : Bool :=
  let n := c.toNat
  (0x09 ≤ n && n ≤ 0x0D) || n == 0x20 || n == 0x85 || n == 0xA0 || n == 0x1680
    || (0x2000 ≤ n && n ≤ 0x200A) || n == 0x2028 || n == 0x2029 || n == 0x202F || n == 0x205F
    || n == 0x3000

/-- A text without its leading blanks. -/
def dropBlanks (cs : List Char) : List Char := cs.dropWhile isBlank

/-- A text without the blanks at its two ends. -/
def trimChars (cs : List Char) : List Char := (dropBlanks (dropBlanks cs).reverse).reverse

/-- A text without the blanks at its two ends. -/
def trim (s : String) : String := String.ofList (trimChars s.toList)

/-- Whether a text holds nothing but blanks. -/
def isBlankText (s : String) : Bool := s.toList.all isBlank

end CatalogDdl.Text
