import CatalogDdl.Text.Case
import CatalogDdl.Text.EscapeTable
import CatalogDdl.Text.Words

/-!
# Texts in messages

A message that lists texts shows each one in double quotes, so that blanks and odd characters can
be seen: `"a\tb"`. Quotes, backslashes and four control characters have a short escape; any other
character that cannot be seen by itself is shown by its code point.

- `escapeChar`: how one character is shown.
- `quoted`: a text in double quotes.
- `quotedList`: texts in square brackets.
-/

namespace CatalogDdl.Text

/-- A hexadecimal digit in lower case. -/
def hexDigit (n : Nat) : Char := if n < 10 then Char.ofNat (48 + n) else Char.ofNat (87 + n)

/-- A number in hexadecimal, without padding. -/
def hex (n : Nat) : List Char :=
  if n < 16 then [hexDigit n] else hex (n / 16) ++ [hexDigit (n % 16)]

/-- How a character is shown between double quotes. -/
def escapeChar (c : Char) : List Char :=
  if c = '\x22' then ['\\', '\x22']
  else if c = '\\' then ['\\', '\\']
  else if c = '\n' then ['\\', 'n']
  else if c = '\r' then ['\\', 'r']
  else if c = '\t' then ['\\', 't']
  else if c.toNat = 0 then ['\\', '0']
  else if 0x20 ≤ c.toNat && c.toNat < 0x7F then [c]
  else if inRanges escapedRanges c.toNat then ['\\', 'u', '\x7b'] ++ hex c.toNat ++ ['\x7d']
  else [c]

/-- A text in double quotes, with what cannot be seen escaped. -/
def quoted (s : String) : String :=
  String.ofList ('\x22' :: (s.toList.flatMap escapeChar ++ ['\x22']))

/-- Texts in double quotes, in square brackets. -/
def quotedList (ss : List String) : String := "[" ++ joinWith ", " (ss.map quoted) ++ "]"

end CatalogDdl.Text
