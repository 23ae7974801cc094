import CatalogDdl.Text.Blank

/-!
# Words, pieces and lines

How texts are taken apart and put together again.

- `words`: the maximal runs of characters that are not blank.
- `splitAt`, `split`: the pieces between occurrences of one character, empty pieces included.
- `joinWith`: texts put together with a separator between neighbours.
- `containsChars`: whether one text occurs inside another.
- `lines`: the lines of a text, each without its line end.
-/

namespace CatalogDdl.Text

/-- The words of a text: its maximal runs of characters that are not blank. -/
def words : List Char → List (List Char)
  | [] => []
  | c :: cs =>
    if isBlank c then words cs
    else
      match cs with
      | [] => [[c]]
      | d :: _ =>
        if isBlank d then [c] :: words cs
        else
          match words cs with
          | [] => [[c]]
          | w :: ws => (c :: w) :: ws

/-- The pieces of a text between occurrences of `sep`; one more than there are occurrences. -/
def splitAt (sep : Char) : List Char → List (List Char)
  | [] => [[]]
  | c :: cs =>
    if c = sep then [] :: splitAt sep cs
    else
      match splitAt sep cs with
      | [] => [[c]]
      | p :: ps => (c :: p) :: ps

/-- The pieces of a text between occurrences of `sep`; one more than there are occurrences. -/
def split (sep : Char) (s : String) : List String := (splitAt sep s.toList).map String.ofList

/-- Texts put together with `sep` between neighbours. -/
def joinWith (sep : String) : List String → String
  | [] => ""
  | [s] => s
  | s :: t :: rest => s ++ sep ++ joinWith sep (t :: rest)

/-- Texts put together with `sep` between neighbours. -/
def joinCharsWith (sep : List Char) : List (List Char) → List Char
  | [] => []
  | [s] => s
  | s :: t :: rest => s ++ sep ++ joinCharsWith sep (t :: rest)

/-- Whether `needle` occurs in a text. -/
def containsChars (needle : List Char) : List Char → Bool
  | [] => needle.isEmpty
  | c :: cs => needle.isPrefixOf (c :: cs) || containsChars needle cs

/-- Whether `needle` occurs in `s`. -/
def contains (s needle : String) : Bool := containsChars needle.toList s.toList

/-- A line without the carriage return that may stand at its end. -/
def dropReturn (line : List Char) : List Char :=
  if line.getLast? = some '\r' then line.dropLast else line

/-- The lines of a text without their line ends. The text after the last line feed is a line only
if it is not empty, and it keeps a carriage return that ends it. -/
def lines (s : String) : List String :=
  let pieces := splitAt '\n' s.toList
  let complete := pieces.dropLast.map dropReturn
  let rest := pieces.getLast?.getD []
  ((if rest.isEmpty then complete else complete ++ [rest])).map String.ofList

end CatalogDdl.Text
