import CatalogDdl.Text.CaseTable

/-!
# Upper case, lower case and comparison without case

Names are written in lower case and compared in one of two ways: over all of Unicode, by their
upper-case form, or over the letters A to Z alone.

- `upperChar`, `upper`: the full upper-case mapping; one character may become several.
- `lowerChar`, `lower`: the full lower-case mapping. It depends on the neighbours in one place: a
  capital sigma becomes a final sigma at the end of a word.
- `equalsIgnoringCase`: equality up to the case of A to Z.

Below U+0080 both mappings are those of the letters A to Z; only above it is a table read.
-/

namespace CatalogDdl.Text

/-- Whether a code point lies in one of some ranges. -/
def inRanges (ranges : List (Nat × Nat)) (n : Nat) : Bool := ranges.any fun r => r.1 ≤ n && n ≤ r.2

/-- The image of a character above U+007F under a mapping given by runs and exceptions. -/
def mapByTable (runs : List CaseRun) (special : List (Nat × List Nat)) (c : Char) : List Char :=
  match special.lookup c.toNat with
  | some image => image.map Char.ofNat
  | none =>
    match runs.find? fun r => r.covers c.toNat with
    | some r => [r.image c.toNat]
    | none => [c]

/-- The upper case of a character. -/
def upperChar (c : Char) : List Char :=
  if c.toNat < 0x80 then [c.toUpper] else mapByTable upperRuns upperSpecial c

/-- The upper case of a text. -/
def upperChars (cs : List Char) : List Char := cs.flatMap upperChar

/-- The upper case of a text. -/
def upper (s : String) : String := String.ofList (upperChars s.toList)

/-- The lower case of a character that stands alone. -/
def lowerChar (c : Char) : List Char :=
  if c.toNat < 0x80 then [c.toLower] else mapByTable lowerRuns lowerSpecial c

/-- Whether the first character that is not passed over has a case. -/
def meetsCased (cs : List Char) : Bool :=
  match cs.dropWhile fun c => inRanges caseIgnorableRanges c.toNat with
  | [] => false
  | c :: _ => inRanges casedRanges c.toNat

/-- The lower case of a text, where `before` holds the characters in front of it, nearest first. A
capital sigma with a letter before it and none after it ends a word. -/
def lowerAfter (before : List Char) : List Char → List Char
  | [] => []
  | c :: cs =>
    (if c = 'Σ' then [if meetsCased before && !meetsCased cs then 'ς' else 'σ'] else lowerChar c)
      ++ lowerAfter (c :: before) cs

/-- The lower case of a text. -/
def lowerChars (cs : List Char) : List Char := lowerAfter [] cs

/-- The lower case of a text. -/
def lower (s : String) : String := String.ofList (lowerChars s.toList)

/-- A text with the letters A to Z in lower case and all else as it is. -/
def lowerAscii (cs : List Char) : List Char := cs.map Char.toLower

/-- Equality of texts up to the case of the letters A to Z. -/
def equalsIgnoringCase (a b : String) : Bool := lowerAscii a.toList == lowerAscii b.toList

end CatalogDdl.Text
