import CatalogDdl.Json.Reader

/-!
# The tokens of a document

A machine that is fed characters and collects tokens. A run of letters, digits and the marks of
numbers and dates is one word; whether it is a part of a key or a value depends on where it stands.
Two brackets side by side are one token, because a header may need them so.

Strings stand between double quotes, where a backslash escapes, or between single quotes, where
nothing does. Three quotes open a string of several lines, whose first line end is left out if it
follows at once; up to two quotes may stand before the three that close it. A line ends in a line
feed, with or without a carriage return before it, and a string of several lines keeps the one that
is written.

- `Toml.Token`: the tokens.
- `Toml.Lexer.feed`: the machine.
- `Toml.tokens?`: the tokens of a text.
-/

namespace CatalogDdl

namespace Toml

/-- A token. -/
inductive Token where
  /-- A number, a date, a truth value, or names and dots of a key. -/
  | word (chars : List Char)
  /-- A string. -/
  | text (s : String) (multiline : Bool)
  | equals
  | comma
  | openBrace
  | closeBrace
  | openBracket
  | closeBracket
  /-- Two opening brackets side by side. -/
  | openBrackets
  /-- Two closing brackets side by side. -/
  | closeBrackets
  | newline
  deriving DecidableEq, Repr

/-- The characters of words. -/
def isWordChar (c : Char) : Bool :=
  c.isAlphanum || c = '_' || c = '-' || c = '+' || c = '.' || c = ':'

/-- Whether a character may stand in a comment or in a string. -/
def isPlain (c : Char) : Bool := c = '\t' || (0x20 ≤ c.toNat && c.toNat ≠ 0x7F)

/-- A string part way through. -/
structure Quotation where
  /-- The quote that it stands between. -/
  delimiter : Char
  multiline : Bool
  /-- The characters so far, last one first. -/
  chars : List Char := []

/-- A quotation after a character. -/
def Quotation.add (q : Quotation) (c : Char) : Quotation := { q with chars := c :: q.chars }

/-- A quotation after some of its own delimiters, which belong to it. -/
def Quotation.addDelimiters (q : Quotation) (n : Nat) : Quotation :=
  { q with chars := List.replicate n q.delimiter ++ q.chars }

/-- A quotation after a line end, which a carriage return may open. -/
def Quotation.addLineEnd (q : Quotation) (returned : Bool) : Quotation :=
  if returned then (q.add '\r').add '\n' else q.add '\n'

/-- The token of a complete quotation. -/
def Quotation.token (q : Quotation) : Token := .text (String.ofList q.chars.reverse) q.multiline

/-- What the lexer is in the middle of. -/
inductive Mode where
  /-- Between tokens. -/
  | gap
  /-- After an opening bracket. -/
  | bracket
  /-- After a closing bracket. -/
  | closedBracket
  /-- In a word; its characters, last one first. -/
  | word (chars : List Char)
  /-- After a date and a space, which a time may follow. -/
  | afterDate (chars : List Char)
  | comment
  /-- After one or two quotes that may open a string. -/
  | opening (delimiter : Char) (twice : Bool)
  /-- At the start of a string of several lines. -/
  | fresh (q : Quotation)
  /-- In a string, after a run of its delimiters. -/
  | body (q : Quotation) (run : Nat)
  /-- In a string, after a backslash. -/
  | escape (q : Quotation)
  /-- In an escape by code point; the digits still to come and the value so far. -/
  | codePoint (q : Quotation) (digits value : Nat)
  /-- After a backslash that leaves out a line end and the blanks after it. -/
  | skip (q : Quotation) (crossed : Bool)

/-- A lexer: the tokens read, last one first, and what it is in the middle of. -/
structure Lexer where
  /-- The tokens, last one first. -/
  tokens : List Token := []
  /-- What the lexer is in the middle of. -/
  mode : Mode := .gap
  /-- Whether a carriage return came last, which a line feed must follow. -/
  returned : Bool := false

/-- A lexer after a token. -/
def Lexer.push (l : Lexer) (t : Token) : Lexer := { l with tokens := t :: l.tokens, mode := .gap }

/-- A lexer in another mode. -/
def Lexer.within (l : Lexer) (m : Mode) : Lexer := { l with mode := m }

/-- A lexer between tokens, if what it is in the middle of may end here. -/
def Lexer.settle? (l : Lexer) : Option Lexer :=
  match l.mode with
  | .gap => some l
  | .comment => some (l.within .gap)
  | .bracket => some (l.push .openBracket)
  | .closedBracket => some (l.push .closeBracket)
  | .word chars => some (l.push (.word chars.reverse))
  | .afterDate chars => some (l.push (.word chars.reverse))
  | .opening _ true => some (l.push (.text "" false))
  | .body q run => if 3 ≤ run then some (l.push (q.addDelimiters (run - 3)).token) else none
  | _ => none

/-- A lexer that is fed a character between tokens. -/
def Lexer.feedGap (l : Lexer) (c : Char) : Option Lexer :=
  if c = ' ' || c = '\t' then some (l.within .gap)
  else if c = '#' then some (l.within .comment)
  else if c = '=' then some (l.push .equals)
  else if c = ',' then some (l.push .comma)
  else if c = '\x7b' then some (l.push .openBrace)
  else if c = '\x7d' then some (l.push .closeBrace)
  else if c = '[' then some (l.within .bracket)
  else if c = ']' then some (l.within .closedBracket)
  else if c = '\x22' || c = '\x27' then some (l.within (.opening c false))
  else if isWordChar c then some (l.within (.word [c]))
  else none

/-- Whether a word, given last character first, has the form of a date. -/
def isDateForm (chars : List Char) : Bool :=
  chars.length == 10 &&
    (List.zipWith (fun c mark => if mark = '-' then c == '-' else c.isDigit) chars
      ['0', '0', '-', '0', '0', '-', '0', '0', '0', '0']).all id

/-- A lexer that is fed a character in a string, not directly after a delimiter. -/
def Lexer.feedBody (l : Lexer) (q : Quotation) (c : Char) : Option Lexer :=
  if c = '\\' && q.delimiter = '\x22' then some (l.within (.escape q))
  else if isPlain c then some (l.within (.body (q.add c) 0))
  else none

/-- The character that a one-letter escape stands for. -/
def escaped? (c : Char) : Option Char :=
  if c = '\x22' || c = '\\' then some c
  else if c = 'b' then some '\x08'
  else if c = 'e' then some '\x1b'
  else if c = 'f' then some '\x0c'
  else if c = 'n' then some '\n'
  else if c = 'r' then some '\r'
  else if c = 't' then some '\t'
  else none

/-- The number of digits in an escape by code point. -/
def codePointDigits? (c : Char) : Option Nat :=
  if c = 'x' then some 2 else if c = 'u' then some 4 else if c = 'U' then some 8 else none

/-- A lexer that is fed a character after a backslash. -/
def Lexer.feedEscape (l : Lexer) (q : Quotation) (c : Char) : Option Lexer :=
  match escaped? c, codePointDigits? c with
  | some d, _ => some (l.within (.body (q.add d) 0))
  | none, some digits => some (l.within (.codePoint q digits 0))
  | none, none =>
    if q.multiline && (c = ' ' || c = '\t') then some (l.within (.skip q false)) else none

/-- A quotation after an escape by code point, if that is a character. -/
def Quotation.addCodePoint? (q : Quotation) (n : Nat) : Option Quotation :=
  if n < 0xD800 || (0xDFFF < n && n ≤ 0x10FFFF) then some (q.add (Char.ofNat n)) else none

/-- A lexer that is fed a character within a line. -/
def Lexer.feedChar (l : Lexer) (c : Char) : Option Lexer :=
  match l.mode with
  | .gap => l.feedGap c
  | .bracket => if c = '[' then some (l.push .openBrackets) else l.settle?.bind fun l => l.feedGap c
  | .closedBracket =>
    if c = ']' then some (l.push .closeBrackets) else l.settle?.bind fun l => l.feedGap c
  | .word chars =>
    if isWordChar c then some (l.within (.word (c :: chars)))
    else if c = ' ' && isDateForm chars then some (l.within (.afterDate chars))
    else l.settle?.bind fun l => l.feedGap c
  | .afterDate chars =>
    if c.isDigit then some (l.within (.word (c :: ' ' :: chars)))
    else l.settle?.bind fun l => l.feedGap c
  | .comment => if isPlain c then some l else none
  | .opening d false =>
    if c = d then some (l.within (.opening d true)) else l.feedBody ⟨d, false, []⟩ c
  | .opening d true =>
    if c = d then some (l.within (.fresh ⟨d, true, []⟩)) else l.settle?.bind fun l => l.feedGap c
  | .fresh q => if c = q.delimiter then some (l.within (.body q 1)) else l.feedBody q c
  | .body q run =>
    if c = q.delimiter then
      if !q.multiline then some (l.push q.token)
      else if run = 4 then some (l.push (q.addDelimiters 2).token)
      else some (l.within (.body q (run + 1)))
    else if 3 ≤ run then l.settle?.bind fun l => l.feedGap c
    else l.feedBody (q.addDelimiters run) c
  | .escape q => l.feedEscape q c
  | .codePoint q digits value =>
    (Json.hexValue? c).bind fun d =>
      if digits ≤ 1 then (q.addCodePoint? (16 * value + d)).map fun q => l.within (.body q 0)
      else some (l.within (.codePoint q (digits - 1) (16 * value + d)))
  | .skip q crossed =>
    if c = ' ' || c = '\t' then some l
    else if !crossed then none
    else if c = q.delimiter then some (l.within (.body q 1))
    else l.feedBody q c

/-- A lexer that is fed a line end, which belongs to a string of several lines as it is written. -/
def Lexer.endLine (l : Lexer) (returned : Bool) : Option Lexer :=
  match l.mode with
  | .fresh q => some (l.within (.body q 0))
  | .body q run =>
    if 3 ≤ run then l.settle?.map fun l => l.push .newline
    else if q.multiline then some (l.within (.body ((q.addDelimiters run).addLineEnd returned) 0))
    else none
  | .escape q => if q.multiline then some (l.within (.skip q true)) else none
  | .skip q _ => some (l.within (.skip q true))
  | _ => l.settle?.map fun l => l.push .newline

/-- A lexer that is fed a character. A carriage return is the front of a line end. -/
def Lexer.feed (l : Lexer) (c : Char) : Option Lexer :=
  if c = '\n' then Lexer.endLine { l with returned := false } l.returned
  else if l.returned then none
  else if c = '\r' then some { l with returned := true }
  else l.feedChar c

/-- The tokens of a lexer at the end of the text. -/
def Lexer.finish (l : Lexer) : Option (List Token) :=
  if l.returned then none else l.settle?.map fun l => l.tokens.reverse

/-- A text without the mark of its byte order, which may stand at its start. -/
def dropByteOrderMark : List Char → List Char
  | [] => []
  | c :: cs => if c.toNat = 0xFEFF then cs else c :: cs

/-- The tokens of a text. -/
def tokens? (s : String) : Option (List Token) :=
  ((dropByteOrderMark s.toList).foldlM Lexer.feed {}).bind Lexer.finish

end Toml

end CatalogDdl
