import CatalogDdl.Json.Basic

/-!
# Reading JSON

Two machines, each fed one symbol at a time, so that reading is recursion on the text.

- `Lexer`: fed characters, it collects tokens. Between tokens only the four blanks of the format may
  stand; a string holds no raw control character; a number has no superfluous zero.
- `Reader`: fed tokens, it collects a value. Containers part way through wait on a stack.
- `Json.read?`: the value that a text writes, or `none` if the text is no JSON.
-/

namespace CatalogDdl

namespace Json

/-- A token. -/
inductive Token where
  | openArray
  | closeArray
  | openObject
  | closeObject
  | colon
  | comma
  /-- A literal that stands for a value, or a string, which may also name a member. -/
  | scalar (value : Json)

/-! ## Words: numbers and the three names -/

/-- The characters of numbers and names. -/
def isWordChar (c : Char) : Bool :=
  c.isAlphanum || c = '+' || c = '-' || c = '.'

/-- Whether digits are the integer part of a number: no zero stands in front of another digit. -/
def isWhole : List Char → Bool
  | [] => false
  | ['0'] => true
  | '0' :: _ => false
  | ds => ds.all Char.isDigit

/-- Whether a text is what may follow the integer part: a fraction, an exponent, both or none. -/
def isTail (cs : List Char) : Bool :=
  let afterFraction :=
    match cs with
    | '.' :: rest => if (rest.takeWhile Char.isDigit).isEmpty then none else some (rest.dropWhile Char.isDigit)
    | rest => some rest
  let isExponent (ds : List Char) : Bool := !ds.isEmpty && ds.all Char.isDigit
  match afterFraction with
  | none => false
  | some [] => true
  | some (e :: rest) =>
    (e = 'e' || e = 'E') &&
      match rest with
      | '+' :: ds => isExponent ds
      | '-' :: ds => isExponent ds
      | ds => isExponent ds

/-- The number that digits write. -/
def digitsValue (ds : List Char) : Nat := ds.foldl (fun n c => 10 * n + (c.toNat - 48)) 0

/-- The number that a word writes after its sign. -/
def number? (negative : Bool) (word cs : List Char) : Option Json :=
  let whole := cs.takeWhile Char.isDigit
  let tail := cs.dropWhile Char.isDigit
  if isWhole whole && isTail tail then
    if tail.isEmpty && !(negative && digitsValue whole == 0) then
      some (.integer (if negative then -(digitsValue whole : Int) else digitsValue whole))
    else some (.real (String.ofList word))
  else none

/-- The value that a word writes. -/
def word? (word : List Char) : Option Json :=
  if word = ['n', 'u', 'l', 'l'] then some .null
  else if word = ['t', 'r', 'u', 'e'] then some (.bool true)
  else if word = ['f', 'a', 'l', 's', 'e'] then some (.bool false)
  else
    match word with
    | '-' :: cs => number? true word cs
    | cs => number? false word cs

/-! ## The lexer -/

/-- The part of a string literal that was read: its characters, last one first, or `broken` once
half of a surrogate pair was named. `pending` is the first half of a pair that waits for the second. -/
structure Literal where
  /-- The characters, last one first. -/
  chars : List Char := []
  /-- The first half of a surrogate pair. -/
  pending : Option Nat := none
  /-- Whether half of a pair stood alone. -/
  broken : Bool := false

/-- A literal after a character that stands for itself. -/
def Literal.add (l : Literal) (c : Char) : Literal :=
  { l with chars := c :: l.chars, pending := none, broken := l.broken || l.pending.isSome }

/-- A literal after a code unit given by an escape. Two halves of a pair that stand side by side
make one character. -/
def Literal.addUnit (l : Literal) (n : Nat) : Literal :=
  if 0xD800 ≤ n && n < 0xDC00 then
    { l with pending := some n, broken := l.broken || l.pending.isSome }
  else if 0xDC00 ≤ n && n < 0xE000 then
    match l.pending with
    | some high =>
      { l with
        chars := Char.ofNat (0x10000 + (high - 0xD800) * 0x400 + (n - 0xDC00)) :: l.chars
        pending := none }
    | none => { l with broken := true }
  else l.add (Char.ofNat n)

/-- The string that a complete literal writes. -/
def Literal.value (l : Literal) : Json :=
  .string (if l.broken || l.pending.isSome then none else some (String.ofList l.chars.reverse))

/-- What the lexer is in the middle of. -/
inductive Mode where
  /-- Between tokens. -/
  | gap
  /-- In a number or name; its characters, last one first. -/
  | word (chars : List Char)
  /-- In a string. -/
  | literal (l : Literal)
  /-- In a string, after a backslash. -/
  | escape (l : Literal)
  /-- In a string, in an escape by code unit; the digits still to come and the value so far. -/
  | unit (l : Literal) (digits value : Nat)

/-- A lexer: the tokens read, last one first, and what it is in the middle of. -/
structure Lexer where
  /-- The tokens, last one first. -/
  tokens : List Token := []
  /-- What the lexer is in the middle of. -/
  mode : Mode := .gap

/-- A lexer after a token. -/
def Lexer.push (l : Lexer) (t : Token) : Lexer := ⟨t :: l.tokens, .gap⟩

/-- A lexer that is fed a character between tokens. -/
def Lexer.feedGap (l : Lexer) (c : Char) : Option Lexer :=
  if c = ' ' || c = '\t' || c = '\n' || c = '\r' then some { l with mode := .gap }
  else if c = '[' then some (l.push .openArray)
  else if c = ']' then some (l.push .closeArray)
  else if c = '\x7b' then some (l.push .openObject)
  else if c = '\x7d' then some (l.push .closeObject)
  else if c = ':' then some (l.push .colon)
  else if c = ',' then some (l.push .comma)
  else if c = '\x22' then some { l with mode := .literal {} }
  else if isWordChar c then some { l with mode := .word [c] }
  else none

/-- The value of a hexadecimal digit. -/
def hexValue? (c : Char) : Option Nat :=
  if '0' ≤ c && c ≤ '9' then some (c.toNat - 48)
  else if 'a' ≤ c && c ≤ 'f' then some (c.toNat - 87)
  else if 'A' ≤ c && c ≤ 'F' then some (c.toNat - 55)
  else none

/-- The character that a one-letter escape stands for. -/
def escaped? (c : Char) : Option Char :=
  if c = '\x22' || c = '\\' || c = '/' then some c
  else if c = 'b' then some '\x08'
  else if c = 'f' then some '\x0c'
  else if c = 'n' then some '\n'
  else if c = 'r' then some '\r'
  else if c = 't' then some '\t'
  else none

/-- A lexer that is fed a character. -/
def Lexer.feed (l : Lexer) (c : Char) : Option Lexer :=
  match l.mode with
  | .gap => l.feedGap c
  | .word chars =>
    if isWordChar c then some { l with mode := .word (c :: chars) }
    else (word? chars.reverse).bind fun v => (l.push (.scalar v)).feedGap c
  | .literal s =>
    if c = '\x22' then some (l.push (.scalar s.value))
    else if c = '\\' then some { l with mode := .escape s }
    else if c.toNat < 0x20 then none
    else some { l with mode := .literal (s.add c) }
  | .escape s =>
    if c = 'u' then some { l with mode := .unit s 4 0 }
    else (escaped? c).map fun d => { l with mode := .literal (s.add d) }
  | .unit s digits value =>
    (hexValue? c).map fun d =>
      if digits ≤ 1 then { l with mode := .literal (s.addUnit (16 * value + d)) }
      else { l with mode := .unit s (digits - 1) (16 * value + d) }

/-- The tokens of a lexer at the end of the text. -/
def Lexer.finish (l : Lexer) : Option (List Token) :=
  match l.mode with
  | .gap => some l.tokens.reverse
  | .word chars => (word? chars.reverse).map fun v => (Token.scalar v :: l.tokens).reverse
  | _ => none

/-- The tokens of a text. -/
def tokens? (cs : List Char) : Option (List Token) :=
  (cs.foldlM Lexer.feed {}).bind Lexer.finish

/-! ## The reader -/

/-- A container part way through; what it holds comes last one first. -/
inductive Open where
  | array (items : List Json)
  | object (members : List (Option String × Json)) (name : Option String)

/-- What must come next. -/
inductive Expect where
  | value
  /-- A value or the end of an array that is still empty. -/
  | valueOrClose
  /-- The name of a member of an object. -/
  | name (members : List (Option String × Json))
  /-- The name of a member, or the end of an object that is still empty. -/
  | nameOrClose
  | colon (members : List (Option String × Json)) (name : Option String)
  /-- A comma, or the end of the innermost container, in an array. -/
  | nextItem (items : List Json)
  /-- A comma, or the end of the innermost container, in an object. -/
  | nextMember (members : List (Option String × Json))
  /-- The end of the text. -/
  | nothing (value : Json)

/-- A reader: the containers around what must come next, innermost first. -/
structure Reader where
  /-- The containers part way through. -/
  stack : List Open := []
  /-- What must come next. -/
  expect : Expect := .value

/-- The reader after a complete value inside some containers. -/
def deliver (value : Json) : List Open → Reader
  | [] => ⟨[], .nothing value⟩
  | .array items :: stack => ⟨stack, .nextItem (value :: items)⟩
  | .object members name :: stack => ⟨stack, .nextMember ((name, value) :: members)⟩

/-- A reader that is fed the first token of a value. -/
def Reader.begin (stack : List Open) : Token → Option Reader
  | .openArray => some ⟨stack, .valueOrClose⟩
  | .openObject => some ⟨stack, .nameOrClose⟩
  | .scalar v => some (deliver v stack)
  | _ => none

/-- A reader that is fed a token. -/
def Reader.feed (r : Reader) (t : Token) : Option Reader :=
  match r.expect, t with
  | .value, t => Reader.begin r.stack t
  | .valueOrClose, .closeArray => some (deliver (.array []) r.stack)
  | .valueOrClose, t => Reader.begin (.array [] :: r.stack) t
  | .nameOrClose, .closeObject => some (deliver (.object []) r.stack)
  | .nameOrClose, .scalar (.string name) => some ⟨r.stack, .colon [] name⟩
  | .name members, .scalar (.string name) => some ⟨r.stack, .colon members name⟩
  | .colon members name, .colon => some ⟨.object members name :: r.stack, .value⟩
  | .nextItem items, .comma => some ⟨.array items :: r.stack, .value⟩
  | .nextItem items, .closeArray => some (deliver (.array items.reverse) r.stack)
  | .nextMember members, .comma => some ⟨r.stack, .name members⟩
  | .nextMember members, .closeObject => some (deliver (.object members.reverse) r.stack)
  | _, _ => none

/-- The value of a reader at the end of the tokens. -/
def Reader.finish (r : Reader) : Option Json :=
  match r.expect with
  | .nothing v => some v
  | _ => none

/-- The value that tokens write. -/
def ofTokens? (ts : List Token) : Option Json := (ts.foldlM Reader.feed {}).bind Reader.finish

/-- The value that a text writes. -/
def read? (s : String) : Option Json := (tokens? s.toList).bind ofTokens?

end Json

end CatalogDdl
