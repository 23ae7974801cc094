import CatalogDdl.Toml.Scalar
import CatalogDdl.Toml.Token

/-!
# Reading a document

A machine that is fed tokens and builds the table of a document. A line gives a key a value, or is
the header of a table or of an item of an array of tables; it may be empty. Arrays and inline tables
may run over several lines, but no key does, and a comma may follow their last item. Values nest as
deep as `Toml.nestingLimit` says, and keys have no more names than that.

- `Toml.KeyPath`: a dotted key part way through.
- `Toml.Reader.feed`: the machine.
- `Toml.read?`: the entries of the document that a text writes.
-/

namespace CatalogDdl

namespace Toml

/-- The number of containers that a value may stand in, and of names in a key. -/
def nestingLimit : Nat := 80

/-- A dotted key part way through. -/
structure KeyPath where
  /-- The names, last one first. -/
  names : List String := []
  /-- Whether a name must come next. -/
  isOpen : Bool := true

/-- A key after a name. -/
def KeyPath.addName (k : KeyPath) (name : String) : Option KeyPath :=
  if k.isOpen then some ⟨name :: k.names, false⟩ else none

/-- A key after a dot. -/
def KeyPath.addDot (k : KeyPath) : Option KeyPath := if k.isOpen then none else some ⟨k.names, true⟩

/-- Whether a character may stand in a name without quotes. -/
def isBare (c : Char) : Bool := c.isAlphanum || c = '_' || c = '-'

/-- A key after a name without quotes, or after nothing. -/
def KeyPath.addPiece (k : KeyPath) (piece : List Char) : Option KeyPath :=
  if piece.isEmpty then some k
  else if piece.all isBare then k.addName (String.ofList piece)
  else none

/-- A key after the names and dots of a word. -/
def KeyPath.addPieces (k : KeyPath) : List (List Char) → Option KeyPath
  | [] => some k
  | [piece] => k.addPiece piece
  | piece :: rest => (k.addPiece piece).bind fun k => k.addDot.bind fun k => addPieces k rest

/-- The names of a complete key: the path and the last one. -/
def KeyPath.complete? (k : KeyPath) : Option (List String × String) :=
  match k.isOpen, k.names with
  | false, name :: path => if path.length < nestingLimit then some (path.reverse, name) else none
  | _, _ => none

/-- What a key is for. -/
inductive KeyUse where
  /-- The header of a table. -/
  | header
  /-- The header of an item of an array of tables. -/
  | elementHeader
  /-- A line that gives it a value. -/
  | line
  /-- A member of an inline table with given entries. -/
  | member (entries : Entries)

/-- What a value is for. -/
inductive Frame where
  /-- The key of a line. -/
  | line (path : List String) (name : String)
  /-- An array; its items so far, last one first. -/
  | array (items : List Toml)
  /-- A key of an inline table with given entries. -/
  | member (entries : Entries) (path : List String) (name : String)

/-- What must come next. -/
inductive Expect where
  /-- A line. -/
  | line
  /-- The end of a line. -/
  | lineEnd
  /-- The rest of a key. -/
  | key (use : KeyUse) (k : KeyPath)
  /-- The equals sign after a key of an inline table, on a later line. -/
  | equals (entries : Entries) (path : List String) (name : String)
  | value
  /-- An item of an array or its end. -/
  | item (items : List Toml)
  /-- A comma after an item, or the end of the array. -/
  | nextItem (items : List Toml)
  /-- A member of an inline table or its end. -/
  | member (entries : Entries)
  /-- A comma after a member, or the end of the inline table. -/
  | nextMember (entries : Entries)

/-- A reader. -/
structure Reader where
  /-- What dotted keys do. -/
  keys : DottedKeys
  /-- The document so far. -/
  root : Toml := .table .explicit []
  /-- The path of the last header. -/
  header : List String := []
  /-- What the values part way through are for, innermost first. -/
  stack : List Frame := []
  /-- What must come next. -/
  expect : Expect := .line

namespace Reader

/-- A reader that expects something else. -/
def expecting (r : Reader) (e : Expect) : Reader := { r with expect := e }

/-- A reader inside a frame that expects something. -/
def inside (r : Reader) (f : Frame) (e : Expect) : Reader :=
  { r with stack := f :: r.stack, expect := e }

/-- A reader whose document has changed. -/
def change (r : Reader) (c : Change) : Option Reader :=
  match r.root with
  | .table form entries => (c form entries).map fun root => { r with root := root, expect := .lineEnd }
  | _ => none

/-- A reader after a complete value. -/
def deliver (r : Reader) (v : Toml) : Option Reader :=
  match r.stack with
  | [] => none
  | .line path name :: rest => { r with stack := rest }.change (assignBelow r.keys r.header path name v)
  | .array items :: rest => some { r with stack := rest, expect := .nextItem (v :: items) }
  | .member entries path name :: rest =>
    match assign r.keys path name v .inline entries with
    | some (.table _ changed) => some { r with stack := rest, expect := .nextMember changed }
    | _ => none

/-- A reader that enters a container, whose contents it expects. All frames but the one of the line
belong to the containers that it is in already. -/
def enter (r : Reader) (e : Expect) : Option Reader :=
  if r.stack.length ≤ nestingLimit then some (r.expecting e) else none

/-- A reader that is fed the first token of a value. -/
def begin (r : Reader) : Token → Option Reader
  | .word w => (ofWord? w).bind r.deliver
  | .text s _ => r.deliver (.text s)
  | .openBracket => r.enter (.item [])
  | .openBrace => r.enter (.member [])
  | _ => none

/-- A reader that is fed a token of a key. -/
def feedKey (r : Reader) (use : KeyUse) (k : KeyPath) (t : Token) : Option Reader :=
  match t with
  | .word w => (k.addPieces (Text.splitAt '.' w)).map fun k => r.expecting (.key use k)
  | .text s false => (k.addName s).map fun k => r.expecting (.key use k)
  | _ =>
    match k.complete?, use, t with
    | some (path, name), .line, .equals => some (r.inside (.line path name) .value)
    | some (path, name), .member entries, .equals => some (r.inside (.member entries path name) .value)
    | some (path, name), .member entries, .newline => some (r.expecting (.equals entries path name))
    | some (path, name), .header, .closeBracket =>
      { r with header := path ++ [name] }.change (openTable path name)
    | some (path, name), .elementHeader, .closeBrackets =>
      { r with header := path ++ [name] }.change (openElement path name)
    | _, _, _ => none

/-- Whether a value may start on a later line than what it is for. -/
def mayBreak (r : Reader) : Bool :=
  match r.stack with
  | .member _ _ _ :: _ => true
  | _ => false

/-- A reader that is fed a token where a value or the rest of an array must come, two brackets side by
side apart. -/
def feedItem (r : Reader) (t : Token) : Option Reader :=
  match r.expect, t with
  | .item items, .newline => some (r.expecting (.item items))
  | .item items, .closeBracket => r.deliver (.array false items.reverse)
  | .item items, t => (r.inside (.array items) .value).begin t
  | .nextItem items, .newline => some (r.expecting (.nextItem items))
  | .nextItem items, .comma => some (r.expecting (.item items))
  | .nextItem items, .closeBracket => r.deliver (.array false items.reverse)
  | .value, .newline => if r.mayBreak then some r else none
  | .value, t => r.begin t
  | _, _ => none

/-- A reader that is fed a token. -/
def feed (r : Reader) (t : Token) : Option Reader :=
  match r.expect, t with
  | .line, .newline => some r
  | .line, .openBracket => some (r.expecting (.key .header {}))
  | .line, .openBrackets => some (r.expecting (.key .elementHeader {}))
  | .line, t => r.feedKey .line {} t
  | .lineEnd, .newline => some (r.expecting .line)
  | .lineEnd, _ => none
  | .key use k, t => r.feedKey use k t
  | .equals _ _ _, .newline => some r
  | .equals entries path name, .equals => some (r.inside (.member entries path name) .value)
  | .equals _ _ _, _ => none
  | .member entries, .newline => some (r.expecting (.member entries))
  | .member entries, .closeBrace => r.deliver (.table .inline entries)
  | .member entries, t => r.feedKey (.member entries) {} t
  | .nextMember entries, .newline => some (r.expecting (.nextMember entries))
  | .nextMember entries, .comma => some (r.expecting (.member entries))
  | .nextMember entries, .closeBrace => r.deliver (.table .inline entries)
  | .nextMember _, _ => none
  | _, .openBrackets => (r.feedItem .openBracket).bind fun r => r.feedItem .openBracket
  | _, .closeBrackets => (r.feedItem .closeBracket).bind fun r => r.feedItem .closeBracket
  | _, t => r.feedItem t

/-- The entries of a reader at the end of the tokens. -/
def finish (r : Reader) : Option Entries :=
  match r.expect with
  | .line => r.root.entries?
  | .lineEnd => r.root.entries?
  | _ => none

end Reader

/-- The entries of the document that a text writes. -/
def read? (keys : DottedKeys) (s : String) : Option Entries :=
  ((tokens? s).bind fun ts => ts.foldlM Reader.feed { keys }).bind Reader.finish

end Toml

end CatalogDdl
