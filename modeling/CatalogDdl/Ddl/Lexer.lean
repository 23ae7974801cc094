import CatalogDdl.Ddl.Quote

/-!
# Reading what is quoted

How a server takes quoted texts out of a statement again. A quotation goes on to the first mark that
stands alone; two marks in a row are one character of the text. In a string literal, unlike in an
identifier, a backslash takes the character after it along, whatever that is.

- `readQuoted`: the text of a quotation and what follows it.
- `readName`: an identifier and what follows it.
- `readNames?`: the identifiers of a text that holds nothing but identifiers, with one separator
  between neighbours.
- `readString`: the value of a string and what follows it.
- `readLiteral`: the value of a string literal, with either mark, and what follows it.
-/

namespace CatalogDdl.Ddl

/-- The text of a quotation whose first mark has been read, and what follows its last mark. -/
def readQuoted (mark : Char) : List Char → Option (List Char × List Char)
  | [] => none
  | c :: cs =>
    if c = mark then
      match cs with
      | [] => some ([], [])
      | d :: rest =>
        if d = mark then (readQuoted mark rest).map fun r => (mark :: r.1, r.2)
        else some ([], d :: rest)
    else (readQuoted mark cs).map fun r => (c :: r.1, r.2)

/-- Two marks are one character of the text. -/
theorem readQuoted_mark_mark (mark : Char) (cs : List Char) :
    readQuoted mark (mark :: mark :: cs) =
      (readQuoted mark cs).map fun r => (mark :: r.1, r.2) := by
  rw [readQuoted.eq_def]
  simp only [if_true]

/-- A mark that stands alone ends the quotation. -/
theorem readQuoted_mark {mark : Char} {rest : List Char} (h : rest.head? ≠ some mark) :
    readQuoted mark (mark :: rest) = some ([], rest) := by
  rw [readQuoted.eq_def]
  cases rest with
  | nil => simp only [if_true]
  | cons d rest =>
    have hd : d ≠ mark := fun heq => h (congrArg some heq)
    simp only [if_true, if_neg hd]

/-- Any other character is one of the text. -/
theorem readQuoted_cons {mark c : Char} (h : c ≠ mark) (cs : List Char) :
    readQuoted mark (c :: cs) = (readQuoted mark cs).map fun r => (c :: r.1, r.2) := by
  rw [readQuoted.eq_def]
  simp only [if_neg h]

/-- The identifier that a text starts with, and what follows it. -/
def readName : List Char → Option (List Char × List Char)
  | [] => none
  | c :: cs => if c = backtick then readQuoted backtick cs else none

/-- What follows a quotation is shorter than the quotation with it. -/
theorem length_lt_of_readQuoted {mark : Char} {cs text rest : List Char}
    (h : readQuoted mark cs = some (text, rest)) : rest.length < cs.length := by
  fun_induction readQuoted mark cs generalizing text with
  | case1 => cases h
  | case2 =>
    cases h
    exact Nat.zero_lt_one
  | case3 rest' ih =>
    obtain ⟨r, hr, heq⟩ := Option.map_eq_some_iff.mp h
    cases heq
    have := ih hr
    simp only [List.length_cons]
    omega
  | case4 d rest' hd =>
    cases h
    exact Nat.lt_succ_self _
  | case5 c cs hc ih =>
    obtain ⟨r, hr, heq⟩ := Option.map_eq_some_iff.mp h
    cases heq
    exact Nat.lt_succ_of_lt (ih hr)

/-- What follows an identifier is shorter than the identifier with it. -/
theorem length_lt_of_readName {cs text rest : List Char} (h : readName cs = some (text, rest)) :
    rest.length < cs.length := by
  unfold readName at h
  split at h
  · cases h
  · split at h
    · exact Nat.lt_succ_of_lt (length_lt_of_readQuoted h)
    · cases h

/-- One or more identifiers with a separator between neighbours, up to the end of the text. -/
def readSomeNames (sep : Char) (cs : List Char) : Option (List (List Char)) :=
  match h : readName cs with
  | none => none
  | some (name, []) => some [name]
  | some (name, c :: rest) =>
    have : rest.length < cs.length := Nat.lt_of_succ_lt (length_lt_of_readName h)
    if c = sep then (readSomeNames sep rest).map fun names => name :: names else none
termination_by cs.length

/-- The identifiers of a text, with a separator between neighbours. The empty text has none. -/
def readNames? (sep : Char) (s : String) : Option (List String) :=
  match s.toList with
  | [] => some []
  | c :: cs => (readSomeNames sep (c :: cs)).map fun names => names.map String.ofList

/-! ## String literals -/

/-- The character that takes the next one along. -/
def backslash : Char := '\x5c'

/-- What a character stands for after a backslash. Most stand for themselves; in front of the two
wildcards of patterns the backslash stays. -/
def escapeValue : Char → List Char
  | '0' => ['\x00']
  | 'b' => ['\x08']
  | 'n' => ['\n']
  | 'r' => ['\r']
  | 't' => ['\t']
  | 'Z' => ['\x1a']
  | '%' => [backslash, '%']
  | '_' => [backslash, '_']
  | c => [c]

/-- The value of a string whose first mark has been read, and what follows its last mark. -/
def readString (mark : Char) : List Char → Option (List Char × List Char)
  | [] => none
  | c :: cs =>
    if c = backslash then
      match cs with
      | [] => none
      | d :: rest => (readString mark rest).map fun r => (escapeValue d ++ r.1, r.2)
    else if c = mark then
      match cs with
      | [] => some ([], [])
      | d :: rest =>
        if d = mark then (readString mark rest).map fun r => (mark :: r.1, r.2)
        else some ([], d :: rest)
    else (readString mark cs).map fun r => (c :: r.1, r.2)

/-- A character after a backslash is part of the string. -/
theorem readString_backslash (mark d : Char) (rest : List Char) :
    readString mark (backslash :: d :: rest) =
      (readString mark rest).map fun r => (escapeValue d ++ r.1, r.2) := by
  rw [readString.eq_def]
  simp only [if_true]

/-- Two marks are one character of the string. -/
theorem readString_mark_mark {mark : Char} (h : mark ≠ backslash) (rest : List Char) :
    readString mark (mark :: mark :: rest) =
      (readString mark rest).map fun r => (mark :: r.1, r.2) := by
  rw [readString.eq_def]
  simp only [if_neg h, if_true]

/-- A mark that stands alone ends the string. -/
theorem readString_mark {mark : Char} (h : mark ≠ backslash) {rest : List Char}
    (hrest : rest.head? ≠ some mark) : readString mark (mark :: rest) = some ([], rest) := by
  rw [readString.eq_def]
  cases rest with
  | nil => simp only [if_neg h, if_true]
  | cons d rest =>
    have hd : d ≠ mark := fun heq => hrest (congrArg some heq)
    simp only [if_neg h, if_true, if_neg hd]

/-- Any other character is one of the string. -/
theorem readString_cons {mark c : Char} (hc : c ≠ backslash) (hmark : c ≠ mark) (cs : List Char) :
    readString mark (c :: cs) = (readString mark cs).map fun r => (c :: r.1, r.2) := by
  rw [readString.eq_def]
  simp only [if_neg hc, if_neg hmark]

/-- The marks that begin a string literal. -/
def IsStringMark (c : Char) : Prop := c = apostrophe ∨ c = doubleQuote

instance : DecidablePred IsStringMark := fun c =>
  inferInstanceAs (Decidable (c = apostrophe ∨ c = doubleQuote))

/-- The value of the string literal that a text starts with, and what follows it. -/
def readLiteral : List Char → Option (List Char × List Char)
  | [] => none
  | c :: cs => if IsStringMark c then readString c cs else none

end CatalogDdl.Ddl
