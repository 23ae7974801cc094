import CatalogDdl.Json.Printer
import CatalogDdl.Json.Reader
import CatalogDdl.Proofs.Text
import Mathlib.Data.List.TakeWhile

/-!
# Written JSON is read back

A value that is written is read as the same value. The lexer finds its tokens again, and
the reader puts them together again. Both are followed through a text in parts: what the
lexer makes of a part does not depend on what was read before, and what the reader makes
of the tokens of a value does not depend on the containers around it.

- `Plain`: the values that are written without loss.
- `Lexes`: the characters of some tokens. A number or a name ends only where a character
  follows that cannot belong to it, so parts are joined at such characters.
- `Reads`: the tokens of a value.
- `exists_tokens`: what is written for a value are the characters of its tokens.
- `read?_compact`: it is read as the value.
-/

namespace CatalogDdl.Json

/-- Values that are written without loss: all but those with a number that is no integer, and
those with a string without a text. -/
inductive Plain : Json → Prop
  | null : Plain .null
  | bool (b : Bool) : Plain (.bool b)
  | integer (i : Int) : Plain (.integer i)
  | text (s : String) : Plain (text s)
  | array {items : List Json} (h : ∀ j ∈ items, Plain j) : Plain (.array items)
  | ofFields {fields : List (String × Json)} (h : ∀ f ∈ fields, Plain f.2) : Plain (ofFields fields)

/-! ## Parts of a text -/

/-- A lexer has read some tokens, the last one first, up to the end of a word that it may be in. -/
inductive Lexer.Settled : Lexer → List Token → Prop
  | gap (ts : List Token) : Settled ⟨ts, .gap⟩ ts
  | word {chars : List Char} {v : Json} (ts : List Token) (h : word? chars.reverse = some v) :
      Settled ⟨ts, .word chars⟩ (.scalar v :: ts)

namespace Lexer.Settled

variable {l : Lexer} {ts : List Token}

/-- A character that belongs to no word ends the word. -/
theorem feed_eq (h : l.Settled ts) {c : Char} (hc : isWordChar c = false) :
    l.feed c = Lexer.feed ⟨ts, .gap⟩ c := by
  cases h with
  | gap => rfl
  | word ts h =>
    show (if isWordChar c = true then _ else _) = _
    rw [hc, if_neg Bool.false_ne_true, h]
    rfl

/-- So does the end of the text. -/
theorem finish_eq (h : l.Settled ts) : l.finish = some ts.reverse := by
  cases h with
  | gap => rfl
  | word ts h =>
    show (word? _).map _ = _
    rw [h]
    rfl

end Lexer.Settled

/-- A text is that of some tokens, whatever was read before. -/
def Lexes (cs : List Char) (ts : List Token) : Prop :=
  ∀ before, ∃ l : Lexer, cs.foldlM Lexer.feed ⟨before, .gap⟩ = some l ∧
    l.Settled (ts.reverse ++ before)

namespace Lexes

variable {cs ds : List Char} {ts us : List Token} {c : Char} {t : Token}

theorem nil : Lexes [] [] := fun before => ⟨_, rfl, .gap before⟩

/-- A mark is a token by itself. -/
theorem cons (hmark : ∀ l : Lexer, l.feedGap c = some (l.push t)) (h : Lexes cs ts) :
    Lexes (c :: cs) (t :: ts) := by
  intro before
  obtain ⟨l, hl, hsettled⟩ := h (t :: before)
  refine ⟨l, ?_, ?_⟩
  · rw [List.foldlM_cons, show Lexer.feed ⟨before, .gap⟩ c = _ from hmark ⟨before, .gap⟩]
    exact hl
  · rw [List.reverse_cons, List.append_assoc]
    exact hsettled

/-- Two texts one after the other, the second of which begins with a character that belongs to
no word. -/
theorem append (h : Lexes cs ts) (hc : isWordChar c = false) (h' : Lexes (c :: ds) us) :
    Lexes (cs ++ c :: ds) (ts ++ us) := by
  intro before
  obtain ⟨l, hl, hsettled⟩ := h before
  obtain ⟨l', hl', hsettled'⟩ := h' (ts.reverse ++ before)
  -- the first character of the second text ends the word that the first one may be in
  refine ⟨l', ?_, ?_⟩
  · rw [List.foldlM_append, hl]
    show (c :: ds).foldlM Lexer.feed l = _
    rw [List.foldlM_cons, hsettled.feed_eq hc, ← List.foldlM_cons]
    exact hl'
  · rw [List.reverse_append, List.append_assoc]
    exact hsettled'

/-- A text by itself is lexed to its tokens. -/
theorem tokens?_eq (h : Lexes cs ts) : tokens? cs = some ts := by
  obtain ⟨l, hl, hsettled⟩ := h []
  rw [List.append_nil] at hsettled
  rw [tokens?, hl]
  show l.finish = _
  rw [hsettled.finish_eq, List.reverse_reverse]

end Lexes

/-! ## Words -/

/-- A character of a word begins one. -/
theorem feedGap_of_isWordChar (l : Lexer) {c : Char} (h : isWordChar c = true) :
    l.feedGap c = some ⟨l.tokens, .word [c]⟩ := by
  have hne : ∀ d, isWordChar d = false → c ≠ d := by
    rintro d hd rfl
    rw [h] at hd
    cases hd
  unfold Lexer.feedGap
  simp [h, hne ' ' rfl, hne '\t' rfl, hne '\n' rfl, hne '\r' rfl, hne '[' rfl, hne ']' rfl,
    hne '\x7b' rfl, hne '\x7d' rfl, hne ':' rfl, hne ',' rfl, hne '\x22' rfl]

/-- The further characters of a word go to it. -/
theorem foldlM_feed_word {cs : List Char} (h : ∀ c ∈ cs, isWordChar c = true)
    (before : List Token) (chars : List Char) :
    cs.foldlM Lexer.feed ⟨before, .word chars⟩
      = some (⟨before, .word (cs.reverse ++ chars)⟩ : Lexer) := by
  induction cs generalizing chars with
  | nil => rfl
  | cons c cs ih =>
    obtain ⟨hc, hcs⟩ := List.forall_mem_cons.mp h
    have hfeed : Lexer.feed ⟨before, .word chars⟩ c = some ⟨before, .word (c :: chars)⟩ := if_pos hc
    rw [List.foldlM_cons, hfeed, List.reverse_cons, List.append_assoc]
    exact ih hcs (c :: chars)

/-- A word is the token of its value. -/
theorem lexes_word {cs : List Char} {v : Json} (h : cs.all isWordChar = true)
    (hv : word? cs = some v) : Lexes cs [.scalar v] := by
  have hne : cs ≠ [] := by
    rintro rfl
    cases hv
  obtain ⟨c, rest, rfl⟩ := List.exists_cons_of_ne_nil hne
  obtain ⟨hc, hrest⟩ := List.forall_mem_cons.mp (List.all_eq_true.mp h)
  intro before
  have hstart : Lexer.feed ⟨before, .gap⟩ c = some ⟨before, .word [c]⟩ := feedGap_of_isWordChar _ hc
  refine ⟨⟨before, .word (rest.reverse ++ [c])⟩, ?_, .word before ?_⟩
  · rw [List.foldlM_cons, hstart]
    exact foldlM_feed_word hrest before [c]
  · rw [List.reverse_append, List.reverse_reverse]
    exact hv

/-- The digits of a number begin with a zero only if the number is zero. -/
theorem toDigits_eq_cons {n : Nat} (hn : 0 < n) :
    ∃ d ds, Nat.toDigits 10 n = d :: ds ∧ d ≠ '0' := by
  induction n using Nat.strongRecOn with
  | ind n ih =>
    rw [Nat.toDigits_eq_if (by decide)]
    by_cases hlt : n < 10
    · rw [if_pos hlt]
      have hdigit : ∀ m < 10, 0 < m → Nat.digitChar m ≠ '0' := by decide
      exact ⟨_, _, rfl, hdigit n hlt hn⟩
    · rw [if_neg hlt]
      obtain ⟨d, ds, hds, hd⟩ := ih (n / 10) (by omega) (by omega)
      exact ⟨d, ds ++ [(n % 10).digitChar], by rw [hds]; rfl, hd⟩

/-- The digits of a number have no zero too many in front. -/
theorem isWhole_toDigits (n : Nat) : isWhole (Nat.toDigits 10 n) = true := by
  have hall : (Nat.toDigits 10 n).all Char.isDigit = true :=
    List.all_eq_true.mpr fun _ => Text.isDigit_of_mem_toDigits
  rcases Nat.eq_zero_or_pos n with rfl | hn
  · rfl
  · obtain ⟨d, ds, hds, hd⟩ := toDigits_eq_cons hn
    rw [hds] at hall ⊢
    unfold isWhole
    split
    · rename_i h
      cases h
    · rfl
    · rename_i h
      cases h
      exact absurd rfl hd
    · exact hall

/-- They have the value of the number. -/
theorem digitsValue_toDigits (n : Nat) : digitsValue (Nat.toDigits 10 n) = n :=
  Nat.ofDigitChars_ten_toDigits

/-- The digits of a number, after a sign if there is one, write an integer, unless it is a
negative zero. -/
theorem number?_toDigits (negative : Bool) {n : Nat} (h : negative = true → n ≠ 0)
    (word : List Char) :
    number? negative word (Nat.toDigits 10 n)
      = some (.integer (if negative then -(n : Int) else n)) := by
  have hdigits : ∀ d ∈ Nat.toDigits 10 n, d.isDigit = true := fun _ => Text.isDigit_of_mem_toDigits
  have hwhole : (Nat.toDigits 10 n).takeWhile Char.isDigit = Nat.toDigits 10 n :=
    List.takeWhile_eq_self_iff.mpr hdigits
  have hrest : (Nat.toDigits 10 n).dropWhile Char.isDigit = [] :=
    List.dropWhile_eq_nil_iff.mpr hdigits
  have hnonzero : (negative && n == 0) = false := by
    cases negative with
    | false => rfl
    | true => exact beq_false_of_ne (h rfl)
  have htail : isTail [] = true := rfl
  unfold number?
  simp only [hwhole, hrest, isWhole_toDigits, htail, digitsValue_toDigits, hnonzero]
  rfl

/-- An integer is the value of the word that is written for it. -/
theorem word?_toString (i : Int) : word? (toString i).toList = some (.integer i) := by
  have hname : ∀ {name : List Char} {c : Char}, c ∈ name → c.isDigit = false → c ≠ '-' →
      (toString i).toList ≠ name := by
    rintro name c hmem hdigit hminus rfl
    rcases Text.mem_toString_cases hmem with h | h
    · rw [hdigit] at h
      cases h
    · exact hminus h
  unfold word?
  rw [if_neg (hname (c := 'n') (by decide) rfl (by decide)),
    if_neg (hname (c := 't') (by decide) rfl (by decide)),
    if_neg (hname (c := 'f') (by decide) rfl (by decide)), Text.toList_toString]
  by_cases hneg : i < 0
  · have hvalue := number?_toDigits true (n := i.natAbs) (fun _ => by omega)
      ('-' :: Nat.toDigits 10 i.natAbs)
    rw [if_pos rfl, show -(i.natAbs : Int) = i by omega] at hvalue
    rw [if_pos hneg]
    exact hvalue
  · have hvalue := number?_toDigits false (n := i.natAbs) nofun (Nat.toDigits 10 i.natAbs)
    rw [if_neg Bool.false_ne_true, show (i.natAbs : Int) = i by omega] at hvalue
    rw [if_neg hneg, List.nil_append]
    -- a digit is no sign
    split
    · rename_i cs hcs
      have hminus : '-' ∈ Nat.toDigits 10 i.natAbs := hcs ▸ List.mem_cons_self ..
      exact absurd (Text.isDigit_of_mem_toDigits hminus) (by decide)
    · exact hvalue

/-- An integer is a word, and the token of itself. -/
theorem lexes_integer (i : Int) : Lexes (toString i).toList [.scalar (.integer i)] := by
  refine lexes_word (List.all_eq_true.mpr fun c hc => ?_) (word?_toString i)
  rcases Text.mem_toString_cases hc with hdigit | rfl
  · simp [isWordChar, Char.isAlphanum, hdigit]
  · rfl

/-! ## Strings -/

/-- A part of a literal was read: some characters, last one first, no half of a pair. -/
def literalLexer (before : List Token) (chars : List Char) : Lexer :=
  ⟨before, .literal { chars }⟩

/-- A hexadecimal digit is read as its value. -/
theorem hexValue?_hexDigit {n : Nat} (h : n < 16) : hexValue? (Text.hexDigit n) = some n := by
  revert n
  decide

/-- A control character is read from the four digits of its number. -/
theorem foldlM_feed_unit {c : Char} (h : c.toNat < 0x20) (before : List Token)
    (chars : List Char) :
    ['\\', 'u', '0', '0', Text.hexDigit (c.toNat / 16), Text.hexDigit (c.toNat % 16)].foldlM
        Lexer.feed (literalLexer before chars)
      = some (literalLexer before (c :: chars)) := by
  have hzeros : ['\\', 'u', '0', '0'].foldlM Lexer.feed (literalLexer before chars)
      = some ⟨before, .unit { chars } 2 0⟩ := rfl
  have hhigh : Lexer.feed ⟨before, .unit { chars } 2 0⟩ (Text.hexDigit (c.toNat / 16))
      = some ⟨before, .unit { chars } 1 (c.toNat / 16)⟩ := by
    show (hexValue? _).map _ = _
    rw [hexValue?_hexDigit (by omega)]
    show some (⟨before, .unit { chars } 1 (16 * 0 + c.toNat / 16)⟩ : Lexer) = _
    rw [Nat.zero_add]
  have hlow : Lexer.feed ⟨before, .unit { chars } 1 (c.toNat / 16)⟩ (Text.hexDigit (c.toNat % 16))
      = some (literalLexer before (c :: chars)) := by
    show (hexValue? _).map _ = _
    rw [hexValue?_hexDigit (Nat.mod_lt _ (by decide))]
    show some (⟨before, .literal (Literal.addUnit { chars } (16 * (c.toNat / 16) + c.toNat % 16))⟩ :
      Lexer) = _
    -- the number is far below those of the halves of pairs
    rw [Nat.div_add_mod, Literal.addUnit, if_neg (by simp; omega), if_neg (by simp; omega),
      Char.ofNat_toNat]
    rfl
  rw [show ['\\', 'u', '0', '0', Text.hexDigit (c.toNat / 16), Text.hexDigit (c.toNat % 16)]
    = ['\\', 'u', '0', '0'] ++ [Text.hexDigit (c.toNat / 16), Text.hexDigit (c.toNat % 16)]
      from rfl, List.foldlM_append, hzeros]
  show [_, _].foldlM Lexer.feed _ = _
  rw [List.foldlM_cons, hhigh]
  show [_].foldlM Lexer.feed _ = _
  rw [List.foldlM_cons, hlow]
  rfl

/-- A character is read from what is written for it. -/
theorem foldlM_feed_literalChar (c : Char) (before : List Token) (chars : List Char) :
    (literalChar c).foldlM Lexer.feed (literalLexer before chars)
      = some (literalLexer before (c :: chars)) := by
  unfold literalChar
  split_ifs with hquote hbackslash hfeed hreturn htab hback hform hcontrol
  · subst hquote
    rfl
  · subst hbackslash
    rfl
  · subst hfeed
    rfl
  · subst hreturn
    rfl
  · subst htab
    rfl
  · subst hback
    rfl
  · subst hform
    rfl
  · exact foldlM_feed_unit hcontrol before chars
  · have hplain : Lexer.feed (literalLexer before chars) c
        = some (literalLexer before (c :: chars)) := by
      show (if _ then _ else if _ then _ else if _ then _ else _) = _
      rw [if_neg hquote, if_neg hbackslash, if_neg hcontrol]
      rfl
    rw [List.foldlM_cons, hplain]
    rfl

/-- So are the characters of a text, one after the other. -/
theorem foldlM_feed_literal (cs : List Char) (before : List Token) (chars : List Char) :
    (cs.flatMap literalChar).foldlM Lexer.feed (literalLexer before chars)
      = some (literalLexer before (cs.reverse ++ chars)) := by
  induction cs generalizing chars with
  | nil => rfl
  | cons c cs ih =>
    rw [List.flatMap_cons, List.foldlM_append, foldlM_feed_literalChar, List.reverse_cons,
      List.append_assoc]
    exact ih (c :: chars)

/-- The literal of a text is the token of the text. -/
theorem lexes_literal (s : String) : Lexes (literal s).toList [.scalar (text s)] := by
  intro before
  have hclose : Lexer.feed (literalLexer before (s.toList.reverse ++ [])) '\x22'
      = some ⟨.scalar (text s) :: before, .gap⟩ := by
    show some (⟨.scalar (.string (some (String.ofList (s.toList.reverse ++ []).reverse))) :: before,
      .gap⟩ : Lexer) = _
    rw [List.append_nil, List.reverse_reverse, String.ofList_toList]
    rfl
  refine ⟨_, ?_, .gap _⟩
  rw [literal, String.toList_ofList, List.foldlM_cons]
  show (s.toList.flatMap literalChar ++ ['\x22']).foldlM Lexer.feed (literalLexer before []) = _
  rw [List.foldlM_append, foldlM_feed_literal]
  show ['\x22'].foldlM Lexer.feed (literalLexer before (s.toList.reverse ++ [])) = _
  rw [List.foldlM_cons, hclose]
  rfl

/-! ## Values -/

/-- Some tokens are those of a value, whatever containers are around it. -/
def Reads (ts : List Token) (j : Json) : Prop :=
  ∀ stack, ts.foldlM Reader.feed ⟨stack, .value⟩ = some (deliver j stack)

theorem Reads.ofTokens?_eq {ts : List Token} {j : Json} (h : Reads ts j) :
    ofTokens? ts = some j := by
  rw [ofTokens?, show ({} : Reader) = ⟨[], .value⟩ from rfl, h []]
  rfl

/-- What is read from a state is read from another one in which the first token has the same
effect. -/
theorem foldlM_of_first {r r' s : Reader} {ts : List Token} (hne : r ≠ s)
    (hfirst : ∀ t q, r.feed t = some q → r'.feed t = some q)
    (h : ts.foldlM Reader.feed r = some s) : ts.foldlM Reader.feed r' = some s := by
  cases ts with
  | nil => exact absurd (Option.some.inj h) hne
  | cons t ts =>
    rw [List.foldlM_cons] at h ⊢
    obtain ⟨q, hq, hrest⟩ := Option.bind_eq_some_iff.mp h
    rw [hfirst t q hq]
    exact hrest

/-- The entries of a container, one after the other: if each entry is read between a state before
it and a state after it, and a comma leads from the one to the other, the entries are read with
commas between them. -/
theorem exists_tokens_join {α : Type} (write : α → List Char)
    (before after : List Open → List α → Reader)
    (hcomma : ∀ stack as, (after stack as).feed .comma = some (before stack as))
    {as : List α} (hne : as ≠ [])
    (h : ∀ a ∈ as, ∃ ts, Lexes (write a) ts ∧
      ∀ stack done, ts.foldlM Reader.feed (before stack done) = some (after stack (a :: done))) :
    ∃ ts, Lexes (Text.joinCharsWith [','] (as.map write)) ts ∧
      ∀ stack done, ts.foldlM Reader.feed (before stack done)
        = some (after stack (as.reverse ++ done)) := by
  induction as with
  | nil => exact absurd rfl hne
  | cons a as ih =>
    obtain ⟨ha, has⟩ := List.forall_mem_cons.mp h
    obtain ⟨ts, hlex, hread⟩ := ha
    cases as with
    | nil => exact ⟨ts, hlex, hread⟩
    | cons b as =>
      obtain ⟨us, hlexes, hreads⟩ := ih (List.cons_ne_nil b as) has
      -- what the entries before have left goes along as `done`, last one first
      refine ⟨ts ++ .comma :: us, ?_, fun stack done => ?_⟩
      · rw [List.map_cons, List.map_cons, Text.joinCharsWith, List.append_assoc,
          List.singleton_append]
        exact hlex.append rfl (.cons (fun _ => rfl) hlexes)
      · rw [List.foldlM_append, hread]
        show (Token.comma :: us).foldlM Reader.feed (after stack (a :: done)) = _
        rw [List.foldlM_cons, hcomma, List.reverse_cons, List.append_assoc]
        exact hreads stack (a :: done)

/-- The items of an array are written one by one. -/
theorem compactItems_eq (items : List Json) : compactItems items = items.map compact := by
  induction items with
  | nil => rfl
  | cons j items ih => rw [compactItems, ih, List.map_cons]

/-- The members of an object are written with their names. -/
theorem compactMembers_eq (fields : List (String × Json)) :
    compactMembers (fields.map fun f => (some f.1, f.2))
      = fields.map fun f => literal f.1 ++ ":" ++ compact f.2 := by
  induction fields with
  | nil => rfl
  | cons f fields ih =>
    rw [List.map_cons, List.map_cons, compactMembers, ih]
    rfl

/-- A container is written like its entries, between two marks. -/
theorem lexes_container {first last : Char} {t u : Token}
    (hfirst : ∀ l : Lexer, l.feedGap first = some (l.push t))
    (hlast : ∀ l : Lexer, l.feedGap last = some (l.push u))
    (hapart : isWordChar last = false) {cs : List Char} {ts : List Token} (h : Lexes cs ts) :
    Lexes (first :: (cs ++ [last])) (t :: (ts ++ [u])) :=
  .cons hfirst (h.append hapart (.cons hlast .nil))

/-- An array is read if its items are. -/
theorem exists_tokens_array {items : List Json}
    (h : ∀ j ∈ items, ∃ ts, Lexes (compact j).toList ts ∧ Reads ts j) :
    ∃ ts, Lexes (compact (.array items)).toList ts ∧ Reads ts (.array items) := by
  by_cases hne : items = []
  · subst hne
    exact ⟨_, lexes_container (fun _ => rfl) (fun _ => rfl) rfl .nil, fun _ => rfl⟩
  · obtain ⟨ts, hlex, hread⟩ := exists_tokens_join (fun j => (compact j).toList)
      (fun stack done => ⟨.array done :: stack, .value⟩)
      (fun stack done => ⟨stack, .nextItem done⟩) (fun _ _ => rfl) hne
      fun j hj => (h j hj).imp fun ts hts => ⟨hts.1, fun stack done => hts.2 _⟩
    have htext : (compact (.array items)).toList
        = '[' :: (Text.joinCharsWith [','] (items.map fun j => (compact j).toList) ++ [']']) := by
      rw [compact, compactItems_eq, String.toList_append, String.toList_append,
        Text.toList_joinWith, List.map_map]
      rfl
    refine ⟨.openArray :: (ts ++ [.closeArray]), ?_, fun stack => ?_⟩
    · rw [htext]
      exact lexes_container (fun _ => rfl) (fun _ => rfl) rfl hlex
    · -- where an array may still end, a value may begin
      have hitems : ts.foldlM Reader.feed ⟨stack, .valueOrClose⟩
          = some ⟨stack, .nextItem items.reverse⟩ := by
        have hvalue := hread stack []
        rw [List.append_nil] at hvalue
        refine foldlM_of_first (by simp) (fun t q hq => ?_) hvalue
        cases t with
        | closeArray => cases hq
        | openArray | openObject | closeObject | colon | comma | scalar => exact hq
      rw [List.foldlM_cons]
      show (ts ++ [Token.closeArray]).foldlM Reader.feed ⟨stack, .valueOrClose⟩ = _
      rw [List.foldlM_append, hitems]
      show some (deliver (.array items.reverse.reverse) stack) = _
      rw [List.reverse_reverse]

/-- A member is read if its value is: it is its name, a colon and the value. -/
theorem exists_tokens_member {f : String × Json}
    (h : ∃ ts, Lexes (compact f.2).toList ts ∧ Reads ts f.2) :
    ∃ ts, Lexes (literal f.1 ++ ":" ++ compact f.2).toList ts ∧
      ∀ stack (done : List (String × Json)),
        ts.foldlM Reader.feed ⟨stack, .name (done.map fun g => (some g.1, g.2))⟩
          = some ⟨stack, .nextMember ((f :: done).map fun g => (some g.1, g.2))⟩ := by
  obtain ⟨ts, hlex, hread⟩ := h
  refine ⟨[.scalar (text f.1)] ++ .colon :: ts, ?_, fun stack done => ?_⟩
  · rw [String.toList_append, String.toList_append, List.append_assoc]
    exact (lexes_literal f.1).append rfl (.cons (fun _ => rfl) hlex)
  · exact hread (.object _ (some f.1) :: stack)

/-- An object is read if the values of its members are. -/
theorem exists_tokens_object {fields : List (String × Json)}
    (h : ∀ f ∈ fields, ∃ ts, Lexes (compact f.2).toList ts ∧ Reads ts f.2) :
    ∃ ts, Lexes (compact (ofFields fields)).toList ts ∧ Reads ts (ofFields fields) := by
  by_cases hne : fields = []
  · subst hne
    exact ⟨_, lexes_container (fun _ => rfl) (fun _ => rfl) rfl .nil, fun _ => rfl⟩
  · obtain ⟨ts, hlex, hread⟩ := exists_tokens_join
      (fun f : String × Json => (literal f.1 ++ ":" ++ compact f.2).toList)
      (fun stack done => ⟨stack, .name (done.map fun g => (some g.1, g.2))⟩)
      (fun stack done => ⟨stack, .nextMember (done.map fun g => (some g.1, g.2))⟩)
      (fun _ _ => rfl) hne fun f hf => exists_tokens_member (h f hf)
    have htext : (compact (ofFields fields)).toList
        = '\x7b' :: (Text.joinCharsWith [',']
          (fields.map fun f => (literal f.1 ++ ":" ++ compact f.2).toList) ++ ['\x7d']) := by
      rw [ofFields, compact, compactMembers_eq, String.toList_append, String.toList_append,
        Text.toList_joinWith, List.map_map]
      rfl
    refine ⟨.openObject :: (ts ++ [.closeObject]), ?_, fun stack => ?_⟩
    · rw [htext]
      exact lexes_container (fun _ => rfl) (fun _ => rfl) rfl hlex
    · have hmembers : ts.foldlM Reader.feed ⟨stack, .nameOrClose⟩
          = some ⟨stack, .nextMember (fields.reverse.map fun g => (some g.1, g.2))⟩ := by
        have hname := hread stack []
        rw [List.append_nil] at hname
        refine foldlM_of_first (by simp) (fun t q hq => ?_) hname
        cases t with
        | openArray | openObject | closeArray | closeObject | colon | comma => cases hq
        | scalar v => cases v <;> exact hq
      rw [List.foldlM_cons]
      show (ts ++ [Token.closeObject]).foldlM Reader.feed ⟨stack, .nameOrClose⟩ = _
      rw [List.foldlM_append, hmembers]
      show some (deliver (.object (fields.reverse.map fun g => (some g.1, g.2)).reverse) stack) = _
      rw [List.map_reverse, List.reverse_reverse]
      rfl

/-- What is written for a value are the characters of its tokens. -/
theorem exists_tokens {j : Json} (h : Plain j) :
    ∃ ts, Lexes (compact j).toList ts ∧ Reads ts j := by
  induction h with
  | null => exact ⟨_, lexes_word (by decide) rfl, fun _ => rfl⟩
  | bool b =>
    cases b with
    | true => exact ⟨_, lexes_word (by decide) rfl, fun _ => rfl⟩
    | false => exact ⟨_, lexes_word (by decide) rfl, fun _ => rfl⟩
  | integer i => exact ⟨_, lexes_integer i, fun _ => rfl⟩
  | text s => exact ⟨_, lexes_literal s, fun _ => rfl⟩
  | array _ ih => exact exists_tokens_array ih
  | ofFields _ ih => exact exists_tokens_object ih

/-- **What is written for a value is read as the value.** -/
theorem read?_compact {j : Json} (h : Plain j) : read? (compact j) = some j := by
  obtain ⟨ts, hlex, hread⟩ := exists_tokens h
  rw [read?, hlex.tokens?_eq]
  exact hread.ofTokens?_eq

end CatalogDdl.Json
