import CatalogDdl.Ddl.ColumnClause
import CatalogDdl.Ddl.Lexer
import Mathlib.Algebra.Group.Nat.Even
import Mathlib.Data.List.TakeWhile

/-!
# Comments are read as they were written

A comment has no double quotes any more when it is put between marks. If the marks are double
quotes, none of them is in the comment, and they are single quotes only if the comment has no
two of these in one line. So the last mark is the one that ends the literal, unless the
comment has single quotes in different lines only.

The quotes are not all that matters, though. A server takes a backslash and the character
after it for one character. A backslash at the end takes the last mark along, and any other
one is lost, except in front of a percent sign or an underscore.

- `IsLiteral`: what is read as one string literal, whatever follows it.
- `QuotesInLine`, `BackslashesStay`, `backslashesAtEnd`: what matters of a comment.
- `length_lt_of_readString`: what is read is longer than its value.
- `readString_of_stays`, `stays_of_readString`: the texts that are their own value.
- `readString_body`: the texts that are ended by the mark after them.
- `quoteComment_isLiteral_iff`: which comments are read as they were written.
-/

namespace CatalogDdl.Ddl

/-- Whether a text is one string literal of a given value. Whatever follows it, except for a
mark, is left by a reader. -/
def IsLiteral (text value : List Char) : Prop :=
  ∀ rest : List Char, (∀ c ∈ rest.head?, ¬ IsStringMark c) →
    readLiteral (text ++ rest) = some (value, rest)

/-- Whether two single quotes are in one line of a text. -/
def QuotesInLine (cs : List Char) : Prop :=
  ∃ front between back, cs = front ++ apostrophe :: (between ++ apostrophe :: back) ∧
    '\n' ∉ between

/-- Whether every backslash of a text is in front of a percent sign or an underscore. -/
def BackslashesStay (cs : List Char) : Prop :=
  ∀ front back, cs = front ++ backslash :: back → back.head? = some '%' ∨ back.head? = some '_'

/-- How many backslashes a text ends with. -/
def backslashesAtEnd (cs : List Char) : Nat := (cs.reverse.takeWhile (· = backslash)).length

variable {mark c d : Char} {cs value rest : List Char}

/-! ## Quotes -/

/-- A quote is closed in its line if the next one comes before the line ends. -/
theorem closesInLine_iff :
    closesInLine cs = true ↔ ∃ between back, cs = between ++ apostrophe :: back ∧ '\n' ∉ between := by
  induction cs with
  | nil => simp [closesInLine]
  | cons c cs ih =>
    rw [closesInLine, Bool.or_eq_true, Bool.and_eq_true, beq_iff_eq, bne_iff_ne, ih]
    constructor
    · rintro (rfl | ⟨hc, between, back, rfl, hbetween⟩)
      · exact ⟨[], cs, rfl, List.not_mem_nil⟩
      · exact ⟨c :: between, back, rfl, fun h => (List.mem_cons.mp h).elim (hc ·.symm) hbetween⟩
    · rintro ⟨between, back, heq, hbetween⟩
      cases between with
      | nil => exact .inl (List.cons.inj heq).1
      | cons b between =>
        obtain ⟨rfl, rfl⟩ := List.cons.inj heq
        exact .inr ⟨fun h => hbetween (h ▸ List.mem_cons_self ..), between, back, rfl,
          fun h => hbetween (List.mem_cons_of_mem _ h)⟩

/-- The search finds two quotes in one line if there are any. -/
theorem hasQuotedRun_iff : hasQuotedRun cs = true ↔ QuotesInLine cs := by
  induction cs with
  | nil => simp [hasQuotedRun, QuotesInLine]
  | cons c cs ih =>
    rw [hasQuotedRun, Bool.or_eq_true, Bool.and_eq_true, beq_iff_eq, closesInLine_iff, ih]
    constructor
    · rintro (⟨rfl, between, back, rfl, hbetween⟩ | ⟨front, between, back, rfl, hbetween⟩)
      · exact ⟨[], between, back, rfl, hbetween⟩
      · exact ⟨c :: front, between, back, rfl, hbetween⟩
    · rintro ⟨front, between, back, heq, hbetween⟩
      cases front with
      | nil =>
        obtain ⟨rfl, rfl⟩ := List.cons.inj heq
        exact .inl ⟨rfl, between, back, rfl, hbetween⟩
      | cons a front =>
        obtain ⟨rfl, rfl⟩ := List.cons.inj heq
        exact .inr ⟨front, between, back, rfl, hbetween⟩

instance : DecidablePred QuotesInLine := fun _ => decidable_of_iff _ hasQuotedRun_iff

/-- Double quotes have become single ones. -/
theorem doubleQuote_not_mem_straighten (cs : List Char) : doubleQuote ∉ straighten cs := by
  intro h
  obtain ⟨c, -, hc⟩ := List.mem_map.mp h
  split at hc
  · exact absurd hc (by decide)
  · contradiction

/-! ## Backslashes -/

/-- The first character of a text is looked at with the one after it. -/
theorem backslashesStay_cons_iff :
    BackslashesStay (c :: cs) ↔
      (c = backslash → cs.head? = some '%' ∨ cs.head? = some '_') ∧ BackslashesStay cs := by
  constructor
  · intro h
    refine ⟨?_, fun front back heq => h (c :: front) back (congrArg (c :: ·) heq)⟩
    rintro rfl
    exact h [] cs rfl
  · rintro ⟨hc, hcs⟩ front back heq
    cases front with
    | nil =>
      obtain ⟨rfl, rfl⟩ := List.cons.inj heq
      exact hc rfl
    | cons a front => exact hcs front back (List.cons.inj heq).2

theorem backslashesStay_nil : BackslashesStay [] := fun front back heq => by simp at heq

instance decidableBackslashesStay : DecidablePred BackslashesStay
  | [] => isTrue backslashesStay_nil
  | _ :: cs =>
    have := decidableBackslashesStay cs
    decidable_of_iff _ backslashesStay_cons_iff.symm

/-- Of a backslash and the character after it the value has both, or one character. -/
theorem escapeValue_cases (c : Char) :
    ((c = '%' ∨ c = '_') ∧ escapeValue c = [backslash, c]) ∨ ∃ d, escapeValue c = [d] := by
  unfold escapeValue
  split
  case h_7 => exact .inl ⟨.inl rfl, rfl⟩
  case h_8 => exact .inl ⟨.inr rfl, rfl⟩
  all_goals exact .inr ⟨_, rfl⟩

/-- A character in front counts only in a text of nothing but backslashes. -/
theorem backslashesAtEnd_cons (c : Char) (cs : List Char) :
    backslashesAtEnd (c :: cs) =
      if backslashesAtEnd cs = cs.length ∧ c = backslash then cs.length + 1
      else backslashesAtEnd cs := by
  unfold backslashesAtEnd
  rw [List.reverse_cons, List.takeWhile_append, List.length_reverse]
  by_cases hall : (cs.reverse.takeWhile (· = backslash)).length = cs.length
  · by_cases hc : c = backslash
    · rw [if_pos hall, if_pos ⟨hall, hc⟩, List.length_append, List.length_reverse, hc]
      rfl
    · rw [if_pos hall, if_neg (fun h => hc h.2), hall,
        List.takeWhile_cons_of_neg (by simpa using hc), List.append_nil, List.length_reverse]
  · rw [if_neg hall, if_neg (fun h => hall h.1)]

theorem backslashesAtEnd_le (cs : List Char) : backslashesAtEnd cs ≤ cs.length := by
  rw [← List.length_reverse]
  exact (List.takeWhile_prefix _).length_le

/-- A backslash and the character after it do not change whether their number is even. -/
theorem even_backslashesAtEnd_pair (d : Char) (cs : List Char) :
    Even (backslashesAtEnd (backslash :: d :: cs)) ↔ Even (backslashesAtEnd cs) := by
  have hpair := backslashesAtEnd_cons backslash (d :: cs)
  have hcons := backslashesAtEnd_cons d cs
  by_cases hall : backslashesAtEnd cs = cs.length ∧ d = backslash
  · rw [if_pos hall] at hcons
    rw [if_pos ⟨hcons, rfl⟩, List.length_cons] at hpair
    rw [hpair, hall.1, Nat.even_add_one, Nat.even_add_one, not_not]
  · -- not all of the text is backslashes, so those at its end are the same
    rw [if_neg hall] at hcons
    have hle := backslashesAtEnd_le cs
    have hsome : ¬ (backslashesAtEnd (d :: cs) = (d :: cs).length ∧ backslash = backslash) := by
      rw [hcons, List.length_cons]
      omega
    rw [hpair, if_neg hsome, hcons]

/-! ## Reading -/

/-- A string takes more characters than its value has. -/
theorem length_lt_of_readString (h : readString mark cs = some (value, rest)) :
    value.length + rest.length < cs.length := by
  fun_induction readString mark cs generalizing value with
  | case1 => cases h
  | case2 => cases h
  | case3 c cs ih =>
    obtain ⟨r, hr, heq⟩ := Option.map_eq_some_iff.mp h
    cases heq
    have hrest := ih hr
    -- two characters were read for the at most two of the value
    have hvalue : (escapeValue c).length ≤ 2 := by
      rcases escapeValue_cases c with ⟨-, heq⟩ | ⟨d, heq⟩ <;> simp [heq]
    simp only [List.length_append, List.length_cons]
    omega
  | case4 =>
    cases h
    exact Nat.zero_lt_one
  | case5 cs _ ih =>
    obtain ⟨r, hr, heq⟩ := Option.map_eq_some_iff.mp h
    cases heq
    have hrest := ih hr
    simp only [List.length_cons]
    omega
  | case6 =>
    cases h
    simp
  | case7 c cs _ _ ih =>
    obtain ⟨r, hr, heq⟩ := Option.map_eq_some_iff.mp h
    cases heq
    have hrest := ih hr
    simp only [List.length_cons]
    omega

/-- A mark is no backslash. -/
theorem ne_backslash_of_isStringMark (h : IsStringMark mark) : mark ≠ backslash := by
  rcases h with rfl | rfl <;> decide

/-- Nor is it one of the characters that keep theirs. -/
theorem ne_wildcard_of_isStringMark (h : IsStringMark mark) (hd : d = '%' ∨ d = '_') : mark ≠ d := by
  rcases h with rfl | rfl <;> rcases hd with rfl | rfl <;> decide

/-- A text is taken apart as it is read: a backslash goes with the character after it. -/
@[elab_as_elim]
theorem escapeInduction {motive : List Char → Prop} (nil : motive []) (alone : motive [backslash])
    (pair : ∀ d cs, motive cs → motive (backslash :: d :: cs))
    (char : ∀ c cs, c ≠ backslash → motive cs → motive (c :: cs)) (cs : List Char) : motive cs := by
  by_cases hstart : ∃ rest, cs = backslash :: rest
  · obtain ⟨rest, rfl⟩ := hstart
    cases rest with
    | nil => exact alone
    | cons d rest => exact pair d rest (escapeInduction nil alone pair char rest)
  · cases cs with
    | nil => exact nil
    | cons c cs =>
      have hc : c ≠ backslash := fun heq => hstart ⟨cs, congrArg (· :: cs) heq⟩
      exact char c cs hc (escapeInduction nil alone pair char cs)
termination_by cs.length

/-- A text whose backslashes stay is its own value. -/
theorem readString_of_stays (hmark : IsStringMark mark) (hmem : mark ∉ cs)
    (hstays : BackslashesStay cs) (hrest : rest.head? ≠ some mark) :
    readString mark (cs ++ mark :: rest) = some (cs, rest) := by
  induction cs using escapeInduction with
  | nil => exact readString_mark (ne_backslash_of_isStringMark hmark) hrest
  | alone => exact absurd (hstays [] [] rfl) (by simp)
  | pair d cs ih =>
    have hwild : d = '%' ∨ d = '_' := by simpa using hstays [] (d :: cs) rfl
    obtain ⟨-, hvalue⟩ | ⟨e, he⟩ := escapeValue_cases d
    · have hcs : BackslashesStay cs :=
        (backslashesStay_cons_iff.mp (backslashesStay_cons_iff.mp hstays).2).2
      have hmem' : mark ∉ cs := fun h => hmem (by simp [h])
      rw [List.cons_append, List.cons_append, readString_backslash, ih hmem' hcs, hvalue]
      rfl
    · rcases hwild with rfl | rfl <;> cases he
  | char c cs hc ih =>
    obtain ⟨hne, hmem'⟩ := not_or.mp (mt List.mem_cons.mpr hmem)
    rw [List.cons_append, readString_cons hc (Ne.symm hne),
      ih hmem' (backslashesStay_cons_iff.mp hstays).2]
    rfl

/-- A mark in front of a text is its end, or is one character with another mark. -/
theorem readString_mark_append_ne (hmark : IsStringMark mark) (cs : List Char) :
    readString mark (mark :: (cs ++ [mark])) ≠ some (mark :: cs, []) := by
  intro h
  have hne := ne_backslash_of_isStringMark hmark
  obtain ⟨e, es, hes⟩ : ∃ e es, cs ++ [mark] = e :: es :=
    List.exists_cons_of_ne_nil (List.append_ne_nil_of_right_ne_nil _ (List.cons_ne_nil _ _))
  rw [hes] at h
  -- two marks are one character, after which the rest would have to be longer than it is
  by_cases he : e = mark
  · subst he
    rw [readString_mark_mark hne] at h
    obtain ⟨r, hr, heq⟩ := Option.map_eq_some_iff.mp h
    have hlength := length_lt_of_readString hr
    rw [(List.cons.inj (Prod.mk.inj heq).1).2] at hlength
    have hshort := congrArg List.length hes
    simp only [List.length_append, List.length_cons, List.length_nil] at hshort
    omega
  · have hnext : (e :: es).head? ≠ some mark := fun heq => he (Option.some.inj heq)
    rw [readString_mark hne hnext] at h
    cases h

/-- No other text is its own value. -/
theorem stays_of_readString (hmark : IsStringMark mark)
    (h : readString mark (cs ++ [mark]) = some (cs, [])) : mark ∉ cs ∧ BackslashesStay cs := by
  have hne := ne_backslash_of_isStringMark hmark
  induction cs using escapeInduction with
  | nil => exact ⟨List.not_mem_nil, backslashesStay_nil⟩
  | alone => cases h
  | pair d cs ih =>
    rw [List.cons_append, List.cons_append, readString_backslash] at h
    obtain ⟨r, hr, heq⟩ := Option.map_eq_some_iff.mp h
    obtain ⟨hvalue, hrest⟩ := Prod.mk.inj heq
    have hlength := length_lt_of_readString hr
    rw [List.length_append, List.length_singleton] at hlength
    obtain ⟨hwild, hescape⟩ | ⟨e, hescape⟩ := escapeValue_cases d
    · rw [hescape] at hvalue
      obtain rfl : r.1 = cs := by simpa using hvalue
      obtain ⟨hmem, hstays⟩ := ih (by rw [hr, ← hrest])
      refine ⟨fun hin => ?_, ?_⟩
      · simp only [List.mem_cons] at hin
        rcases hin with hin | hin | hin
        · exact hne hin
        · exact ne_wildcard_of_isStringMark hmark hwild hin
        · exact hmem hin
      · refine backslashesStay_cons_iff.mpr ⟨fun _ => by simpa using hwild, ?_⟩
        refine backslashesStay_cons_iff.mpr ⟨?_, hstays⟩
        rintro rfl
        exact absurd hwild (by decide)
    · -- the value has lost a character, so it is too short
      rw [hescape] at hvalue
      have hshort := congrArg List.length hvalue
      simp only [List.length_append, List.length_cons, List.length_nil] at hshort
      omega
  | char c cs hc ih =>
    by_cases hcm : c = mark
    · subst hcm
      exact absurd h (readString_mark_append_ne hmark cs)
    · rw [List.cons_append, readString_cons hc hcm] at h
      obtain ⟨r, hr, heq⟩ := Option.map_eq_some_iff.mp h
      obtain ⟨hvalue, hrest⟩ := Prod.mk.inj heq
      obtain ⟨hmem, hstays⟩ := ih (by rw [hr, ← hrest, ← (List.cons.inj hvalue).2])
      refine ⟨fun hin => ?_, backslashesStay_cons_iff.mpr ⟨fun heq => absurd heq hc, hstays⟩⟩
      rcases List.mem_cons.mp hin with hin | hin
      · exact hcm hin.symm
      · exact hmem hin

/-- The mark after a text ends the string, unless a backslash takes it along. -/
theorem readString_body (hmark : IsStringMark mark) (hmem : mark ∉ cs) :
    (Even (backslashesAtEnd cs) → ∃ value, ∀ rest : List Char, rest.head? ≠ some mark →
      readString mark (cs ++ mark :: rest) = some (value, rest)) ∧
    (¬ Even (backslashesAtEnd cs) → readString mark (cs ++ [mark]) = none) := by
  induction cs using escapeInduction with
  | nil =>
    refine ⟨fun _ => ⟨[], fun rest hrest => ?_⟩, fun h => absurd (by decide) h⟩
    exact readString_mark (ne_backslash_of_isStringMark hmark) hrest
  -- a backslash alone takes the mark, so nothing is left that could end the string
  | alone => exact ⟨fun h => absurd h (by decide), fun _ => rfl⟩
  | pair d cs ih =>
    obtain ⟨hends, hopen⟩ := ih fun h => hmem (by simp [h])
    rw [even_backslashesAtEnd_pair]
    refine ⟨fun heven => ?_, fun hodd => ?_⟩
    · obtain ⟨value, hvalue⟩ := hends heven
      refine ⟨escapeValue d ++ value, fun rest hrest => ?_⟩
      rw [List.cons_append, List.cons_append, readString_backslash, hvalue rest hrest]
      rfl
    · rw [List.cons_append, List.cons_append, readString_backslash, hopen hodd]
      rfl
  | char c cs hc ih =>
    obtain ⟨hne, hmem'⟩ := not_or.mp (mt List.mem_cons.mpr hmem)
    obtain ⟨hends, hopen⟩ := ih hmem'
    have hsame : backslashesAtEnd (c :: cs) = backslashesAtEnd cs := by
      rw [backslashesAtEnd_cons, if_neg fun h => hc h.2]
    rw [hsame]
    refine ⟨fun heven => ?_, fun hodd => ?_⟩
    · obtain ⟨value, hvalue⟩ := hends heven
      refine ⟨c :: value, fun rest hrest => ?_⟩
      rw [List.cons_append, readString_cons hc (Ne.symm hne), hvalue rest hrest]
      rfl
    · rw [List.cons_append, readString_cons hc (Ne.symm hne), hopen hodd]
      rfl

/-! ## Comments -/

/-- A comment between its marks is read as a string with that mark. -/
theorem exists_mark_quoteComment (s : String) :
    ∃ mark, IsStringMark mark ∧
      (mark ∉ straighten s.toList ↔
        apostrophe ∉ straighten s.toList ∨ QuotesInLine (straighten s.toList)) ∧
      ∀ rest, readLiteral ((quoteComment s).toList ++ rest) =
        readString mark (straighten s.toList ++ mark :: rest) := by
  have hread : ∀ mark, IsStringMark mark → ∀ rest,
      readLiteral (mark :: (straighten s.toList ++ [mark]) ++ rest) =
        readString mark (straighten s.toList ++ mark :: rest) := by
    intro mark hmark rest
    rw [List.cons_append, List.append_assoc, List.singleton_append, readLiteral, if_pos hmark]
  rw [quoteComment, String.toList_ofList, quoteCommentChars]
  cases hrun : hasQuotedRun (straighten s.toList) with
  | true =>
    refine ⟨doubleQuote, .inr rfl, ?_, hread doubleQuote (.inr rfl)⟩
    exact iff_of_true (doubleQuote_not_mem_straighten _) (.inr (hasQuotedRun_iff.mp hrun))
  | false =>
    refine ⟨apostrophe, .inl rfl, ?_, hread apostrophe (.inl rfl)⟩
    exact (or_iff_left fun h => by rw [hasQuotedRun_iff.mpr h] at hrun; cases hrun).symm

/-- **Which comments are read as they were written.** A comment with its double quotes turned into
single ones is read as the value of one string literal, whatever follows it, iff it has no single
quotes, or two of them in one line, and all of its backslashes are in front of a percent sign or an
underscore. If it is only the backslashes that are wrong, the literal is still one, with
another value, iff there is an even number of them at the end. -/
theorem quoteComment_isLiteral_iff (s : String) :
    (IsLiteral (quoteComment s).toList (straighten s.toList) ↔
      (apostrophe ∉ straighten s.toList ∨ QuotesInLine (straighten s.toList)) ∧
        BackslashesStay (straighten s.toList)) ∧
    (apostrophe ∉ straighten s.toList ∨ QuotesInLine (straighten s.toList) →
      ((∃ value, IsLiteral (quoteComment s).toList value) ↔
        Even (backslashesAtEnd (straighten s.toList)))) := by
  obtain ⟨mark, hmark, hmem, hread⟩ := exists_mark_quoteComment s
  have hhead : ∀ {rest : List Char}, (∀ c ∈ rest.head?, ¬ IsStringMark c) →
      rest.head? ≠ some mark := fun h heq => h mark heq hmark
  rw [← hmem]
  refine ⟨⟨fun h => ?_, fun ⟨hnot, hstays⟩ rest hrest => ?_⟩, fun hnot => ⟨?_, fun heven => ?_⟩⟩
  · have hself := h [] nofun
    rw [hread] at hself
    exact stays_of_readString hmark hself
  · rw [hread]
    exact readString_of_stays hmark hnot hstays (hhead hrest)
  · rintro ⟨value, hvalue⟩
    by_contra hodd
    have hnone := hvalue [] nofun
    rw [hread, (readString_body hmark hnot).2 hodd] at hnone
    cases hnone
  · obtain ⟨value, hvalue⟩ := (readString_body hmark hnot).1 heven
    refine ⟨value, fun rest hrest => ?_⟩
    rw [hread]
    exact hvalue rest (hhead hrest)

/-- A backslash in front of a percent sign stays, with quotes in the comment. -/
theorem quoteComment_wildcard_isLiteral :
    quoteComment "50\\% \"net\"" = "\"50\\% 'net'\"" ∧
      QuotesInLine (straighten "50\\% \"net\"".toList) ∧
      IsLiteral (quoteComment "50\\% \"net\"").toList "50\\% 'net'".toList ∧
      ∃ value, IsLiteral (quoteComment "50\\% \"net\"").toList value := by
  obtain ⟨hsame, hends⟩ := quoteComment_isLiteral_iff "50\\% \"net\""
  have hquotes : QuotesInLine (straighten "50\\% \"net\"".toList) := by decide
  exact ⟨by decide, hquotes, hsame.mpr ⟨.inr hquotes, by decide⟩, (hends (.inr hquotes)).mpr (by decide)⟩

/-- A backslash at the end takes the last mark along, and one in front of a letter is lost. -/
theorem quoteComment_backslash_lost :
    (QuotesInLine (straighten "'a'\\".toList) ∧
      ¬ ∃ value, IsLiteral (quoteComment "'a'\\").toList value) ∧
    apostrophe ∉ straighten "C:\\new".toList ∧
      readLiteral (quoteComment "C:\\new").toList = some ("C:\new".toList, []) ∧
      ¬ IsLiteral (quoteComment "C:\\new").toList (straighten "C:\\new".toList) := by
  have hopen : readLiteral (quoteComment "'a'\\").toList = none := by
    decide +kernel
  have hother : readLiteral (quoteComment "C:\\new").toList = some ("C:\new".toList, []) := by
    decide +kernel
  refine ⟨⟨by decide, ?_⟩, by decide, hother, fun h => ?_⟩
  · rintro ⟨value, hvalue⟩
    have hclosed := hvalue [] nofun
    rw [List.append_nil, hopen] at hclosed
    cases hclosed
  · have hsame := h [] nofun
    rw [List.append_nil, hother] at hsame
    exact absurd hsame (by decide)

end CatalogDdl.Ddl
