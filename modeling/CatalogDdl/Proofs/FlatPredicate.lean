import CatalogDdl.Proofs.CheckSegments

/-!
# What remains of a flat predicate

A predicate is flat if it is a sequence of clauses with an AND or OR between neighbours.
Its operators divide its words into these clauses again, and what remains of it is flat,
too: it has the clauses that do not contain IS NOT NULL, in the order in which they were,
each with the operator that was in front of it. Only the operator of the first one goes.

- `tokens`: the words that some clauses are written with.
- `segments_tokens`, `keeps_segment`: a segment of a flat predicate is a clause with its
  operator, and the operator does not matter for whether it stays.
- `residueWords_tokens`: taking the clauses out of the words.
- `joinsClauses_of_tokens`: the words of two or more clauses are looked at.
- `words_of_residue?`, `residue?_eq_none_iff`: the words of what remains, and when
  nothing does.
-/

namespace CatalogDdl.Ddl

/-- A clause of a flat predicate and the operator in front of it. The one in front of the
first clause is not written. -/
structure Clause where
  operator : Word
  words : List Word
  isOperator_operator : isOperator operator = true
  words_ne_nil : words ≠ []
  not_isOperator : ∀ w ∈ words, isOperator w = false

namespace Clause

/-- Whether OR is in front of a clause, and not AND. -/
def isOr (c : Clause) : Bool := Text.lowerAscii c.operator == ['o', 'r']

/-- Whether a clause contains IS NOT NULL. -/
def isNotNull (c : Clause) : Bool := isNotNullClause (Text.joinCharsWith [' '] c.words)

/-- A clause with the operator in front of it. -/
def segment (c : Clause) : List Word := c.operator :: c.words

/-- Whether a clause of a predicate is among those that remain, if any do. A single clause
is not looked at word by word. -/
def staysIn (cs : List Clause) (c : Clause) : Bool := cs.length == 1 || !c.isNotNull

end Clause

/-- The words that a sequence of clauses is written with. -/
def tokens : List Clause → List Word
  | [] => []
  | c :: cs => c.words ++ cs.flatMap Clause.segment

/-! ## The words of clauses -/

/-- Only no clauses have no words, for no clause is empty. -/
theorem tokens_eq_nil_iff {cs : List Clause} : tokens cs = [] ↔ cs = [] := by
  cases cs with
  | nil => exact ⟨fun _ => rfl, fun _ => rfl⟩
  | cons c cs =>
    exact ⟨fun h => absurd (List.append_eq_nil_iff.mp h).1 c.words_ne_nil, fun h => nomatch h⟩

/-- A flat predicate ends with the words of a clause. -/
theorem exists_tokens_eq_append {cs : List Clause} (h : cs ≠ []) :
    ∃ front, ∃ d : Clause, tokens cs = front ++ d.words := by
  obtain ⟨c, cs, rfl⟩ := List.exists_cons_of_ne_nil h
  -- the last clause is the first one, or it has its operator in front of it
  rcases List.eq_nil_or_concat' cs with rfl | ⟨cs, d, rfl⟩
  · exact ⟨[], c, List.append_nil _⟩
  · refine ⟨c.words ++ cs.flatMap Clause.segment ++ [d.operator], d, ?_⟩
    simp [tokens, Clause.segment]

/-- A flat predicate does not start with an operator. -/
theorem not_isOperator_head (cs : List Clause) :
    ∀ w ∈ (tokens cs).head?, isOperator w = false := by
  intro w hw
  cases cs with
  | nil => cases hw
  | cons c cs =>
    rw [tokens, List.head?_append_of_ne_nil _ c.words_ne_nil] at hw
    exact c.not_isOperator w (List.mem_of_mem_head? hw)

/-- A flat predicate does not end with an operator. -/
theorem not_isOperator_last (cs : List Clause) :
    ∀ w ∈ (tokens cs).getLast?, isOperator w = false := by
  intro w hw
  by_cases h : cs = []
  · rw [h] at hw
    cases hw
  · obtain ⟨front, d, hcs⟩ := exists_tokens_eq_append h
    rw [hcs, List.getLast?_append_of_ne_nil _ d.words_ne_nil] at hw
    exact d.not_isOperator w (List.mem_of_mem_getLast? hw)

/-! ## Cutting words at operators -/

/-- Clauses with their operators are cut into these again, behind nothing. -/
theorem segments_flatMap (cs : List Clause) :
    segments (cs.flatMap Clause.segment) = [] :: cs.map Clause.segment := by
  rw [List.flatMap_def]
  refine segments_flatten fun s hs => ?_
  obtain ⟨c, -, rfl⟩ := List.mem_map.mp hs
  exact ⟨c.operator, c.words, rfl, c.isOperator_operator, c.not_isOperator⟩

/-- The segments of a flat predicate are its clauses. -/
theorem segments_tokens (c : Clause) (cs : List Clause) :
    segments (tokens (c :: cs)) = c.words :: cs.map Clause.segment := by
  rw [tokens, segments_append c.not_isOperator (segments_flatMap cs), List.append_nil]

/-- IS NOT NULL is not looked for where neither its first letter nor a line end is. -/
theorem isNotNullClause_append {front : List Char}
    (h : ∀ c ∈ front, c ≠ '\n' ∧ foldChar c ≠ 'i') (cs : List Char) :
    isNotNullClause (front ++ cs) = isNotNullClause cs := by
  -- a character that does not fold to i starts no IS NOT NULL, and no line ends before the rest
  induction front with
  | nil => rfl
  | cons c front ih =>
    obtain ⟨hline, hfirst⟩ := h c (List.mem_cons_self ..)
    rw [← ih fun d hd => h d (List.mem_cons_of_mem _ hd)]
    have hstarts : notNullTest.isPrefixOf
        (foldChar c :: ((front ++ cs).takeWhile (· != '\n')).map foldChar) = false := by
      rw [notNullTest, List.isPrefixOf_cons_cons, beq_eq_false_iff_ne.mpr (Ne.symm hfirst)]
      rfl
    rw [isNotNullClause, isNotNullClause, List.cons_append,
      List.takeWhile_cons_of_pos (by simpa using hline), List.map_cons, Text.containsChars, hstarts]
    rfl

/-- The operator in front of a clause does not matter for whether the clause stays. -/
theorem keeps_segment (c : Clause) : keeps c.segment = !c.isNotNull := by
  obtain ⟨w, ws, hws⟩ := List.exists_cons_of_ne_nil c.words_ne_nil
  have hjoin : Text.joinCharsWith [' '] c.segment =
      c.operator ++ [' '] ++ Text.joinCharsWith [' '] c.words := by
    rw [Clause.segment, hws]
    rfl
  -- what is in front of the clause is AND or OR and a space, with no letter i in any case
  have hfront : ∀ d ∈ c.operator ++ [' '], d ≠ '\n' ∧ foldChar d ≠ 'i' := by
    intro d hd
    rcases List.mem_append.mp hd with hd | hd
    · have hletter := mem_letters_of_isOperator c.isOperator_operator hd
      refine ⟨?_, ?_⟩
      · rintro rfl
        exact absurd hletter (by decide)
      · unfold foldChar
        split
        · decide
        · intro hi
          rw [hi] at hletter
          exact absurd hletter (by decide)
    · rw [List.mem_singleton.mp hd]
      decide
  rw [keeps, hjoin, isNotNullClause_append hfront, Clause.isNotNull]

/-! ## Taking clauses out of words -/

/-- There is no operator at either end of a flat predicate, so none is dropped. -/
theorem dropLeadingOperator_tokens (cs : List Clause) :
    dropLeadingOperator (tokens cs) = tokens cs := by
  have hhead := not_isOperator_head cs
  cases htokens : tokens cs with
  | nil => rfl
  | cons w ws =>
    rw [htokens] at hhead
    exact if_neg (Bool.eq_false_iff.mp (hhead w rfl))

theorem dropTrailingOperator_tokens (cs : List Clause) :
    dropTrailingOperator (tokens cs) = tokens cs := by
  have hlast := not_isOperator_last cs
  rw [dropTrailingOperator]
  cases h : (tokens cs).getLast? with
  | none => rfl
  | some w => exact if_neg (Bool.eq_false_iff.mp (hlast w h))

/-- If the first clause is gone, the operator of the next one is dropped. -/
theorem dropLeadingOperator_flatMap (cs : List Clause) :
    dropLeadingOperator (cs.flatMap Clause.segment) = tokens cs := by
  cases cs with
  | nil => rfl
  | cons c cs => exact if_pos c.isOperator_operator

/-- The words of the clauses that stay are left of the words of all clauses. -/
theorem residueWords_tokens (cs : List Clause) :
    residueWords (tokens cs) = tokens (cs.filter (!·.isNotNull)) := by
  cases cs with
  | nil => rfl
  | cons c cs =>
    have hrest : (cs.map Clause.segment).filter keeps =
        (cs.filter (!·.isNotNull)).map Clause.segment := by
      rw [List.filter_map]
      congr 2
      exact funext keeps_segment
    have hkeep : keeps c.words = !c.isNotNull := rfl
    rw [residueWords, segments_tokens]
    -- the first segment has no operator: if it goes, the first one that stays loses its own
    cases hc : c.isNotNull with
    | true =>
      rw [List.filter_cons_of_neg (by simp [hkeep, hc]), List.filter_cons_of_neg (by simp [hc]),
        hrest, ← List.flatMap_def, dropLeadingOperator_flatMap, dropTrailingOperator_tokens]
    | false =>
      have htokens : (c.words :: (cs.filter (!·.isNotNull)).map Clause.segment).flatten =
          tokens (c :: cs.filter (!·.isNotNull)) := by
        rw [tokens, List.flatMap_def, List.flatten_cons]
      rw [List.filter_cons_of_pos (by simp [hkeep, hc]), List.filter_cons_of_pos (by simp [hc]),
        hrest, htokens, dropLeadingOperator_tokens, dropTrailingOperator_tokens]

/-- The operator in front of the second clause is an inner one. -/
theorem joinsClauses_of_tokens {cs : List Char} {c d : Clause} {rest : List Clause}
    (h : Text.words cs = tokens (c :: d :: rest)) :
    joinsClauses (Text.trimChars cs) = true := by
  refine joinsClauses_trimChars_iff.mpr ⟨c.words, d.operator,
    d.words ++ rest.flatMap Clause.segment, ?_, d.isOperator_operator, c.words_ne_nil,
    List.append_ne_nil_of_left_ne_nil d.words_ne_nil _⟩
  rw [h, tokens, List.flatMap_cons]
  rfl

/-! ## What remains -/

variable {p : String} {c d : Clause} {rest : List Clause}

/-- A single clause stays as it is written, or nothing remains. -/
theorem eq_trim_of_residue? {q : String} (h : Text.words p.toList = tokens [c])
    (hq : residue? p = some q) : q = Text.trim p := by
  rw [← Text.words_trimChars] at h
  have hwords : tokens [c] = c.words := List.append_nil _
  -- no operator is inside, so the text is not looked at word by word
  have hno : joinsClauses (Text.trimChars p.toList) = false :=
    joinsClauses_of_words (by rw [h, hwords]; exact c.not_isOperator)
  rw [residue?_of_not_joinsClauses hno] at hq
  split at hq
  · cases hq
  · exact (Option.some.inj hq).symm

/-- Nothing remains of two or more clauses if all of them contain IS NOT NULL. -/
theorem residue?_eq_none_iff (h : Text.words p.toList = tokens (c :: d :: rest)) :
    residue? p = none ↔ ∀ e ∈ c :: d :: rest, e.isNotNull = true := by
  rw [residue?_eq_none (joinsClauses_of_tokens h), h, residueWords_tokens, tokens_eq_nil_iff,
    List.filter_eq_nil_iff]
  simp

theorem staysIn_cons_cons (c d : Clause) (rest : List Clause) :
    Clause.staysIn (c :: d :: rest) = (!·.isNotNull) := by
  funext e
  simp [Clause.staysIn]

/-- What remains of a flat predicate is the flat predicate of the clauses that stay. -/
theorem words_of_residue? {q : String} (h : Text.words p.toList = tokens (c :: rest))
    (hq : residue? p = some q) :
    Text.words q.toList = tokens ((c :: rest).filter (Clause.staysIn (c :: rest))) := by
  -- a single clause stays as a text, and of several the words of those that stay
  cases rest with
  | nil =>
    rw [eq_trim_of_residue? h hq, Text.trim, String.toList_ofList, Text.words_trimChars, h]
    rfl
  | cons d rest =>
    rw [(residue?_eq_some (joinsClauses_of_tokens h) hq).2, h, residueWords_tokens,
      staysIn_cons_cons]

/-- If something remains, some clause does. -/
theorem filter_staysIn_ne_nil {q : String} (h : Text.words p.toList = tokens (c :: rest))
    (hq : residue? p = some q) : (c :: rest).filter (Clause.staysIn (c :: rest)) ≠ [] := by
  cases rest with
  | nil => exact List.cons_ne_nil _ _
  | cons d rest =>
    rw [staysIn_cons_cons]
    intro hnil
    have hnone : residue? p = none := by
      rw [residue?_eq_none (joinsClauses_of_tokens h), h, residueWords_tokens, hnil]
      rfl
    rw [hnone] at hq
    cases hq

end CatalogDdl.Ddl
