import CatalogDdl.Proofs.ExpressionLiterals
import CatalogDdl.Proofs.Text

/-!
# Pairs of double quotes

Requoting goes through an expression once and keeps the name that it is in. What it does is
told without a state from the pieces between the double quotes: they are in turn outside and
inside of a pair. Whether the last double quote has a partner is a question of how many there
are.

- `pairPieces`: the pieces between double quotes as names and what is between them.
- `flatMap_source_pairPieces`: they are all of the text, each pair around its name.
- `flatMap_written_pairPieces`: requoting writes them with backticks.
- `not_mem_written_pairPieces`, `exists_last_pairPieces`: the double quotes that are left.
- `expressionPieces`, `renderExpression_pairs`: all of it, for an expression in lower case.
-/

namespace CatalogDdl.Ddl

/-- Pieces between double quotes, from the left: one outside of a pair, the next one inside, and
so on. After a double quote without a partner, which is the last one, nothing is a name. -/
def pairPieces : List (List Char) → List Piece
  | [] => []
  | [plain] => [.plain plain]
  | [plain, rest] => [.plain plain, .plain (doubleQuote :: rest)]
  | plain :: name :: piece :: pieces => .plain plain :: .name name :: pairPieces (piece :: pieces)

variable {pieces : List (List Char)}

/-- With its double quotes, a text is its pieces again. -/
theorem flatMap_source_pairPieces (pieces : List (List Char)) :
    (pairPieces pieces).flatMap Piece.source = Text.joinCharsWith [doubleQuote] pieces := by
  -- a step takes two pieces, one outside and one inside of a pair
  fun_induction pairPieces pieces with
  | case1 => rfl
  | case2 plain => exact List.flatMap_singleton ..
  | case3 plain rest => simp [Piece.source, Text.joinCharsWith]
  | case4 plain name piece pieces ih =>
    rw [List.flatMap_cons, List.flatMap_cons, ih, Piece.source_name_append]
    simp [Piece.source, Text.joinCharsWith]

/-- **Requoting pairs double quotes from the left.** -/
theorem flatMap_written_pairPieces (h : ∀ p ∈ pieces, doubleQuote ∉ p) :
    (pairPieces pieces).flatMap Piece.written =
      requote none (Text.joinCharsWith [doubleQuote] pieces) := by
  fun_induction pairPieces pieces with
  | case1 => rfl
  | case2 plain =>
    have hplain : plain.count doubleQuote = 0 :=
      List.count_eq_zero.mpr (h plain (List.mem_singleton_self plain))
    rw [Text.joinCharsWith, requote_of_count_le_one (by omega), List.flatMap_singleton, Piece.written]
  | case3 plain rest =>
    obtain ⟨hplain, hpieces⟩ := List.forall_mem_cons.mp h
    have hrest : doubleQuote ∉ rest := hpieces rest (List.mem_singleton_self rest)
    -- the last double quote has no partner, so it stays, and so does what follows it
    have hlone : requote none (doubleQuote :: rest) = doubleQuote :: rest := by
      rw [requote, if_pos rfl, requote_some_of_not_mem hrest]
      rfl
    rw [Text.joinCharsWith, Text.joinCharsWith, List.append_assoc, List.singleton_append,
      requote_append hplain, hlone]
    simp [Piece.written]
  | case4 plain name piece pieces ih =>
    simp only [List.forall_mem_cons] at h
    obtain ⟨hplain, hname, hpiece, hpieces⟩ := h
    have hrest : ∀ p ∈ piece :: pieces, doubleQuote ∉ p := List.forall_mem_cons.mpr ⟨hpiece, hpieces⟩
    -- requoting is outside of a name again behind the pair
    rw [Text.joinCharsWith, Text.joinCharsWith, List.append_assoc, List.append_assoc,
      List.singleton_append, List.singleton_append, requote_append hplain, requote_name hname,
      ← ih hrest]
    rfl

/-- What is read as a name is one of the pieces. -/
theorem mem_of_name_mem_pairPieces {name : List Char} (h : .name name ∈ pairPieces pieces) :
    name ∈ pieces := by
  fun_induction pairPieces pieces with
  | case1 => cases h
  | case2 plain => simp at h
  | case3 plain rest => simp at h
  | case4 plain n piece pieces ih =>
    rcases List.mem_cons.mp h with heq | h
    · cases heq
    · rcases List.mem_cons.mp h with heq | h
      · cases heq
        exact List.mem_cons_of_mem _ (List.mem_cons_self ..)
      · exact List.mem_cons_of_mem _ (List.mem_cons_of_mem _ (ih h))

/-- No double quote comes from a pair. -/
theorem not_mem_quoteChars {cs : List Char} (h : doubleQuote ∉ cs) : doubleQuote ∉ quoteChars cs := by
  have hne : backtick ≠ doubleQuote := by decide
  rw [← List.count_eq_zero] at h ⊢
  rw [quoteChars, List.count_cons_of_ne hne, List.count_append, count_doubled_of_ne hne.symm, h,
    List.count_cons_of_ne hne, List.count_nil]

/-- If all double quotes are in pairs, none is left. -/
theorem not_mem_written_pairPieces (h : ∀ p ∈ pieces, doubleQuote ∉ p)
    (hodd : pieces.length % 2 = 1) : doubleQuote ∉ (pairPieces pieces).flatMap Piece.written := by
  fun_induction pairPieces pieces with
  | case1 => exact List.not_mem_nil
  | case2 plain =>
    rw [List.flatMap_singleton]
    exact h plain (List.mem_singleton_self plain)
  | case3 plain rest => exact absurd hodd (by simp)
  | case4 plain name piece pieces ih =>
    simp only [List.forall_mem_cons] at h
    obtain ⟨hplain, hname, hpiece, hpieces⟩ := h
    -- two pieces less leave the number of pieces odd
    have hlength : (plain :: name :: piece :: pieces).length = (piece :: pieces).length + 2 := rfl
    have hrest := ih (List.forall_mem_cons.mpr ⟨hpiece, hpieces⟩) (by omega)
    rw [List.flatMap_cons, List.flatMap_cons, List.mem_append, List.mem_append, not_or, not_or]
    exact ⟨hplain, not_mem_quoteChars hname, hrest⟩

/-- Otherwise the last one is left, and what follows it. -/
theorem exists_last_pairPieces (h : ∀ p ∈ pieces, doubleQuote ∉ p) (hne : pieces ≠ [])
    (heven : pieces.length % 2 = 0) :
    ∃ before front last, doubleQuote ∉ front ∧ doubleQuote ∉ last ∧
      Text.joinCharsWith [doubleQuote] pieces = before ++ doubleQuote :: last ∧
      (pairPieces pieces).flatMap Piece.written = front ++ doubleQuote :: last := by
  fun_induction pairPieces pieces with
  | case1 => exact absurd rfl hne
  | case2 plain => cases heven
  | case3 plain rest =>
    simp only [List.forall_mem_cons] at h
    obtain ⟨hplain, hrest, -⟩ := h
    exact ⟨plain, plain, rest, hplain, hrest, List.append_assoc .., by simp [Piece.written]⟩
  | case4 plain name piece pieces ih =>
    simp only [List.forall_mem_cons] at h
    obtain ⟨hplain, hname, hpiece, hpieces⟩ := h
    have hlength : (plain :: name :: piece :: pieces).length = (piece :: pieces).length + 2 := rfl
    -- what is left behind the pair ends with the last double quote, in the text and as written
    obtain ⟨before, front, last, hfront, hlast, hjoined, hwritten⟩ :=
      ih (List.forall_mem_cons.mpr ⟨hpiece, hpieces⟩) (List.cons_ne_nil _ _) (by omega)
    refine ⟨plain ++ doubleQuote :: (name ++ doubleQuote :: before),
      plain ++ (quoteChars name ++ front), last, ?_, hlast, ?_, ?_⟩
    · rw [List.mem_append, List.mem_append, not_or, not_or]
      exact ⟨hplain, not_mem_quoteChars hname, hfront⟩
    · rw [Text.joinCharsWith, Text.joinCharsWith, hjoined]
      simp
    · rw [List.flatMap_cons, List.flatMap_cons, hwritten, List.append_assoc, List.append_assoc]
      rfl

/-- The pieces of an indexed expression in lower case. -/
def expressionPieces (e : String) : List Piece :=
  pairPieces (Text.splitAt doubleQuote (Text.lower e).toList)

/-- **The double quotes of an indexed expression** are paired from the left, in the lower case of
it. With backticks in the place of each pair, and those in its name doubled, it is the expression
that is written; nothing else changes. Each name that is written is read back. No double quote is
left if there is an even number of them in the expression, and otherwise one, the last. -/
theorem renderExpression_pairs (e : String) :
    (Text.lower e).toList = (expressionPieces e).flatMap Piece.source ∧
      (renderExpression e).toList = (expressionPieces e).flatMap Piece.written ∧
      (∀ name, .name name ∈ expressionPieces e →
        doubleQuote ∉ name ∧ readName (Piece.name name).written = some (name, [])) ∧
      (e.toList.count doubleQuote % 2 = 0 → doubleQuote ∉ (renderExpression e).toList) ∧
      (e.toList.count doubleQuote % 2 = 1 →
        ∃ before front last, doubleQuote ∉ front ∧ doubleQuote ∉ last ∧
          (Text.lower e).toList = before ++ doubleQuote :: last ∧
          (renderExpression e).toList = front ++ doubleQuote :: last) := by
  -- lower case neither makes nor loses a double quote
  have hcount : (Text.lower e).toList.count doubleQuote = e.toList.count doubleQuote := by
    rw [Text.lower, String.toList_ofList]
    exact (Text.lowersTo_lowerAfter [] e.toList).count_eq isMark_doubleQuote
  -- the pieces have no double quotes in them, and there is one more of them than double quotes
  obtain ⟨hne, hapart, hjoined⟩ := Text.joinCharsWith_splitAt doubleQuote (Text.lower e).toList
  have hlength := Text.length_splitAt doubleQuote (Text.lower e).toList
  have hwritten : (renderExpression e).toList = (expressionPieces e).flatMap Piece.written := by
    rw [expressionPieces, flatMap_written_pairPieces hapart, hjoined, renderExpression, Text.lower,
      String.toList_ofList, String.toList_ofList]
  refine ⟨?_, hwritten, ?_, ?_, ?_⟩
  · rw [expressionPieces, flatMap_source_pairPieces, hjoined]
  · intro name hname
    have hend : ([] : List Char).head? ≠ some backtick := by rintro ⟨⟩
    have hread := readName_quoteChars hend name
    rw [List.append_nil] at hread
    exact ⟨hapart name (mem_of_name_mem_pairPieces hname), hread⟩
  · intro heven
    rw [hwritten]
    exact not_mem_written_pairPieces hapart (by omega)
  · intro hodd
    obtain ⟨before, front, last, hfront, hlast, hsource, htext⟩ :=
      exists_last_pairPieces hapart hne (by omega)
    exact ⟨before, front, last, hfront, hlast, hjoined.symm.trans hsource, hwritten.trans htext⟩

/-- Backticks in a name are doubled, others are not, and the last double quote stays. -/
example : renderExpression "`\"A`\"||\"\"\"b" = "``a```||``\"b" := by decide +kernel

end CatalogDdl.Ddl
