import CatalogDdl.Proofs.CommentLiterals
import CatalogDdl.Proofs.Text

/-!
# Quotes in the lines of a comment

A comment is put between double quotes if one of its lines has two single quotes, and between
single quotes otherwise. Then the single quotes that it still has, one in a line, are marks for a
reader. The first of them ends the literal too early, unless it is the last character of the
comment: then it makes a pair with the mark at the end, and the literal has no end at all.

What a reader makes of the quotes has nothing to do with backslashes, so it is told for one who
knows none of them. Without backslashes in the comment, one who does finds the same.

- `readPlainLiteral`, `IsPlainLiteral`: string literals with doubled marks and no backslashes.
- `FitsItsMarks`: the comments with no single quotes, or two of them in a line.
- `hasQuotedRun_iff_line`: two quotes with no line end between them are two in a line.
- `readPlainLiteral_of_fits`, `readPlainLiteral_of_not_fits`: what is read in either case.
- `quoteComment_fits_iff`: which comments are literals with themselves as their value.
-/

namespace CatalogDdl.Ddl

/-- The value of the string literal that a text starts with, and what follows it, if nothing but a
doubled mark stands for another character. -/
def readPlainLiteral : List Char → Option (List Char × List Char)
  | [] => none
  | c :: cs => if IsStringMark c then readQuoted c cs else none

/-- Whether a text is one string literal of a given value for this reader. Whatever follows it,
except for a mark, is left. -/
def IsPlainLiteral (text value : List Char) : Prop :=
  ∀ rest : List Char, (∀ c ∈ rest.head?, ¬ IsStringMark c) →
    readPlainLiteral (text ++ rest) = some (value, rest)

/-- Whether a comment has no single quotes, or a line with two of them. -/
def FitsItsMarks (cs : List Char) : Prop :=
  apostrophe ∉ cs ∨ ∃ line ∈ Text.splitAt '\n' cs, 2 ≤ line.count apostrophe

variable {mark : Char} {cs ds rest : List Char} {s : String}

/-! ## Lines -/

theorem closesInLine_iff_line {line : List Char} {lines : List (List Char)}
    (h : Text.splitAt '\n' cs = line :: lines) : closesInLine cs = true ↔ apostrophe ∈ line := by
  induction cs generalizing line lines with
  | nil =>
    obtain ⟨rfl, -⟩ := List.cons.inj h
    simp [closesInLine]
  | cons c cs ih =>
    obtain ⟨next, more, hcs⟩ := List.exists_cons_of_ne_nil (Text.joinCharsWith_splitAt '\n' cs).1
    rw [Text.splitAt, hcs] at h
    rw [closesInLine, Bool.or_eq_true, Bool.and_eq_true, beq_iff_eq, bne_iff_ne, ih hcs]
    by_cases hc : c = '\n'
    · rw [if_pos hc] at h
      obtain ⟨rfl, -⟩ := List.cons.inj h
      subst hc
      simp [apostrophe]
    · rw [if_neg hc] at h
      obtain ⟨rfl, -⟩ := List.cons.inj h
      rw [List.mem_cons, eq_comm (a := apostrophe)]
      exact or_congr_right (and_iff_right hc)

/-- Two single quotes without a line end between them are two in one line. -/
theorem hasQuotedRun_iff_line :
    hasQuotedRun cs = true ↔ ∃ line ∈ Text.splitAt '\n' cs, 2 ≤ line.count apostrophe := by
  induction cs with
  | nil => simp [hasQuotedRun, Text.splitAt]
  | cons c cs ih =>
    obtain ⟨next, more, hcs⟩ := List.exists_cons_of_ne_nil (Text.joinCharsWith_splitAt '\n' cs).1
    have hend : ¬ apostrophe = '\n' := by decide
    rw [hasQuotedRun, Bool.or_eq_true, Bool.and_eq_true, beq_iff_eq, closesInLine_iff_line hcs, ih,
      Text.splitAt, hcs]
    by_cases hc : c = apostrophe
    · -- the quote is one more in the next line, and needs one there
      subst hc
      have htwo : 2 ≤ next.count apostrophe + 1 ↔ apostrophe ∈ next := by
        rw [← List.count_pos_iff]
        omega
      have hmem : 2 ≤ next.count apostrophe → apostrophe ∈ next := fun h => htwo.mp (by omega)
      simp only [if_neg hend, List.mem_cons, exists_eq_or_imp, List.count_cons_self, htwo, true_and]
      rw [← or_assoc, or_iff_left_of_imp hmem]
    · by_cases hnew : c = '\n'
      · rw [if_pos hnew]
        simp [hc]
      · rw [if_neg hnew]
        simp [hc]

/-! ## Reading -/

/-- Characters in front of a mark are part of the quotation. -/
theorem readQuoted_append (h : mark ∉ cs) (ds : List Char) :
    readQuoted mark (cs ++ ds) = (readQuoted mark ds).map fun r => (cs ++ r.1, r.2) := by
  induction cs with
  | nil => simp
  | cons c cs ih =>
    obtain ⟨hc, hcs⟩ := not_or.mp (mt List.mem_cons.mpr h)
    rw [List.cons_append, readQuoted_cons (Ne.symm hc), ih hcs, Option.map_map]
    rfl

theorem quoteComment_append
    (hmark : (if hasQuotedRun (straighten s.toList) then doubleQuote else apostrophe) = mark)
    (rest : List Char) :
    (quoteComment s).toList ++ rest = mark :: (straighten s.toList ++ mark :: rest) := by
  subst hmark
  rw [quoteComment, String.toList_ofList, quoteCommentChars, List.cons_append, List.append_assoc,
    List.singleton_append]

/-- A comment that fits its marks is the value of its literal. -/
theorem readPlainLiteral_of_fits (h : FitsItsMarks (straighten s.toList))
    (hrest : ∀ c ∈ rest.head?, ¬ IsStringMark c) :
    readPlainLiteral ((quoteComment s).toList ++ rest) = some (straighten s.toList, rest) := by
  have hread : ∀ mark, IsStringMark mark → mark ∉ straighten s.toList →
      readPlainLiteral (mark :: (straighten s.toList ++ mark :: rest)) =
        some (straighten s.toList, rest) := by
    intro mark hmark hmem
    rw [readPlainLiteral, if_pos hmark, readQuoted_append hmem,
      readQuoted_mark fun heq => hrest mark heq hmark, Option.map_some, List.append_nil]
  by_cases hrun : hasQuotedRun (straighten s.toList) = true
  · rw [quoteComment_append (if_pos hrun)]
    exact hread doubleQuote (.inr rfl) (doubleQuote_not_mem_straighten _)
  · have hmem := h.resolve_right (mt hasQuotedRun_iff_line.mpr hrun)
    rw [quoteComment_append (if_neg hrun)]
    exact hread apostrophe (.inl rfl) hmem

/-- **What is read of any other comment.** The first of its single quotes ends the literal. If
nothing of the comment is behind it, it is one character with the mark at the end, and the literal
goes on in whatever follows. -/
theorem readPlainLiteral_of_not_fits (h : ¬ FitsItsMarks (straighten s.toList)) :
    ∃ front back, straighten s.toList = front ++ apostrophe :: back ∧ apostrophe ∉ front ∧
      (back ≠ [] → ∀ rest, readPlainLiteral ((quoteComment s).toList ++ rest) =
        some (front, back ++ apostrophe :: rest)) ∧
      (back = [] → ∀ rest, readPlainLiteral ((quoteComment s).toList ++ rest) =
        (readQuoted apostrophe rest).map fun r => (front ++ apostrophe :: r.1, r.2)) := by
  obtain ⟨hmem, hlines⟩ := not_or.mp h
  have hrun := mt hasQuotedRun_iff_line.mp hlines
  obtain ⟨front, back, hsplit, hfront⟩ := List.eq_append_cons_of_mem (not_not.mp hmem)
  have hread : ∀ rest, readPlainLiteral ((quoteComment s).toList ++ rest) =
      (readQuoted apostrophe (apostrophe :: (back ++ apostrophe :: rest))).map
        fun r => (front ++ r.1, r.2) := by
    intro rest
    rw [quoteComment_append (if_neg hrun), hsplit, readPlainLiteral, if_pos (.inl rfl),
      List.append_assoc, List.cons_append, readQuoted_append hfront]
  refine ⟨front, back, hsplit, hfront, fun hback rest => ?_, fun hback rest => ?_⟩
  · obtain ⟨b, back, rfl⟩ := List.exists_cons_of_ne_nil hback
    have hb : b ≠ apostrophe := by
      rintro rfl
      exact hrun (hasQuotedRun_iff.mpr ⟨front, [], back, hsplit, List.not_mem_nil⟩)
    have hend : (b :: back ++ apostrophe :: rest).head? ≠ some apostrophe :=
      fun heq => hb (Option.some.inj heq)
    rw [hread, readQuoted_mark hend, Option.map_some, List.append_nil]
  · subst hback
    rw [hread, List.nil_append, readQuoted_mark_mark, Option.map_map]
    rfl

/-- Two quotes in different lines, and one at the end. -/
example : readPlainLiteral (quoteComment "a'\nb'").toList = some (['a'], "\nb''".toList) ∧
    readPlainLiteral (quoteComment "a\nb'").toList = none := by decide +kernel

/-- It is not read as the comment, whatever follows it. -/
theorem readPlainLiteral_ne_of_not_fits (h : ¬ FitsItsMarks (straighten s.toList))
    (rest : List Char) :
    readPlainLiteral ((quoteComment s).toList ++ rest) ≠ some (straighten s.toList, rest) := by
  obtain ⟨front, back, hsplit, -, hearly, hopen⟩ := readPlainLiteral_of_not_fits h
  by_cases hback : back = []
  · rw [hopen hback]
    intro heq
    obtain ⟨r, hr, hpair⟩ := Option.map_eq_some_iff.mp heq
    -- a quotation has at least a mark at its end
    have hlength := length_lt_of_readQuoted hr
    rw [(Prod.mk.inj hpair).2] at hlength
    omega
  · rw [hearly hback]
    intro heq
    have hlength := congrArg List.length (Prod.mk.inj (Option.some.inj heq)).1
    rw [hsplit, List.length_append, List.length_cons] at hlength
    omega

/-! ## Comments -/

theorem backslashesStay_of_not_mem (h : backslash ∉ cs) : BackslashesStay cs := by
  rintro front back rfl
  exact absurd (List.mem_append_right _ (List.mem_cons_self ..)) h

theorem backslash_not_mem_straighten (h : backslash ∉ cs) : backslash ∉ straighten cs := by
  intro hmem
  obtain ⟨c, hc, heq⟩ := List.mem_map.mp hmem
  by_cases hquote : c = doubleQuote
  · rw [if_pos hquote] at heq
    exact absurd heq (by decide)
  · rw [if_neg hquote] at heq
    exact h (heq ▸ hc)

theorem quotesInLine_iff_line :
    QuotesInLine cs ↔ ∃ line ∈ Text.splitAt '\n' cs, 2 ≤ line.count apostrophe :=
  hasQuotedRun_iff.symm.trans hasQuotedRun_iff_line

/-- **Which comments are quoted safely.** The literal of a comment has the comment as its value,
with its double quotes turned into single ones, iff there are no single quotes in it or two of them
in one of its lines. Otherwise a reader finds another value or no end, whatever follows the
literal. If no backslash is in the comment, the same holds for a reader who knows backslashes. -/
theorem quoteComment_fits_iff (s : String) :
    (IsPlainLiteral (quoteComment s).toList (straighten s.toList) ↔
      FitsItsMarks (straighten s.toList)) ∧
    (¬ FitsItsMarks (straighten s.toList) → ∀ rest : List Char,
      readPlainLiteral ((quoteComment s).toList ++ rest) ≠ some (straighten s.toList, rest)) ∧
    (backslash ∉ s.toList →
      (IsLiteral (quoteComment s).toList (straighten s.toList) ↔
        FitsItsMarks (straighten s.toList))) := by
  refine ⟨⟨fun hliteral => ?_, fun hfits rest => readPlainLiteral_of_fits hfits⟩,
    readPlainLiteral_ne_of_not_fits, fun hbackslash => ?_⟩
  · by_contra hfits
    exact readPlainLiteral_ne_of_not_fits hfits [] (hliteral [] nofun)
  · have hstays := backslashesStay_of_not_mem (backslash_not_mem_straighten hbackslash)
    obtain ⟨mark, hmark, hmem, hread⟩ := exists_mark_quoteComment s
    rw [quotesInLine_iff_line] at hmem
    rw [FitsItsMarks, ← hmem]
    constructor
    · intro hliteral
      have hself := hliteral [] nofun
      rw [hread] at hself
      exact (stays_of_readString hmark hself).1
    · intro hnot rest hrest
      rw [hread]
      exact readString_of_stays hmark hnot hstays fun heq => hrest mark heq hmark

/-- Two double quotes in the second line of a comment. -/
theorem quoteComment_fits_secondLine :
    quoteComment "it's\nthe \"net\" price" = "\"it's\nthe 'net' price\"" ∧
      backslash ∉ "it's\nthe \"net\" price".toList ∧
      IsPlainLiteral (quoteComment "it's\nthe \"net\" price").toList "it's\nthe 'net' price".toList ∧
      IsLiteral (quoteComment "it's\nthe \"net\" price").toList "it's\nthe 'net' price".toList := by
  obtain ⟨hplain, -, hliteral⟩ := quoteComment_fits_iff "it's\nthe \"net\" price"
  have hbackslash : backslash ∉ "it's\nthe \"net\" price".toList := by decide
  have hfits : FitsItsMarks (straighten "it's\nthe \"net\" price".toList) := by
    exact .inr ⟨"the 'net' price".toList, by decide +kernel, by decide⟩
  exact ⟨by decide +kernel, hbackslash, hplain.mpr hfits, (hliteral hbackslash).mpr hfits⟩

end CatalogDdl.Ddl
