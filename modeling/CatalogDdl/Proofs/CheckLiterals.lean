import CatalogDdl.Proofs.CheckSegments
import CatalogDdl.Proofs.ExpressionLiterals
import CatalogDdl.Proofs.SingleSpaces
import Mathlib.Data.Bool.AllAny

/-!
# The literals of a check predicate

A predicate without an operator between its words stays as it is written. Any other is cut
into clauses, and those that stay are put together from their words, with a single space
between each two. The words do not know about literals. So a literal stays in one clause as
long as no operator is a word of it, but the blanks in it become single spaces like all
others: it stays what it is iff each of its blanks is a single space already.

- `rejoin_quoteLiteral_append`: a literal is squeezed where it stands.
- `Atom`, `atoms`: a predicate as its literals and its other characters.
- `exists_split_of_words_eq`: an operator stands between literals.
- `exists_clauses`: the clauses, and the literals in them.
- `residue?_literals`: which literals remain, and in which form.
-/

namespace CatalogDdl.Ddl

open Text

/-- A literal of a predicate, or a character outside of its literals. -/
inductive Atom where
  | char (c : Char)
  | literal (cs : List Char)
  deriving DecidableEq, Repr

namespace Atom

/-- An atom as it is written. -/
def source : Atom → List Char
  | char c => [c]
  | literal cs => quoteLiteral cs

/-- The text of a literal. -/
def literal? : Atom → Option (List Char)
  | char _ => none
  | literal cs => some cs

end Atom

/-- Characters outside of literals. -/
def chars (cs : List Char) : List Atom := cs.map Atom.char

/-- A piece as a literal or as its characters. -/
def Piece.atoms : Piece → List Atom
  | .plain cs => chars cs
  | .name cs => chars (doubleQuote :: (cs ++ [doubleQuote]))
  | .literal cs => [.literal cs]

/-- A predicate as its literals and its other characters. -/
def atoms (ps : List Piece) : List Atom := ps.flatMap Piece.atoms

/-- What atoms are written as. -/
def textOf (ts : List Atom) : List Char := ts.flatMap Atom.source

/-- The literals among atoms. -/
def literalsOf (ts : List Atom) : List (List Char) := ts.filterMap Atom.literal?

/-- Whether no operator is a word of a literal. -/
def NoInnerOperator (ls : List (List Char)) : Prop :=
  ∀ l ∈ ls, ∀ w ∈ words (quoteLiteral l), isOperator w = false

instance : DecidablePred NoInnerOperator := fun ls =>
  inferInstanceAs (Decidable (∀ l ∈ ls, ∀ w ∈ words (quoteLiteral l), isOperator w = false))

/-- The clauses of a predicate with the literals in them: all of it, cut where its words are cut. -/
structure IsClauses (p : String) (ps : List Piece) (tss : List (List Atom)) : Prop where
  flatten_eq : tss.flatten = atoms ps
  isCut : IsCut (words p.toList) (tss.map fun ts => words (textOf ts))

/-- The clauses that stay. -/
def stayingClauses (tss : List (List Atom)) : List (List Atom) :=
  tss.filter fun ts => keeps (words (textOf ts))

variable {c : Char} {cs ds l : List Char} {ts : List Atom} {tss : List (List Atom)}
  {p q : String} {ps : List Piece}

/-! ## Literals with single spaces -/

/-- Doubling the marks of a text and squeezing its blanks do not get in each other's way. -/
theorem squeeze_doubled (l : List Char) :
    squeeze (doubled apostrophe l) = doubled apostrophe (squeeze l) := by
  have hmark : isBlank apostrophe = false := by decide
  have hhead : ∀ cs, (doubled apostrophe cs).head?.any isBlank = cs.head?.any isBlank := by
    intro cs
    cases cs with
    | nil => rfl
    | cons c cs =>
      by_cases hc : c = apostrophe
      · rw [hc, doubled_cons_self]; rfl
      · rw [doubled_cons_of_ne hc]; rfl
  have hne : ∀ {c}, isBlank c = true → c ≠ apostrophe := by
    rintro _ hc rfl
    rw [hmark] at hc
    cases hc
  -- the cases of `squeeze` are the blanks; a mark, which is none, is doubled in the last of them
  fun_induction squeeze l with
  | case1 => rfl
  | case2 c cs hc hcs ih => rw [doubled_cons_of_ne (hne hc), squeeze_blank hc (by rw [hhead, hcs]), ih]
  | case3 c cs hc hcs ih =>
    rw [doubled_cons_of_ne (hne hc), squeeze_last_blank hc (by rw [hhead]; simpa using hcs), ih,
      doubled_cons_of_ne (by decide)]
  | case4 c cs hc ih =>
    by_cases hmarked : c = apostrophe
    · rw [hmarked, doubled_cons_self, doubled_cons_self, squeeze_cons hmark, squeeze_cons hmark, ih]
    · rw [doubled_cons_of_ne hmarked, doubled_cons_of_ne hmarked,
        squeeze_cons (Bool.eq_false_iff.mpr hc), ih]

/-- A literal is squeezed where it stands. -/
theorem rejoin_quoteLiteral_append (l cs : List Char) :
    rejoin (quoteLiteral l ++ cs) = quoteLiteral (squeeze l) ++ (gap cs ++ rejoin cs) := by
  have hmark : isBlank apostrophe = false := by decide
  rw [quoteLiteral, ← List.cons_append, List.append_assoc, List.singleton_append,
    rejoin_append hmark, List.cons_append, rejoin_cons hmark, gap_append_rejoin hmark,
    squeeze_doubled]
  rfl

/-! ## Atoms -/

theorem textOf_append (ts us : List Atom) : textOf (ts ++ us) = textOf ts ++ textOf us :=
  List.flatMap_append

theorem literalsOf_append (ts us : List Atom) :
    literalsOf (ts ++ us) = literalsOf ts ++ literalsOf us := List.filterMap_append

theorem textOf_cons (t : Atom) (ts : List Atom) : textOf (t :: ts) = t.source ++ textOf ts :=
  List.flatMap_cons

/-- Characters outside of literals are written as they are. -/
theorem textOf_chars (cs : List Char) : textOf (chars cs) = cs := by
  induction cs with
  | nil => rfl
  | cons c cs ih => exact congrArg (c :: ·) ih

theorem literalsOf_chars (cs : List Char) : literalsOf (chars cs) = [] := by
  induction cs with
  | nil => rfl
  | cons c cs ih => exact ih

/-- The atoms of an expression are written like its pieces. -/
theorem textOf_atoms (ps : List Piece) : textOf (atoms ps) = ps.flatMap Piece.source := by
  induction ps with
  | nil => rfl
  | cons p ps ih =>
    rw [atoms, List.flatMap_cons, textOf_append, ← atoms, ih, List.flatMap_cons]
    cases p with
    | plain cs => rw [Piece.atoms, textOf_chars, Piece.source]
    | name cs => rw [Piece.atoms, textOf_chars, Piece.source]
    | literal cs => rw [Piece.atoms, textOf, List.flatMap_singleton]; rfl

/-- They have the same literals. -/
theorem literalsOf_atoms (ps : List Piece) : literalsOf (atoms ps) = literals ps := by
  induction ps with
  | nil => rfl
  | cons p ps ih =>
    rw [atoms, List.flatMap_cons, literalsOf_append, ← atoms, ih]
    cases p with
    | plain cs => rw [Piece.atoms, literalsOf_chars]; rfl
    | name cs => rw [Piece.atoms, literalsOf_chars]; rfl
    | literal cs => rfl

/-- A literal among atoms stands in what they are written as. -/
theorem quoteLiteral_isInfix (h : l ∈ literalsOf ts) : quoteLiteral l <:+: textOf ts := by
  obtain ⟨t, ht, hl⟩ := List.mem_filterMap.mp h
  obtain ⟨us, vs, rfl⟩ := List.append_of_mem ht
  cases t with
  | char c => cases hl
  | literal cs =>
    cases hl
    exact ⟨textOf us, textOf vs, by simp [textOf, Atom.source]⟩

theorem apostrophe_mem_quoteLiteral (l : List Char) : apostrophe ∈ quoteLiteral l :=
  List.mem_cons_self ..

/-- Without their mark there are no literals. -/
theorem literalsOf_eq_nil (h : apostrophe ∉ textOf ts) : literalsOf ts = [] := by
  rw [List.eq_nil_iff_forall_not_mem]
  exact fun l hl => h ((quoteLiteral_isInfix hl).subset (apostrophe_mem_quoteLiteral l))

theorem literalsOf_eq_nil_of_words (h : words (textOf ts) = []) : literalsOf ts = [] :=
  literalsOf_eq_nil fun hmark => words_ne_nil hmark (by decide) h

/-- With single spaces between its words, a predicate has the same literals, squeezed. -/
theorem exists_rejoin (ts : List Atom) :
    ∃ us, textOf us = rejoin (textOf ts) ∧ literalsOf us = (literalsOf ts).map squeeze := by
  induction ts with
  | nil => exact ⟨[], rfl, rfl⟩
  | cons t ts ih =>
    obtain ⟨us, htext, hliterals⟩ := ih
    have hgap : textOf (chars (gap (textOf ts)) ++ us) = gap (textOf ts) ++ rejoin (textOf ts) := by
      rw [textOf_append, textOf_chars, htext]
    have hsame : literalsOf (chars (gap (textOf ts)) ++ us) = (literalsOf ts).map squeeze := by
      rw [literalsOf_append, literalsOf_chars, hliterals]
      rfl
    -- the gap before the next word consists of characters, so it adds no literal
    cases t with
    | char c =>
      cases hc : isBlank c with
      | true => exact ⟨us, htext.trans (rejoin_blank hc _).symm, hliterals⟩
      | false =>
        refine ⟨.char c :: (chars (gap (textOf ts)) ++ us), ?_, hsame⟩
        rw [textOf_cons, hgap]
        exact (rejoin_cons hc (textOf ts)).symm
    | literal l =>
      refine ⟨.literal (squeeze l) :: (chars (gap (textOf ts)) ++ us), ?_,
        congrArg (squeeze l :: ·) hsame⟩
      rw [textOf_cons, hgap]
      exact (rejoin_quoteLiteral_append l (textOf ts)).symm

/-! ## Cuts -/

/-- A text is cut between two atoms or in a literal. -/
theorem exists_of_textOf_eq_append (h : textOf ts = cs ++ ds) :
    (∃ us vs, ts = us ++ vs ∧ textOf us = cs ∧ textOf vs = ds) ∨
    ∃ us vs l xs ys, ts = us ++ .literal l :: vs ∧ quoteLiteral l = xs ++ ys ∧ xs ≠ [] ∧ ys ≠ [] ∧
      cs = textOf us ++ xs ∧ ds = ys ++ textOf vs := by
  induction ts generalizing cs with
  | nil =>
    obtain ⟨rfl, rfl⟩ := List.append_eq_nil_iff.mp h.symm
    exact .inl ⟨[], [], rfl, rfl, rfl⟩
  | cons t ts ih =>
    rw [textOf, List.flatMap_cons, ← textOf] at h
    rcases List.append_eq_append_iff.mp h with ⟨as, rfl, hrest⟩ | ⟨bs, ht, rfl⟩
    · rcases ih hrest with ⟨us, vs, rfl, rfl, rfl⟩ | ⟨us, vs, l, xs, ys, rfl, hl, hxs, hys, rfl, rfl⟩
      · exact .inl ⟨t :: us, vs, rfl, rfl, rfl⟩
      · exact .inr ⟨t :: us, vs, l, xs, ys, rfl, hl, hxs, hys, (List.append_assoc ..).symm, rfl⟩
    · -- the cut is in the first atom, which is a literal unless one of the two parts is empty
      by_cases hcs : cs = []
      · subst hcs
        exact .inl ⟨[], t :: ts, rfl, rfl, congrArg (· ++ textOf ts) ht⟩
      by_cases hbs : bs = []
      · subst hbs
        rw [List.append_nil] at ht
        exact .inl ⟨[t], ts, rfl, by rw [← ht]; simp [textOf], rfl⟩
      cases t with
      | char c =>
        rcases List.append_eq_singleton_iff.mp ht.symm with ⟨h, -⟩ | ⟨-, h⟩
        · exact absurd h hcs
        · exact absurd h hbs
      | literal l => exact .inr ⟨[], ts, l, cs, bs, rfl, ht, hcs, hbs, rfl, rfl⟩

/-- The two parts of a literal that is cut have its marks. -/
theorem apostrophe_mem_of_append {xs ys : List Char} (h : quoteLiteral l = xs ++ ys)
    (hxs : xs ≠ []) (hys : ys ≠ []) : apostrophe ∈ xs ∧ apostrophe ∈ ys := by
  constructor
  · have hhead : (xs ++ ys).head? = some apostrophe := by rw [← h]; rfl
    rw [List.head?_append_of_ne_nil _ hxs] at hhead
    exact List.mem_of_mem_head? hhead
  · have hlast : (xs ++ ys).getLast? = some apostrophe := by
      rw [← h, quoteLiteral, ← List.cons_append, List.getLast?_concat]
    rw [List.getLast?_append_of_ne_nil _ hys] at hlast
    exact List.mem_of_mem_getLast? hlast

/-- A text is cut between two atoms if there are no literals on one side. -/
theorem exists_append_of_not_mem (h : textOf ts = cs ++ ds)
    (hmark : apostrophe ∉ cs ∨ apostrophe ∉ ds) :
    ∃ us vs, ts = us ++ vs ∧ textOf us = cs ∧ textOf vs = ds := by
  rcases exists_of_textOf_eq_append h with hcut | ⟨us, vs, l, xs, ys, -, hl, hxs, hys, rfl, rfl⟩
  · exact hcut
  · obtain ⟨hleft, hright⟩ := apostrophe_mem_of_append hl hxs hys
    rcases hmark with hmark | hmark
    · exact absurd (List.mem_append_right _ hleft) hmark
    · exact absurd (List.mem_append_left _ hright) hmark

theorem apostrophe_not_mem_of_isOperator {op : Word} (h : isOperator op = true) :
    apostrophe ∉ op := fun hmark => absurd (mem_letters_of_isOperator h hmark) (by decide)

theorem NoInnerOperator.of_subset {ls ms : List (List Char)} (h : NoInnerOperator ms)
    (hsubset : ls ⊆ ms) : NoInnerOperator ls := fun l hl => h l (hsubset hl)

section

variable {op : Word} {us vs : List Word} (hinner : NoInnerOperator (literalsOf ts))
include hinner

/-- An operator stands between the literals of a predicate. -/
theorem exists_split_of_words_eq (hop : isOperator op = true)
    (h : words (textOf ts) = us ++ op :: vs) :
    ∃ xs ys zs, ts = xs ++ (ys ++ zs) ∧ words (textOf xs) = us ∧ textOf ys = op ∧
      words (textOf zs) = vs ∧ words (textOf (ys ++ zs)) = op :: vs := by
  have hmark := apostrophe_not_mem_of_isOperator hop
  obtain ⟨front, back, htext, hfront, hback, hbefore, hafter⟩ := exists_of_words_eq h
  rcases exists_of_textOf_eq_append htext with
    ⟨xs, rest, rfl, rfl, hrest⟩ | ⟨xs, zs, l, as, bs, rfl, hl, has, hbs, rfl, hcut⟩
  · obtain ⟨ys, zs, rfl, hys, hzs⟩ := exists_append_of_not_mem hrest (.inl hmark)
    refine ⟨xs, ys, zs, rfl, hfront, hys, hzs ▸ hback, ?_⟩
    rw [textOf_append, hys, hzs, words_append_of_isWord (isWord_of_isOperator hop) hafter, hback]
  · -- the operator would be a word of the literal
    exfalso
    obtain ⟨-, hbsmark⟩ := apostrophe_mem_of_append hl has hbs
    obtain ⟨cs, rfl, hcs⟩ : ∃ cs, bs = op ++ cs ∧ back = cs ++ textOf zs := by
      rcases List.append_eq_append_iff.mp hcut with ⟨cs, rfl, rfl⟩ | ⟨cs, rfl, -⟩
      · exact ⟨cs, rfl, rfl⟩
      · exact absurd (List.mem_append_left cs hbsmark) hmark
    -- the literal goes on after the operator, with a blank, since a word ends there
    have hcsmark : apostrophe ∈ cs := (List.mem_append.mp hbsmark).resolve_left hmark
    obtain ⟨b', cs, rfl⟩ := List.exists_cons_of_ne_nil (List.ne_nil_of_mem hcsmark)
    have hb' : isBlank b' = true := by
      rcases hafter with hnil | ⟨b, rest, hb, hblank⟩
      · rw [hcs] at hnil
        cases hnil
      · rw [hcs] at hb
        rwa [(List.cons.inj hb).1]
    -- and what it has in front of the operator ends with a blank
    obtain ⟨as, b, rfl, hb⟩ : ∃ cs b, as = cs ++ [b] ∧ isBlank b = true := by
      rcases List.eq_nil_or_concat' as with rfl | ⟨as, b, rfl⟩
      · exact absurd rfl has
      · refine ⟨as, b, rfl, ?_⟩
        rcases hbefore with hnil | ⟨rest, b', hb', hblank⟩
        · exact absurd (List.append_eq_nil_iff.mp hnil).2 has
        · rw [← List.append_assoc] at hb'
          have hlast := (List.append_inj' hb' rfl).2
          rwa [(List.cons.inj hlast).1]
    have hword : op ∈ words (quoteLiteral l) := by
      rw [hl, List.append_assoc, List.singleton_append, words_append_blank hb,
        words_append_blank hb', words_of_isWord (isWord_of_isOperator hop)]
      simp
    have hnone := hinner l (by simp [literalsOf, Atom.literal?]) op hword
    rw [hop] at hnone
    cases hnone

end

/-- A predicate is cut into its clauses between literals. -/
theorem exists_clauses {first : List Word} {later : List (List Word)}
    (hinner : NoInnerOperator (literalsOf ts))
    (hlater : ∀ s ∈ later, ∃ op rest, s = op :: rest ∧ isOperator op = true)
    (h : words (textOf ts) = first ++ later.flatten) :
    ∃ tss : List (List Atom), tss.flatten = ts ∧
      tss.map (fun ts => words (textOf ts)) = first :: later := by
  induction later generalizing first ts with
  | nil => exact ⟨[ts], by simp, by simp [h]⟩
  | cons s later ih =>
    obtain ⟨⟨op, rest, rfl, hop⟩, hothers⟩ := List.forall_mem_cons.mp hlater
    obtain ⟨xs, ys, zs, rfl, hxs, -, -, hrest⟩ := exists_split_of_words_eq hinner hop h
    rw [literalsOf_append] at hinner
    have hright : NoInnerOperator (literalsOf (ys ++ zs)) :=
      hinner.of_subset (List.subset_append_right _ _)
    have hwords : words (textOf (ys ++ zs)) = op :: rest ++ later.flatten := hrest
    obtain ⟨tss, htss, hlast⟩ := ih hright hothers hwords
    exact ⟨xs :: tss, by rw [List.flatten_cons, htss], by rw [List.map_cons, hlast, hxs]⟩

/-- Clauses with a space after each. -/
def spaced (tss : List (List Atom)) : List Atom := tss.flatMap fun ts => ts ++ [.char ' ']

/-- No word reaches from one clause into the next. -/
theorem words_textOf_spaced (tss : List (List Atom)) :
    words (textOf (spaced tss)) = (tss.map fun ts => words (textOf ts)).flatten := by
  induction tss with
  | nil => rfl
  | cons ts tss ih =>
    rw [spaced, List.flatMap_cons, ← spaced, textOf_append, textOf_append, List.append_assoc,
      List.map_cons, List.flatten_cons, ← ih]
    exact words_append_blank (by decide) _ _

/-- The spaces add no literal. -/
theorem literalsOf_spaced (tss : List (List Atom)) :
    literalsOf (spaced tss) = literalsOf tss.flatten := by
  induction tss with
  | nil => rfl
  | cons ts tss ih =>
    rw [spaced, List.flatMap_cons, ← spaced, literalsOf_append, literalsOf_append, ih,
      List.flatten_cons, literalsOf_append]
    exact congrArg (· ++ literalsOf tss.flatten) (List.append_nil _)

/-- No literal goes with the operators at the two ends. -/
theorem IsStripped.exists_left {lead left trail : List Word}
    (h : IsStripped (words (textOf ts)) lead left trail)
    (hinner : NoInnerOperator (literalsOf ts)) :
    ∃ us, words (textOf us) = left ∧ literalsOf us = literalsOf ts := by
  obtain ⟨vs, hvs, hsame⟩ : ∃ vs, words (textOf vs) = left ++ trail ∧
      literalsOf vs = literalsOf ts := by
    rcases h.lead_eq with ⟨rfl, -⟩ | ⟨op, rfl, hop⟩
    · exact ⟨ts, h.words_eq, rfl⟩
    · have hwords : words (textOf ts) = [] ++ op :: (left ++ trail) := h.words_eq
      obtain ⟨xs, ys, zs, rfl, hxs, rfl, hzs, -⟩ := exists_split_of_words_eq hinner hop hwords
      refine ⟨zs, hzs, ?_⟩
      rw [literalsOf_append, literalsOf_append, literalsOf_eq_nil_of_words hxs,
        literalsOf_eq_nil (apostrophe_not_mem_of_isOperator hop)]
      rfl
  -- the same at the other end, where the literals are on the left of the operator
  rcases h.trail_eq with ⟨rfl, -⟩ | ⟨op, rfl, hop⟩
  · exact ⟨vs, by rw [hvs, List.append_nil], hsame⟩
  · obtain ⟨xs, ys, zs, rfl, hxs, rfl, hzs, -⟩ :=
      exists_split_of_words_eq (hsame ▸ hinner) hop hvs
    refine ⟨xs, hxs, ?_⟩
    rw [← hsame, literalsOf_append, literalsOf_append, literalsOf_eq_nil_of_words hzs,
      literalsOf_eq_nil (apostrophe_not_mem_of_isOperator hop)]
    simp

/-! ## What remains -/

theorem singleSpaced_of_quoteLiteral (h : SingleSpaced (quoteLiteral l)) : SingleSpaced l := by
  have hdoubled : SingleSpaced (doubled apostrophe l) :=
    h.of_isInfix ⟨[apostrophe], [apostrophe], rfl⟩
  have hsame := squeeze_eq_self_iff.mpr hdoubled
  rw [squeeze_doubled] at hsame
  -- reading takes the second marks away
  have hend : ([] : List Char).head? ≠ some apostrophe := by decide
  have hread := readQuoted_doubled hend (squeeze l)
  rw [hsame, readQuoted_doubled hend] at hread
  exact squeeze_eq_self_iff.mp (Prod.mk.inj (Option.some.inj hread)).1.symm

/-- The clauses of a predicate can be told together with its literals. -/
theorem exists_isClauses (h : Divides doubleQuote p.toList ps)
    (hinner : NoInnerOperator (literals ps)) : ∃ tss, IsClauses p ps tss := by
  have htext : textOf (atoms ps) = p.toList := (textOf_atoms ps).trans h.flatMap_source
  have hcut := isCut_segments (words p.toList)
  obtain ⟨first, later, hsegments, -, hlater⟩ := hcut.operators
  have hwords : words (textOf (atoms ps)) = first ++ later.flatten := by
    rw [htext, ← hcut.flatten_eq, hsegments, List.flatten_cons]
  rw [← literalsOf_atoms] at hinner
  obtain ⟨tss, hflatten, htss⟩ := exists_clauses hinner
    (fun s hs => (hlater s hs).imp fun op h => h.imp fun rest h => ⟨h.1, h.2.1⟩) hwords
  refine ⟨tss, hflatten, ?_⟩
  rw [htss, ← hsegments]
  exact hcut

/-- A predicate that stays as it is written keeps its literals. -/
theorem exists_trim (h : Divides doubleQuote p.toList ps) :
    ∃ us, textOf us = (trim p).toList ∧ literalsOf us = literals ps := by
  have hblank : ∀ {cs : List Char}, (∀ c ∈ cs, isBlank c = true) → apostrophe ∉ cs :=
    fun hcs hmark => absurd (hcs _ hmark) (by decide)
  obtain ⟨front, back, hp, hfront, hback⟩ := exists_eq_append_trimChars p.toList
  have htext : textOf (atoms ps) = front ++ trimChars p.toList ++ back := by
    rw [textOf_atoms, h.flatMap_source, ← hp]
  obtain ⟨us, vs, hatoms, hus, rfl⟩ := exists_append_of_not_mem htext (.inr (hblank hback))
  obtain ⟨ws, xs, rfl, rfl, hxs⟩ := exists_append_of_not_mem hus (.inl (hblank hfront))
  refine ⟨xs, by rw [hxs, trim, String.toList_ofList], ?_⟩
  rw [← literalsOf_atoms, hatoms, literalsOf_append, literalsOf_append,
    literalsOf_eq_nil (hblank hfront), literalsOf_eq_nil (hblank hback), List.append_nil]
  rfl

/-- The words that remain, with the literals in them. -/
theorem IsClauses.exists_residueWords (h : IsClauses p ps tss)
    (hinner : NoInnerOperator (literals ps)) :
    ∃ us, words (textOf us) = residueWords (words p.toList) ∧
      literalsOf us = literalsOf (stayingClauses tss).flatten := by
  have hkept : words (textOf (spaced (stayingClauses tss))) =
      ((segments (words p.toList)).filter keeps).flatten := by
    rw [words_textOf_spaced, ← isCut_iff.mp h.isCut, List.filter_map, stayingClauses]
    rfl
  obtain ⟨lead, trail, hstripped⟩ :=
    isStripped_residue ((segments (words p.toList)).filter keeps).flatten
  rw [← hkept] at hstripped
  have hsubset : literalsOf (spaced (stayingClauses tss)) ⊆ literals ps := by
    rw [literalsOf_spaced, ← literalsOf_atoms, ← h.flatten_eq]
    refine List.filterMap_subset _ fun t ht => ?_
    obtain ⟨ts, hts, ht⟩ := List.mem_flatten.mp ht
    exact List.mem_flatten.mpr ⟨ts, List.mem_of_mem_filter hts, ht⟩
  obtain ⟨us, hus, hliterals⟩ := hstripped.exists_left (hinner.of_subset hsubset)
  exact ⟨us, by rw [hus, hkept]; rfl, by rw [hliterals, literalsOf_spaced]⟩

/-- The literals of the clauses that stay, if the words are looked at. -/
theorem IsClauses.exists_literals (h : IsClauses p ps tss) (hinner : NoInnerOperator (literals ps))
    (hjoins : joinsClauses (trimChars p.toList) = true) (hq : residue? p = some q) :
    ∃ us, textOf us = q.toList ∧
      literalsOf us = (literalsOf (stayingClauses tss).flatten).map squeeze := by
  obtain ⟨vs, hwords, hliterals⟩ := h.exists_residueWords hinner
  obtain ⟨us, htext, hus⟩ := exists_rejoin vs
  refine ⟨us, ?_, hliterals ▸ hus⟩
  rw [htext, rejoin, hwords, (residue?_eq_some hjoins hq).1, String.toList_ofList]

/-- What is put together from words has single spaces only. -/
theorem singleSpaced_residue? (hjoins : joinsClauses (trimChars p.toList) = true)
    (hq : residue? p = some q) : SingleSpaced q.toList := by
  rw [(residue?_eq_some hjoins hq).1, String.toList_ofList]
  exact singleSpaced_joinCharsWith fun w hw => isWord_of_mem (mem_of_mem_residueWords hw)

/-- **The literals that remain of a check.** A predicate whose literals have no operator for a word
is cut into its clauses between its literals. As a single clause it stays as it is written, with
its literals. Otherwise what remains can be divided so that its literals are those of the clauses
that stay, each of them with a single space in the place of every run of blanks: it is there as it
was written exactly if it has no other blanks. -/
theorem residue?_literals (h : Divides doubleQuote p.toList ps)
    (hinner : NoInnerOperator (literals ps)) :
    (∃ tss, IsClauses p ps tss) ∧
    (¬ HasInnerOperator (words p.toList) → ∀ q, residue? p = some q →
      q = trim p ∧ ∃ us, textOf us = q.toList ∧ literalsOf us = literals ps) ∧
    (HasInnerOperator (words p.toList) → ∀ tss, IsClauses p ps tss →
      (residue? p = none → literalsOf (stayingClauses tss).flatten = []) ∧
      ∀ q, residue? p = some q →
        (∃ us, textOf us = q.toList ∧
          literalsOf us = (literalsOf (stayingClauses tss).flatten).map squeeze) ∧
        ∀ l ∈ literalsOf (stayingClauses tss).flatten,
          (quoteLiteral l <:+: q.toList ↔ SingleSpaced l)) := by
  refine ⟨exists_isClauses h hinner, fun hsingle q hq => ?_, fun hop tss htss => ?_⟩
  · have hjoins : joinsClauses (trimChars p.toList) = false :=
      Bool.eq_false_iff.mpr (mt joinsClauses_trimChars_iff.mp hsingle)
    obtain rfl : q = trim p := by
      rw [residue?_of_not_joinsClauses hjoins] at hq
      split at hq
      · cases hq
      · exact (Option.some.inj hq).symm
    exact ⟨rfl, exists_trim h⟩
  · have hjoins := joinsClauses_trimChars_iff.mpr hop
    refine ⟨fun hnone => ?_, fun q hq => ?_⟩
    · obtain ⟨us, hwords, hliterals⟩ := htss.exists_residueWords hinner
      rw [← hliterals]
      exact literalsOf_eq_nil_of_words (hwords.trans ((residue?_eq_none hjoins).mp hnone))
    · obtain ⟨us, htext, hus⟩ := htss.exists_literals hinner hjoins hq
      refine ⟨⟨us, htext, hus⟩, fun l hl => ⟨fun hin => ?_, fun hspaced => ?_⟩⟩
      · exact singleSpaced_of_quoteLiteral ((singleSpaced_residue? hjoins hq).of_isInfix hin)
      · have hmem : squeeze l ∈ literalsOf us := hus ▸ List.mem_map_of_mem hl
        rw [squeeze_eq_self_iff.mpr hspaced] at hmem
        rw [← htext]
        exact quoteLiteral_isInfix hmem

/-- Two literals with single spaces, the second one in the clause that stays. -/
theorem residue?_surname_kept :
    let p := "A IS NOT NULL AND B = 'de la O''K'"
    let literal := "de la O'K".toList
    let ps := "A IS NOT NULL AND B = ".toList.map (fun c => .plain [c]) ++ [Piece.literal literal]
    Divides doubleQuote p.toList ps ∧ NoInnerOperator (literals ps) ∧
      residue? p = some "B = 'de la O''K'" ∧ quoteLiteral literal <:+: "B = 'de la O''K'".toList := by
  intro p literal ps
  have hplain : ∀ c ∈ "A IS NOT NULL AND B = ".toList, c ≠ apostrophe ∧ c ≠ doubleQuote :=
    List.all_iff_forall_prop.mp (by decide)
  have htext : "A IS NOT NULL AND B = ".toList ++ (quoteLiteral literal ++ []) = p.toList := by
    decide
  have hdivides : Divides doubleQuote p.toList ps :=
    htext ▸ (Divides.literal literal (by decide) .nil).append_plain hplain
  have hinner : NoInnerOperator (literals ps) := by decide
  have hq : residue? p = some "B = 'de la O''K'" := by decide +kernel
  have hop : HasInnerOperator (words p.toList) := joinsClauses_trimChars_iff.mp (by decide +kernel)
  have hclauses : IsClauses p ps [chars "A IS NOT NULL ".toList,
      chars "AND B = ".toList ++ [.literal literal]] := ⟨by decide, isCut_iff.mpr (by decide)⟩
  obtain ⟨-, -, hliterals⟩ := residue?_literals hdivides hinner
  obtain ⟨-, hkept⟩ := hliterals hop _ hclauses
  exact ⟨hdivides, hinner, hq, ((hkept _ hq).2 literal (by decide)).mpr (by decide)⟩

/-- Two spaces in a literal become one. -/
theorem residue?_twoSpaces_lost :
    let p := "A = 'x  y' AND B > 0"
    let literal := "x  y".toList
    let ps := "A = ".toList.map (fun c => .plain [c]) ++
      .literal literal :: " AND B > 0".toList.map (fun c => .plain [c])
    Divides doubleQuote p.toList ps ∧ NoInnerOperator (literals ps) ∧
      (∀ s ∈ segments (words p.toList), keeps s = true) ∧
      residue? p = some "A = 'x y' AND B > 0" ∧
      ¬ quoteLiteral literal <:+: "A = 'x y' AND B > 0".toList := by
  intro p literal ps
  have hfront : ∀ c ∈ "A = ".toList, c ≠ apostrophe ∧ c ≠ doubleQuote :=
    List.all_iff_forall_prop.mp (by decide)
  have hback : ∀ c ∈ " AND B > 0".toList, c ≠ apostrophe ∧ c ≠ doubleQuote :=
    List.all_iff_forall_prop.mp (by decide)
  have hrest := Divides.nil.append_plain hback
  rw [List.append_nil, List.append_nil] at hrest
  have htext : "A = ".toList ++ (quoteLiteral literal ++ " AND B > 0".toList) = p.toList := by
    decide
  have hdivides : Divides doubleQuote p.toList ps :=
    htext ▸ (Divides.literal literal (by decide) hrest).append_plain hfront
  exact ⟨hdivides, by decide, by decide +kernel, by decide +kernel, by decide +kernel⟩

end CatalogDdl.Ddl
