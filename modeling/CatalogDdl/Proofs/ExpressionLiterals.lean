import CatalogDdl.Proofs.LowerMarks
import CatalogDdl.Proofs.QuotedNames
import CatalogDdl.Proofs.Synthesis

/-!
# The literals of an indexed expression

An expression of a function-based index is written in lower case as a whole, literals
included. A literal therefore stays what it is iff none of its characters has another lower
case; apart from that nothing happens to it. Nothing is taken for the end of a literal that
was none, and nothing inside of it is quoted, as long as its double quotes have no partner.

- `Piece`, `Divides`: an expression as names, literals and what is between them. Source
  names stand between double quotes and written ones between backticks, so the mark of
  names is a parameter.
- `Divides.unique`: a reader finds one division at most.
- `QuotesLone`: no double quote in a literal is taken for the beginning of a name.
- `Divides.exists_requote`: what becomes of each piece.
- `Divides.exists_read`: a reader of the statement finds the literals that were written.
- `renderExpression_literals`: all of it together.
-/

namespace CatalogDdl.Ddl

/-! ## Pieces -/

/-- A piece of an expression. -/
inductive Piece where
  /-- Characters outside of names and literals. -/
  | plain (cs : List Char)
  | name (cs : List Char)
  | literal (cs : List Char)
  deriving DecidableEq, Repr

/-- A literal as it is written. -/
def quoteLiteral (cs : List Char) : List Char :=
  apostrophe :: (doubled apostrophe cs ++ [apostrophe])

namespace Piece

/-- A piece in the dictionary. -/
def source : Piece → List Char
  | plain cs => cs
  | name cs => doubleQuote :: (cs ++ [doubleQuote])
  | literal cs => quoteLiteral cs

/-- A piece in a statement. -/
def written : Piece → List Char
  | plain cs => cs
  | name cs => quoteChars cs
  | literal cs => quoteLiteral cs

/-- A piece and the same piece in lower case. -/
inductive LowersTo : Piece → Piece → Prop
  | plain {cs ds : List Char} (h : Text.LowersTo cs ds) : LowersTo (.plain cs) (.plain ds)
  | name {cs ds : List Char} (h : Text.LowersTo cs ds) : LowersTo (.name cs) (.name ds)
  | literal {cs ds : List Char} (h : Text.LowersTo cs ds) : LowersTo (.literal cs) (.literal ds)

/-- The text of a literal. -/
def literal? : Piece → Option (List Char)
  | literal cs => some cs
  | _ => none

end Piece

/-- The literals among some pieces. -/
def literals (ps : List Piece) : List (List Char) := ps.filterMap Piece.literal?

/-- How a reader divides an expression whose literals are terminated. Names stand between two
marks. A mark without a partner is like any other character. -/
inductive Divides (mark : Char) : List Char → List Piece → Prop
  | nil : Divides mark [] []
  | plain (c : Char) {cs : List Char} {ps : List Piece} (hc : c ≠ apostrophe)
      (hlone : c = mark → mark ∉ cs) (h : Divides mark cs ps) :
      Divides mark (c :: cs) (.plain [c] :: ps)
  | name (n : List Char) {cs : List Char} {ps : List Piece} (hn : mark ∉ n)
      (h : Divides mark cs ps) : Divides mark (mark :: (n ++ mark :: cs)) (.name n :: ps)
  | literal (l : List Char) {cs : List Char} {ps : List Piece} (hend : cs.head? ≠ some apostrophe)
      (h : Divides mark cs ps) : Divides mark (quoteLiteral l ++ cs) (.literal l :: ps)

/-- No double quote in a literal has a partner: there is at most one, and none after it. -/
def QuotesLone : List Piece → Prop
  | [] => True
  | .literal l :: ps =>
    (doubleQuote ∈ l → l.count doubleQuote = 1 ∧ doubleQuote ∉ ps.flatMap Piece.source) ∧
      QuotesLone ps
  | _ :: ps => QuotesLone ps

section

variable {mark : Char} {cs ds l n : List Char} {ps qs : List Piece}

theorem quoteLiteral_append (l cs : List Char) :
    quoteLiteral l ++ cs = apostrophe :: (doubled apostrophe l ++ apostrophe :: cs) := by
  rw [quoteLiteral, List.cons_append, List.append_assoc, List.singleton_append]

theorem Piece.source_name_append (n cs : List Char) :
    (Piece.name n).source ++ cs = doubleQuote :: (n ++ doubleQuote :: cs) := by
  rw [Piece.source, List.cons_append, List.append_assoc, List.singleton_append]

/-- The pieces of an expression are all of it. -/
theorem Divides.flatMap_source (h : Divides doubleQuote cs ps) : ps.flatMap Piece.source = cs := by
  induction h with
  | nil => rfl
  | plain c hc hlone h ih => rw [List.flatMap_cons, ih]; rfl
  | name n hn h ih => rw [List.flatMap_cons, ih, Piece.source_name_append]
  | literal l hend h ih => rw [List.flatMap_cons, ih]; rfl

/-- A text up to the first mark is determined. -/
theorem eq_of_append_mark_eq {n n' cs cs' : List Char} (hn : mark ∉ n) (hn' : mark ∉ n')
    (h : n ++ mark :: cs = n' ++ mark :: cs') : n = n' ∧ cs = cs' := by
  induction n generalizing n' with
  | nil =>
    cases n' with
    | nil => exact ⟨rfl, (List.cons.inj h).2⟩
    | cons c n' => exact absurd ((List.cons.inj h).1 ▸ List.mem_cons_self ..) hn'
  | cons c n ih =>
    cases n' with
    | nil => exact absurd ((List.cons.inj h).1 ▸ List.mem_cons_self ..) hn
    | cons c' n' =>
      obtain ⟨rfl, htail⟩ := List.cons.inj h
      obtain ⟨rfl, hrest⟩ := ih (mt (List.mem_cons_of_mem _) hn) (mt (List.mem_cons_of_mem _) hn') htail
      exact ⟨rfl, hrest⟩

/-- **A reader finds one division at most.** -/
theorem Divides.unique (hmark : mark ≠ apostrophe) (h : Divides mark cs ps)
    (h' : Divides mark cs qs) : ps = qs := by
  induction h generalizing qs with
  | nil => cases h'; rfl
  | plain c hc hlone h ih =>
    -- the other division is taken apart by its first piece: what stands in front decides which one
    -- it is
    generalize htext : c :: _ = text at h'
    cases h' with
    | nil => cases htext
    | plain c' hc' hlone' h' =>
      cases htext
      rw [ih h']
    | name n' hn' h' =>
      obtain ⟨rfl, rfl⟩ := List.cons.inj htext
      exact (hlone rfl (List.mem_append_right _ (List.mem_cons_self ..))).elim
    | literal l' hend' h' =>
      rw [quoteLiteral_append] at htext
      exact absurd (List.cons.inj htext).1 hc
  | name n hn h ih =>
    generalize htext : mark :: _ = text at h'
    cases h' with
    | nil => cases htext
    | plain c' hc' hlone' h' =>
      obtain ⟨rfl, rfl⟩ := List.cons.inj htext
      exact (hlone' rfl (List.mem_append_right _ (List.mem_cons_self ..))).elim
    | name n' hn' h' =>
      obtain ⟨rfl, rfl⟩ := eq_of_append_mark_eq hn hn' (List.cons.inj htext).2
      rw [ih h']
    | literal l' hend' h' =>
      rw [quoteLiteral_append] at htext
      exact absurd (List.cons.inj htext).1 hmark
  | literal l hend h ih =>
    generalize htext : quoteLiteral l ++ _ = text at h'
    rw [quoteLiteral_append] at htext
    cases h' with
    | nil => cases htext
    | plain c' hc' hlone' h' => exact absurd (List.cons.inj htext).1.symm hc'
    | name n' hn' h' => exact absurd (List.cons.inj htext).1.symm hmark
    | literal l' hend' h' =>
      rw [quoteLiteral_append] at htext
      have hread := readQuoted_doubled hend l
      rw [(List.cons.inj htext).2, readQuoted_doubled hend' l'] at hread
      obtain ⟨rfl, rfl⟩ := Prod.mk.inj (Option.some.inj hread)
      rw [ih h']

/-! ## Requoting -/

/-- Without double quotes nothing is quoted. -/
theorem requote_append (h : doubleQuote ∉ cs) (ds : List Char) :
    requote none (cs ++ ds) = cs ++ requote none ds := by
  induction cs with
  | nil => rfl
  | cons c cs ih =>
    obtain ⟨hc, hcs⟩ := not_or.mp (mt List.mem_cons.mpr h)
    rw [List.cons_append, requote, if_neg (Ne.symm hc), ih hcs, List.cons_append]

/-- A name goes up to the next double quote. -/
theorem requote_some_append (h : doubleQuote ∉ n) (before cs : List Char) :
    requote (some before) (n ++ doubleQuote :: cs) =
      quoteChars (before.reverse ++ n) ++ requote none cs := by
  induction n generalizing before with
  | nil => rw [List.nil_append, requote, if_pos rfl, List.append_nil]
  | cons c n ih =>
    obtain ⟨hc, hn⟩ := not_or.mp (mt List.mem_cons.mpr h)
    rw [List.cons_append, requote, if_neg (Ne.symm hc), ih hn, List.reverse_cons,
      List.append_assoc, List.singleton_append]

/-- Without another one the double quote is written again. -/
theorem requote_some_of_not_mem (h : doubleQuote ∉ cs) (before : List Char) :
    requote (some before) cs = doubleQuote :: (before.reverse ++ cs) := by
  induction cs generalizing before with
  | nil => rw [requote, List.append_nil]
  | cons c cs ih =>
    obtain ⟨hc, hcs⟩ := not_or.mp (mt List.mem_cons.mpr h)
    rw [requote, if_neg (Ne.symm hc), ih hcs, List.reverse_cons, List.append_assoc,
      List.singleton_append]

/-- A name between double quotes is put between backticks. -/
theorem requote_name (h : doubleQuote ∉ n) (cs : List Char) :
    requote none (doubleQuote :: (n ++ doubleQuote :: cs)) = quoteChars n ++ requote none cs := by
  rw [requote, if_pos rfl, requote_some_append h, List.reverse_nil, List.nil_append]

/-- A single double quote stays. -/
theorem requote_of_count_le_one (h : cs.count doubleQuote ≤ 1) : requote none cs = cs := by
  induction cs with
  | nil => rfl
  | cons c cs ih =>
    rw [requote]
    by_cases hc : c = doubleQuote
    · subst hc
      rw [List.count_cons_self] at h
      rw [if_pos rfl, requote_some_of_not_mem (List.count_eq_zero.mp (by omega)), List.reverse_nil,
        List.nil_append]
    · rw [List.count_cons_of_ne hc] at h
      rw [if_neg hc, ih h]

/-- A text whose double quotes have no partner stays in front of another one. -/
theorem requote_append_of_lone (h : doubleQuote ∈ cs → cs.count doubleQuote = 1 ∧ doubleQuote ∉ ds) :
    requote none (cs ++ ds) = cs ++ requote none ds := by
  by_cases hmem : doubleQuote ∈ cs
  · obtain ⟨hone, hrest⟩ := h hmem
    have hzero : ds.count doubleQuote = 0 := List.count_eq_zero.mpr hrest
    rw [requote_of_count_le_one (by omega : ds.count doubleQuote ≤ 1), requote_of_count_le_one]
    rw [List.count_append]
    omega
  · exact requote_append hmem ds

/-! ## Lower case, piece by piece -/

theorem count_quoteLiteral (l : List Char) :
    (quoteLiteral l).count doubleQuote = l.count doubleQuote := by
  have hne : apostrophe ≠ doubleQuote := by decide
  rw [quoteLiteral, List.count_cons_of_ne hne, List.count_append, count_doubled_of_ne hne.symm,
    List.count_cons_of_ne hne, List.count_nil, Nat.add_zero]

theorem mem_quoteLiteral_iff : doubleQuote ∈ quoteLiteral l ↔ doubleQuote ∈ l := by
  rw [← List.count_pos_iff, count_quoteLiteral, List.count_pos_iff]

theorem isMark_apostrophe : Text.IsMark apostrophe := by decide

theorem isMark_doubleQuote : Text.IsMark doubleQuote := by decide

theorem isMark_backtick : Text.IsMark backtick := by decide

/-- A text with doubled marks has them doubled in lower case. -/
theorem exists_doubled_of_lowersTo {m : Char} (hm : Text.IsMark m)
    (h : Text.LowersTo (doubled m cs) ds) : ∃ es, ds = doubled m es ∧ Text.LowersTo cs es := by
  induction cs generalizing ds with
  | nil =>
    cases h
    exact ⟨[], rfl, .nil⟩
  | cons c cs ih =>
    by_cases hc : c = m
    · subst hc
      rw [doubled_cons_self] at h
      obtain ⟨_, rfl, hsecond⟩ := h.split_mark hm
      obtain ⟨_, rfl, hrest⟩ := hsecond.split_mark hm
      obtain ⟨es, rfl, hes⟩ := ih hrest
      exact ⟨c :: es, (doubled_cons_self c es).symm, hes.mark hm⟩
    · rw [doubled_cons_of_ne hc] at h
      cases h with
      -- what a character becomes has no mark if it is none
      | cons before _ after h =>
        obtain ⟨es, rfl, hes⟩ := ih h
        refine ⟨_, ?_, hes.cons before c after⟩
        rw [doubled_append, doubled_of_not_mem (Text.not_mem_lowerPiece hm hc before after)]

/-- A literal is one in lower case. -/
theorem exists_quoteLiteral_of_lowersTo (h : Text.LowersTo (quoteLiteral l) ds) :
    ∃ l', ds = quoteLiteral l' ∧ Text.LowersTo l l' := by
  obtain ⟨_, rfl, hinside⟩ := h.split_mark isMark_apostrophe
  obtain ⟨_, _, rfl, htext, hend⟩ := hinside.split_append
  obtain ⟨_, rfl, hnil⟩ := hend.split_mark isMark_apostrophe
  cases hnil
  obtain ⟨l', rfl, hl'⟩ := exists_doubled_of_lowersTo isMark_apostrophe htext
  exact ⟨l', rfl, hl'⟩

/-- So is a name between double quotes. -/
theorem exists_name_of_lowersTo (h : Text.LowersTo (doubleQuote :: (n ++ doubleQuote :: cs)) ds) :
    ∃ n' es, ds = doubleQuote :: (n' ++ doubleQuote :: es) ∧ Text.LowersTo n n' ∧
      Text.LowersTo cs es := by
  obtain ⟨_, rfl, hinside⟩ := h.split_mark isMark_doubleQuote
  obtain ⟨n', _, rfl, hn', hend⟩ := hinside.split_append
  obtain ⟨es, rfl, hes⟩ := hend.split_mark isMark_doubleQuote
  exact ⟨n', es, rfl, hn', hes⟩

/-- A text that stays in front of another one does so in lower case. -/
theorem requote_append_of_lowersTo {cs cs' ds ds' : List Char} (hfront : Text.LowersTo cs ds)
    (hback : Text.LowersTo cs' ds')
    (h : doubleQuote ∈ cs → cs.count doubleQuote = 1 ∧ doubleQuote ∉ cs') :
    requote none (ds ++ ds') = ds ++ requote none ds' := by
  refine requote_append_of_lone ?_
  rw [hfront.mem_iff isMark_doubleQuote, hfront.count_eq isMark_doubleQuote,
    hback.mem_iff isMark_doubleQuote]
  exact h

/-- **What becomes of the pieces of an expression**: each is put into lower case, and names are
put between backticks. -/
theorem Divides.exists_requote (h : Divides doubleQuote cs ps) (hlone : QuotesLone ps)
    (hlower : Text.LowersTo cs ds) :
    ∃ qs, List.Forall₂ Piece.LowersTo ps qs ∧ requote none ds = qs.flatMap Piece.written := by
  induction h generalizing ds with
  | nil =>
    cases hlower
    exact ⟨[], .nil, rfl⟩
  | @plain c cs ps hc hmark h ih =>
    have hcons : Text.LowersTo ([c] ++ cs) ds := hlower
    obtain ⟨es, ds', rfl, hes, hds'⟩ := hcons.split_append
    obtain ⟨qs, hqs, htext⟩ := ih hlone hds'
    refine ⟨.plain es :: qs, .cons (.plain hes) hqs, ?_⟩
    have hstays : requote none (es ++ ds') = es ++ requote none ds' := by
      refine requote_append_of_lowersTo hes hds' fun hmem => ?_
      obtain rfl := List.mem_singleton.mp hmem
      exact ⟨List.count_singleton_self, hmark rfl⟩
    rw [hstays, htext]
    rfl
  | @name n cs ps hn h ih =>
    obtain ⟨n', ds', rfl, hn', hds'⟩ := exists_name_of_lowersTo hlower
    obtain ⟨qs, hqs, htext⟩ := ih hlone hds'
    refine ⟨.name n' :: qs, .cons (.name hn') hqs, ?_⟩
    rw [requote_name (mt (hn'.mem_iff isMark_doubleQuote).mp hn), htext]
    rfl
  -- the double quotes of a literal have no partner in it or after it
  | @literal l cs ps hend h ih =>
    obtain ⟨es, ds', rfl, hes, hds'⟩ := hlower.split_append
    obtain ⟨qs, hqs, htext⟩ := ih hlone.2 hds'
    have hstays : requote none (es ++ ds') = es ++ requote none ds' := by
      refine requote_append_of_lowersTo hes hds' fun hmem => ?_
      rw [count_quoteLiteral, ← h.flatMap_source]
      exact hlone.1 (mem_quoteLiteral_iff.mp hmem)
    obtain ⟨l', rfl, hl'⟩ := exists_quoteLiteral_of_lowersTo hes
    refine ⟨.literal l' :: qs, .cons (.literal hl') hqs, ?_⟩
    rw [hstays, htext]
    rfl

/-! ## Reading the statement -/

/-- Characters that are neither apostrophes nor marks are read one by one. -/
theorem Divides.append_plain (h : Divides mark cs ps)
    (hplain : ∀ d ∈ ds, d ≠ apostrophe ∧ d ≠ mark) :
    Divides mark (ds ++ cs) (ds.map (fun d => .plain [d]) ++ ps) := by
  induction ds with
  | nil => exact h
  | cons d ds ih =>
    obtain ⟨⟨hd, hmark⟩, hds⟩ := List.forall_mem_cons.mp hplain
    exact .plain d hd (fun heq => absurd heq hmark) (ih hds)

theorem literals_append_plain (ds : List Char) (ps : List Piece) :
    literals (ds.map (fun d => .plain [d]) ++ ps) = literals ps := by
  induction ds with
  | nil => rfl
  | cons d ds ih => exact ih

/-- A name in front of a text is read as one name or, at the backticks in it, as several. -/
theorem Divides.append_quoteChars (h : Divides backtick cs ps) (n : List Char) :
    ∃ rs, Divides backtick (quoteChars n ++ cs) rs ∧ literals rs = literals ps := by
  by_cases hn : backtick ∈ n
  · obtain ⟨front, back, rfl, hfront⟩ := List.eq_append_cons_of_mem hn
    obtain ⟨rs, hrs, hliterals⟩ := h.append_quoteChars back
    refine ⟨.name front :: rs, ?_, hliterals⟩
    -- a doubled backtick ends one name and begins the next one
    have htext : quoteChars (front ++ backtick :: back) ++ cs =
        backtick :: (front ++ backtick :: (quoteChars back ++ cs)) := by
      rw [quoteChars_append, quoteChars_append, doubled_append, doubled_of_not_mem hfront,
        doubled_cons_self, List.append_assoc, List.cons_append, List.cons_append]
    rw [htext]
    exact .name front hfront hrs
  · refine ⟨.name n :: ps, ?_, rfl⟩
    rw [quoteChars_append, doubled_of_not_mem hn]
    exact .name n hn h
termination_by n.length
decreasing_by
  subst_vars
  rw [List.length_append, List.length_cons]
  omega

/-- What is written begins with an apostrophe only if the expression does. -/
theorem Divides.head?_written (h : Divides doubleQuote cs ps)
    (hqs : List.Forall₂ Piece.LowersTo ps qs) (hhead : cs.head? ≠ some apostrophe) :
    (qs.flatMap Piece.written).head? ≠ some apostrophe := by
  intro happ
  cases h with
  | nil =>
    cases hqs
    cases happ
  | @plain c _ _ hc =>
    cases hqs with
    | cons hpiece hrest =>
      cases hpiece with
      | @plain _ es hes =>
        -- the lower case of a character is not nothing, and has no apostrophe
        obtain ⟨d, ds, rfl⟩ :=
          List.exists_cons_of_ne_nil (mt hes.eq_nil_iff.mp (List.cons_ne_nil c []))
        obtain rfl : d = apostrophe := Option.some.inj happ
        have hmem := (hes.mem_iff isMark_apostrophe).mp (List.mem_cons_self ..)
        exact hc (List.mem_singleton.mp hmem).symm
  | name =>
    cases hqs with
    | cons hpiece hrest =>
      cases hpiece with
      | name => exact absurd (Option.some.inj happ) (by decide)
  | literal => exact hhead rfl

/-- **A reader of the statement finds the literals that were written**, if no backtick stands
outside of names and literals. -/
theorem Divides.exists_read (h : Divides doubleQuote cs ps)
    (hqs : List.Forall₂ Piece.LowersTo ps qs) (hplain : ∀ cs, Piece.plain cs ∈ ps → backtick ∉ cs) :
    ∃ rs, Divides backtick (qs.flatMap Piece.written) rs ∧ literals rs = literals qs := by
  induction h generalizing qs with
  | nil =>
    cases hqs
    exact ⟨[], .nil, rfl⟩
  | @plain c cs ps hc hmark h ih =>
    cases hqs with
    | cons hpiece hrest =>
      obtain ⟨rs, hrs, hliterals⟩ := ih hrest fun cs hcs => hplain cs (List.mem_cons_of_mem _ hcs)
      cases hpiece with
      | @plain _ es hes =>
        have hapart : ∀ d ∈ es, d ≠ apostrophe ∧ d ≠ backtick := by
          intro d hd
          constructor
          · rintro rfl
            exact hc (List.mem_singleton.mp ((hes.mem_iff isMark_apostrophe).mp hd)).symm
          · rintro rfl
            exact hplain [c] (List.mem_cons_self ..) ((hes.mem_iff isMark_backtick).mp hd)
        exact ⟨_, hrs.append_plain hapart, (literals_append_plain es rs).trans hliterals⟩
  | name n hn h ih =>
    cases hqs with
    | cons hpiece hrest =>
      obtain ⟨rs, hrs, hliterals⟩ := ih hrest fun cs hcs => hplain cs (List.mem_cons_of_mem _ hcs)
      cases hpiece with
      | @name _ n' hn' =>
        obtain ⟨rs', hrs', hsame⟩ := hrs.append_quoteChars n'
        exact ⟨rs', hrs', hsame.trans hliterals⟩
  | literal l hend h ih =>
    cases hqs with
    | cons hpiece hrest =>
      obtain ⟨rs, hrs, hliterals⟩ := ih hrest fun cs hcs => hplain cs (List.mem_cons_of_mem _ hcs)
      cases hpiece with
      | @literal _ l' hl' =>
        exact ⟨.literal l' :: rs, .literal l' (h.head?_written hrest hend) hrs,
          congrArg (l' :: ·) hliterals⟩

/-! ## Literals -/

/-- Pieces in lower case have the literals in lower case. -/
theorem literals_lowersTo (h : List.Forall₂ Piece.LowersTo ps qs) :
    List.Forall₂ Text.LowersTo (literals ps) (literals qs) := by
  induction h with
  | nil => exact .nil
  | cons hpiece _ ih =>
    cases hpiece with
    | plain => exact ih
    | name => exact ih
    | literal hl => exact .cons hl ih

/-- Some texts are their own lower case iff every character in them is. -/
theorem eq_iff_of_lowersTo {ls ms : List (List Char)} (h : List.Forall₂ Text.LowersTo ls ms) :
    ms = ls ↔ ∀ l ∈ ls, ∀ c ∈ l, Text.lowerChar c = [c] := by
  induction h with
  | nil => exact iff_of_true rfl nofun
  | cons hl _ ih => rw [List.cons.injEq, List.forall_mem_cons, hl.eq_self_iff, ih]

end

/-! ## The statement -/

theorem toList_infix_joinWith {sep s : String} {ss : List String} (h : s ∈ ss) :
    s.toList <:+: (Text.joinWith sep ss).toList := by
  fun_induction Text.joinWith sep ss with
  | case1 => cases h
  | case2 => rw [List.mem_singleton.mp h]
  | case3 t u rest ih =>
    rw [String.toList_append, String.toList_append, List.append_assoc]
    rcases List.mem_cons.mp h with rfl | hrest
    · exact (List.prefix_append ..).isInfix
    · exact (ih hrest).trans ((List.suffix_append ..).trans (List.suffix_append ..)).isInfix

/-- The key list stands in the statement. -/
theorem keys_infix_createIndex (words : String) (i : Index) (t : TargetTable) (keys : String) :
    keys.toList <:+: (createIndex words i t keys).toList := by
  unfold createIndex
  exact ⟨_, _, by rw [String.toList_append, String.toList_append]⟩

/-- The statement of a function-based index has its expressions, each in parentheses. -/
theorem infix_statement_of_mem_keyParts {i : Index} {table e s : String} {t : TargetTable}
    {expected : Uniqueness} {w : Warning} (hkind : i.kind = .functionBased)
    (he : .expression e ∈ i.keyParts) (hs : i.statement table t expected = .ok (.review s w)) :
    '(' :: ((renderExpression e).toList ++ [')']) <:+: s.toList := by
  obtain ⟨-, -, hwritten⟩ := Index.statement_eq_ok hs
  have hsql : s = i.sql t := by
    rw [Index.written, hkind] at hwritten
    exact (IndexStatement.review.inj hwritten).1
  have hpart : (renderKeyPart (.expression e)).toList <:+:
      (Text.joinWith "," (i.keyParts.map renderKeyPart)).toList :=
    toList_infix_joinWith (List.mem_map_of_mem he)
  have hpositions : (Text.joinWith "," (i.keyParts.map renderKeyPart)).toList <:+: s.toList := by
    rw [hsql, Index.sql, hkind]
    exact keys_infix_createIndex ..
  have htext : (renderKeyPart (.expression e)).toList =
      '(' :: ((renderExpression e).toList ++ [')']) := by
    rw [renderKeyPart, String.toList_append, String.toList_append]
    rfl
  rw [← htext]
  exact hpart.trans hpositions

/-- **The literals of an indexed expression**: every piece of it is put into lower case, and
names are put between backticks. This is what stands in parentheses in the statement of the
index. A reader of it finds the literals in lower case, so they are the ones of the expression
iff these are in lower case already. -/
theorem renderExpression_literals {e : String} {ps : List Piece}
    (h : Divides doubleQuote e.toList ps) (hlone : QuotesLone ps) :
    ∃ qs, List.Forall₂ Piece.LowersTo ps qs ∧
      (renderExpression e).toList = qs.flatMap Piece.written ∧
      ((∀ cs, Piece.plain cs ∈ ps → backtick ∉ cs) →
        ∃ rs, Divides backtick (renderExpression e).toList rs ∧ literals rs = literals qs) ∧
      (literals qs = literals ps ↔ ∀ l ∈ literals ps, ∀ c ∈ l, Text.lowerChar c = [c]) ∧
      ∀ (i : Index) (table : String) (t : TargetTable) (expected : Uniqueness) (s : String)
        (w : Warning), i.kind = .functionBased → .expression e ∈ i.keyParts →
        i.statement table t expected = .ok (.review s w) →
          '(' :: (qs.flatMap Piece.written ++ [')']) <:+: s.toList := by
  obtain ⟨qs, hqs, htext⟩ := h.exists_requote hlone (Text.lowersTo_lowerAfter [] e.toList)
  have hwritten : (renderExpression e).toList = qs.flatMap Piece.written := by
    rw [renderExpression, String.toList_ofList, Text.lowerChars, htext]
  refine ⟨qs, hqs, hwritten, ?_, eq_iff_of_lowersTo (literals_lowersTo hqs), ?_⟩
  · intro hplain
    rw [hwritten]
    exact h.exists_read hqs hplain
  · intro i table t expected s w hkind he hs
    rw [← hwritten]
    exact infix_statement_of_mem_keyParts hkind he hs

/-- A double quote alone in a literal is no mark of a name. -/
theorem renderExpression_loneQuote :
    renderExpression "\"S\"||'a\"'" = "`s`||'a\"'" ∧
      ∃ rs, Divides backtick (renderExpression "\"S\"||'a\"'").toList rs ∧
        literals rs = [['a', doubleQuote]] := by
  have hdivides : Divides doubleQuote "\"S\"||'a\"'".toList
      [.name ['S'], .plain ['|'], .plain ['|'], .literal ['a', doubleQuote]] :=
    .name ['S'] (by decide) <| .plain '|' (by decide) (by decide) <|
      .plain '|' (by decide) (by decide) <| .literal ['a', doubleQuote] (by decide) .nil
  have hlone : QuotesLone [.name ['S'], .plain ['|'], .plain ['|'], .literal ['a', doubleQuote]] :=
    ⟨fun _ => ⟨by decide, by decide⟩, trivial⟩
  obtain ⟨qs, -, -, hread, hsame, -⟩ := renderExpression_literals hdivides hlone
  have hletter : Text.lowerChar 'a' = ['a'] := by decide
  have hliterals : literals qs = [['a', doubleQuote]] := by
    refine hsame.mpr (List.forall_mem_singleton.mpr (List.forall_mem_cons.mpr ⟨hletter, ?_⟩))
    exact List.forall_mem_singleton.mpr (Text.lowerChar_of_isMark isMark_doubleQuote)
  obtain ⟨rs, hrs, heq⟩ := hread (by simp [backtick])
  exact ⟨by decide +kernel, rs, hrs, heq.trans hliterals⟩

/-- Whether a reader of the statement finds the literals of an expression. -/
def KeepsLiterals (e : String) : Prop :=
  ∀ ps, Divides doubleQuote e.toList ps →
    ∃ rs, Divides backtick (renderExpression e).toList rs ∧ literals rs = literals ps

/-- A capital in a literal is lost, and so are two double quotes. -/
theorem not_keepsLiterals : ¬ KeepsLiterals "'A'" ∧ ¬ KeepsLiterals "'\"a\"'" := by
  have hmark : backtick ≠ apostrophe := by decide
  constructor
  · intro h
    obtain ⟨rs, hrs, hliterals⟩ := h [.literal ['A']] (.literal ['A'] (by decide) .nil)
    have hlower : Divides backtick (renderExpression "'A'").toList [.literal ['a']] := by
      rw [show renderExpression "'A'" = "'a'" by decide +kernel]
      exact .literal ['a'] (by decide) .nil
    rw [hrs.unique hmark hlower] at hliterals
    exact absurd hliterals (by decide)
  · intro h
    obtain ⟨rs, hrs, hliterals⟩ := h [.literal [doubleQuote, 'a', doubleQuote]]
      (.literal [doubleQuote, 'a', doubleQuote] (by decide) .nil)
    have hquoted : Divides backtick (renderExpression "'\"a\"'").toList
        [.literal [backtick, 'a', backtick]] := by
      rw [show renderExpression "'\"a\"'" = "'`a`'" by decide +kernel]
      exact .literal [backtick, 'a', backtick] (by decide) .nil
    rw [hrs.unique hmark hquoted] at hliterals
    exact absurd hliterals (by decide)

end CatalogDdl.Ddl
