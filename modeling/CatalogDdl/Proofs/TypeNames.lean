import CatalogDdl.ColumnType.Name
import CatalogDdl.Proofs.UpperCase
import Mathlib.Data.List.Chain

/-!
# The normal form of type names

The normal form of a name is made in several passes: its words are put together with one
space between them, then in upper case, and then five passes take spaces away. They
amount to writing the blanks anew, with one space between two characters that had blanks
between them if both may stand next to a space. A pass only forbids more of these spaces,
so the order of the passes does not matter, and none of them makes work for another one.

From this follow the form of what comes out, that a name of this form stays as it is, and
that two names have one normal form exactly if they differ in case, in blanks between
words, and in blanks around the marks of a parameter list.

- `respace`: the blanks of a text written anew.
- `dropSpaceBefore_respace`, `dropSpaceAfter_respace`: what one pass does.
- `normalizeChars_eq`: what all of them do.
- `IsNormal`, `isNormal_iff`: the form of what comes out, and that it stays.
- `Respelled`, `normalize_eq_iff`: the spellings of one name.
-/

namespace CatalogDdl.TypeName

open Text

/-- A text with its blanks written anew: a space stands between two neighbours that had blanks
between them, if `gap` allows it. Here `last` is the character in front of the text, and `blank`
says whether there were blanks after it. -/
def respace (gap : Char → Char → Bool) (last : Option Char) (blank : Bool) : List Char → List Char
  | [] => []
  | c :: cs =>
    if isBlank c then respace gap last true cs
    else (if blank && last.any (gap · c) then [' '] else []) ++ c :: respace gap (some c) false cs

/-- Whether a space may stand between two characters of a name. -/
def apart (c d : Char) : Bool := c != '(' && c != ',' && d != '(' && d != ')' && d != ','

section
variable {gap : Char → Char → Bool} {last : Option Char} {blank : Bool} {c d m : Char}
  {cs : List Char}

theorem respace_blank (h : isBlank c = true) (cs : List Char) :
    respace gap last blank (c :: cs) = respace gap last true cs := if_pos h

theorem respace_cons (h : isBlank c = false) (cs : List Char) :
    respace gap last blank (c :: cs) =
      (if blank && last.any (gap · c) then [' '] else []) ++ c :: respace gap (some c) false cs :=
  if_neg (Bool.eq_false_iff.mp h)

/-- At the beginning there is no space. -/
theorem respace_cons_none (h : isBlank c = false) (cs : List Char) :
    respace gap none blank (c :: cs) = c :: respace gap (some c) false cs := by
  rw [respace_cons h, Option.any_none, Bool.and_false]
  rfl

/-- A space is written if there were blanks and it is allowed. -/
theorem respace_cons_space (h : isBlank d = false) (hgap : gap c d = true) (cs : List Char) :
    respace gap (some c) true (d :: cs) = ' ' :: d :: respace gap (some d) false cs := by
  rw [respace_cons h, Option.any_some, hgap]
  rfl

/-- Otherwise it is not. -/
theorem respace_cons_close (h : isBlank d = false) (hgap : (blank && gap c d) = false)
    (cs : List Char) :
    respace gap (some c) blank (d :: cs) = d :: respace gap (some d) false cs := by
  rw [respace_cons h, Option.any_some, hgap]
  rfl

theorem ne_space (h : isBlank c = false) : c ≠ ' ' := by
  rintro rfl
  cases h

/-! ## One pass -/

theorem dropSpaceBefore_cons (h : c ≠ ' ') (cs : List Char) :
    dropSpaceBefore m (c :: cs) = c :: dropSpaceBefore m cs := by
  rw [dropSpaceBefore, if_neg (by simp [h])]

theorem dropSpaceBefore_space (cs : List Char) :
    dropSpaceBefore m (' ' :: c :: cs) =
      (if c = m then [] else [' ']) ++ dropSpaceBefore m (c :: cs) := by
  by_cases h : c = m
  · rw [dropSpaceBefore, if_pos (by simp [h]), if_pos h]
    rfl
  · rw [dropSpaceBefore, if_neg (by simp [h]), if_neg h]
    rfl

/-- To take away the spaces before a mark is to allow no spaces before it. -/
theorem dropSpaceBefore_respace (cs : List Char) :
    dropSpaceBefore m (respace gap last blank cs) =
      respace (fun c d => gap c d && d != m) last blank cs := by
  induction cs generalizing last blank with
  | nil => rfl
  | cons c cs ih =>
    cases hc : isBlank c with
    | true => rw [respace_blank hc, respace_blank hc, ih]
    | false =>
      have hrest : dropSpaceBefore m (c :: respace gap (some c) false cs) =
          c :: respace (fun c d => gap c d && d != m) (some c) false cs := by
        rw [dropSpaceBefore_cons (ne_space hc), ih]
      -- only here does a space come out in front of `c`, so only here the pass has something to do
      cases last with
      | none => rw [respace_cons_none hc, respace_cons_none hc, hrest]
      | some b =>
        cases hgap : blank && gap b c with
        | false =>
          rw [respace_cons_close hc hgap, hrest, respace_cons_close hc]
          rw [← Bool.and_assoc, hgap, Bool.false_and]
        | true =>
          obtain ⟨rfl, hallows⟩ := (Bool.and_eq_true _ _).mp hgap
          rw [respace_cons_space hc hallows, dropSpaceBefore_space, hrest]
          by_cases hm : c = m
          · rw [if_pos hm, respace_cons_close hc (by simp [hm])]
            rfl
          · rw [if_neg hm, respace_cons_space hc (by simp [hallows, hm])]
            rfl

theorem dropSpaceAfter_cons (h : d ≠ ' ') (cs : List Char) :
    dropSpaceAfter m (c :: d :: cs) = c :: dropSpaceAfter m (d :: cs) := by
  rw [dropSpaceAfter, if_neg (by simp [h])]

/-- A space after a mark goes, and one after another character stays. -/
theorem dropSpaceAfter_space (h : d ≠ ' ') (cs : List Char) :
    dropSpaceAfter m (c :: ' ' :: d :: cs) =
      c :: ((if c = m then [] else [' ']) ++ dropSpaceAfter m (d :: cs)) := by
  by_cases hc : c = m
  · rw [dropSpaceAfter, if_pos (by simp [hc]), if_pos hc]
    rfl
  · rw [dropSpaceAfter, if_neg (by simp [hc]), if_neg hc, dropSpaceAfter_cons h]
    rfl

/-- To take away the space after a mark is to allow no spaces after it. -/
theorem dropSpaceAfter_cons_respace (cs : List Char) :
    dropSpaceAfter m (c :: respace gap (some c) blank cs) =
      c :: respace (fun c d => gap c d && c != m) (some c) blank cs := by
  induction cs generalizing c blank with
  | nil => rfl
  | cons d cs ih =>
    cases hd : isBlank d with
    | true => rw [respace_blank hd, respace_blank hd, ih]
    | false =>
      -- the pass looks at a character with the one behind it, so `c` is kept in front in the
      -- induction
      cases hgap : blank && gap c d with
      | false =>
        rw [respace_cons_close hd hgap, dropSpaceAfter_cons (ne_space hd), ih,
          respace_cons_close hd]
        rw [← Bool.and_assoc, hgap, Bool.false_and]
      | true =>
        obtain ⟨rfl, hallows⟩ := (Bool.and_eq_true _ _).mp hgap
        rw [respace_cons_space hd hallows, dropSpaceAfter_space (ne_space hd), ih]
        by_cases hc : c = m
        · rw [if_pos hc, respace_cons_close hd (by simp [hc])]
          rfl
        · rw [if_neg hc, respace_cons_space hd (by simp [hallows, hc])]
          rfl

/-- The same for a whole text, which has nothing in front of it. -/
theorem dropSpaceAfter_respace (cs : List Char) :
    dropSpaceAfter m (respace gap none blank cs) =
      respace (fun c d => gap c d && c != m) none blank cs := by
  induction cs generalizing blank with
  | nil => rfl
  | cons c cs ih =>
    cases hc : isBlank c with
    | true => rw [respace_blank hc, respace_blank hc, ih]
    | false =>
      rw [respace_cons_none hc, dropSpaceAfter_cons_respace, respace_cons_none hc]

end

/-! ## All of them -/

theorem joinCharsWith_cons_cons (c : Char) (w sep : List Char) (ws : List (List Char)) :
    joinCharsWith sep ((c :: w) :: ws) = c :: joinCharsWith sep (w :: ws) := by
  cases ws <;> rfl

/-- The first word of some words, or the rest of it, with spaces in front of the others. -/
theorem cons_respace_true {c : Char} (hc : isBlank c = false) (cs : List Char) :
    c :: respace (fun _ _ => true) (some c) false cs = joinCharsWith [' '] (words (c :: cs)) ∧
      c :: respace (fun _ _ => true) (some c) true cs = joinCharsWith [' '] ([c] :: words cs) := by
  induction cs generalizing c with
  | nil =>
    rw [words_last hc (.inl rfl)]
    exact ⟨rfl, rfl⟩
  | cons d cs ih =>
    cases hd : isBlank d with
    -- a blank ends the word, whether it is the first blank or a further one
    | true =>
      rw [respace_blank hd, respace_blank hd, words_last hc (.inr ⟨d, cs, rfl, hd⟩),
        words_blank hd]
      exact ⟨(ih hc).2, (ih hc).2⟩
    | false =>
      obtain ⟨w, ws, hws⟩ := exists_words_eq_cons hd cs
      have hrest := (ih hd).1
      rw [hws] at hrest
      rw [respace_cons_close hd rfl, respace_cons_space hd rfl, hrest, words_cons hc hd hws, hws]
      exact ⟨(joinCharsWith_cons_cons c (d :: w) [' '] ws).symm, rfl⟩

/-- Words with single spaces between them are the text with its blanks written anew. -/
theorem respace_true (blank : Bool) (cs : List Char) :
    respace (fun _ _ => true) none blank cs = joinCharsWith [' '] (words cs) := by
  induction cs generalizing blank with
  | nil => rfl
  | cons c cs ih =>
    cases hc : isBlank c with
    | true => rw [respace_blank hc, words_blank hc, ih]
    | false => rw [respace_cons_none hc, (cons_respace_true hc cs).1]

/-- The five passes together allow no space where `apart` forbids one. -/
theorem tightenMarks_joinCharsWith (cs : List Char) :
    tightenMarks (joinCharsWith [' '] (words cs)) = respace apart none false cs := by
  have hgap : apart = fun c d =>
      ((((true && d != '(') && c != '(') && d != ')') && d != ',') && c != ',' := by
    funext c d
    simp only [apart, Bool.true_and]
    ac_rfl
  rw [← respace_true false, tightenMarks, dropSpaceBefore_respace, dropSpaceAfter_respace,
    dropSpaceBefore_respace, dropSpaceBefore_respace, dropSpaceAfter_respace, hgap]

/-- Upper case and the spaces between words do not get in each other's way. -/
theorem upperChars_joinCharsWith (ws : List (List Char)) :
    upperChars (joinCharsWith [' '] ws) = joinCharsWith [' '] (ws.map upperChars) := by
  have hspace : upperChars [' '] = [' '] := by decide
  fun_induction joinCharsWith [' '] ws with
  | case1 => rfl
  | case2 w => rfl
  | case3 w v rest ih =>
    rw [upperChars_append, upperChars_append, hspace, ih]
    rfl

/-- **The normal form of a name** is its upper case with the blanks written anew. -/
theorem normalizeChars_eq (cs : List Char) :
    normalizeChars cs = respace apart none false (upperChars cs) := by
  rw [normalizeChars, upperChars_joinCharsWith, ← words_upperChars, tightenMarks_joinCharsWith]

/-! ## The normal form -/

/-- Whether a character may follow another one in a name: no blank follows a blank, an opening
parenthesis or a comma, and no blank is followed by a parenthesis or a comma. -/
def MayFollow (c d : Char) : Prop :=
  (isBlank c = true → isBlank d = false ∧ d ≠ '(' ∧ d ≠ ')' ∧ d ≠ ',') ∧
    (isBlank d = true → c ≠ '(' ∧ c ≠ ',')

/-- Names in normal form: in upper case, without blanks at the ends, and with single spaces only,
none of them next to an opening parenthesis or a comma or in front of a closing parenthesis. -/
structure IsNormal (cs : List Char) : Prop where
  upper : upperChars cs = cs
  trimmed : IsTrimmed cs
  spaces : ∀ c ∈ cs, isBlank c = true → c = ' '
  neighbours : cs.IsChain MayFollow

section
variable {c d : Char} {cs : List Char}

theorem mayFollow_of_not_isBlank (hc : isBlank c = false) (hd : isBlank d = false) :
    MayFollow c d := by
  constructor
  · intro h
    rw [hc] at h
    cases h
  · intro h
    rw [hd] at h
    cases h

/-- A space may stand between two characters iff they may be kept apart. -/
theorem mayFollow_space_iff (hc : isBlank c = false) (hd : isBlank d = false) :
    MayFollow c ' ' ∧ MayFollow ' ' d ↔ apart c d = true := by
  have hspace : isBlank ' ' = true := by decide
  simp only [MayFollow, apart, hc, hd, hspace, Bool.and_eq_true, bne_iff_ne]
  simp only [Bool.false_eq_true, false_implies, true_implies, true_and, and_true, and_assoc]

/-- The characters of a text with its blanks written anew. -/
theorem mem_respace {gap : Char → Char → Bool} {last : Option Char} {blank : Bool}
    (h : d ∈ respace gap last blank cs) : d = ' ' ∨ d ∈ cs ∧ isBlank d = false := by
  induction cs generalizing last blank with
  | nil => cases h
  | cons c cs ih =>
    cases hc : isBlank c with
    | true =>
      rw [respace_blank hc] at h
      exact (ih h).imp_right fun h => ⟨List.mem_cons_of_mem _ h.1, h.2⟩
    | false =>
      rw [respace_cons hc, List.mem_append, List.mem_cons] at h
      rcases h with h | rfl | h
      · split at h
        · exact .inl (List.mem_singleton.mp h)
        · cases h
      · exact .inr ⟨List.mem_cons_self .., hc⟩
      · exact (ih h).imp_right fun h => ⟨List.mem_cons_of_mem _ h.1, h.2⟩

/-- Blanks that are written anew have the neighbours that they may have. -/
theorem isChain_cons_respace {blank : Bool} (hc : isBlank c = false) (cs : List Char) :
    (c :: respace apart (some c) blank cs).IsChain MayFollow := by
  induction cs generalizing c blank with
  | nil => exact List.isChain_singleton c
  | cons d cs ih =>
    cases hd : isBlank d with
    | true =>
      rw [respace_blank hd]
      exact ih hc
    | false =>
      cases hgap : blank && apart c d with
      | false =>
        rw [respace_cons_close hd hgap, List.isChain_cons_cons]
        exact ⟨mayFollow_of_not_isBlank hc hd, ih hd⟩
      | true =>
        obtain ⟨rfl, hapart⟩ := (Bool.and_eq_true _ _).mp hgap
        obtain ⟨hleft, hright⟩ := (mayFollow_space_iff hc hd).mpr hapart
        rw [respace_cons_space hd hapart, List.isChain_cons_cons, List.isChain_cons_cons]
        exact ⟨hleft, hright, ih hd⟩

/-- They are not at the end. -/
theorem isBlank_getLast?_respace {gap : Char → Char → Bool} {blank : Bool}
    (hc : isBlank c = false) (cs : List Char) :
    ∀ e ∈ (c :: respace gap (some c) blank cs).getLast?, isBlank e = false := by
  induction cs generalizing c blank with
  | nil =>
    intro e he
    cases he
    exact hc
  | cons d cs ih =>
    cases hd : isBlank d with
    | true =>
      rw [respace_blank hd]
      exact ih hc
    | false =>
      rw [respace_cons hd, ← List.cons_append,
        List.getLast?_append_of_ne_nil _ (List.cons_ne_nil _ _)]
      exact ih hd

/-- A text that starts with something else than a blank. -/
theorem respace_none_cases (gap : Char → Char → Bool) (blank : Bool) (cs : List Char) :
    respace gap none blank cs = [] ∨
      ∃ c ds, isBlank c = false ∧
        respace gap none blank cs = c :: respace gap (some c) false ds := by
  induction cs generalizing blank with
  | nil => exact .inl rfl
  | cons c cs ih =>
    cases hc : isBlank c with
    | true =>
      rw [respace_blank hc]
      exact ih true
    | false => exact .inr ⟨c, cs, hc, respace_cons_none hc cs⟩

/-- What the passes make of a name is in normal form. -/
theorem isNormal_normalizeChars (cs : List Char) : IsNormal (normalizeChars cs) := by
  rw [normalizeChars_eq]
  have hmem : ∀ d ∈ respace apart none false (upperChars cs), d = ' ' ∨
      d ∈ upperChars cs ∧ isBlank d = false := fun d hd => mem_respace hd
  have hupper : upperChars (respace apart none false (upperChars cs)) =
      respace apart none false (upperChars cs) := by
    refine upperChars_of_forall fun d hd => ?_
    rcases hmem d hd with rfl | ⟨hd, -⟩
    · decide
    · exact upperChar_of_mem_upperChars hd
  have hspaces : ∀ d ∈ respace apart none false (upperChars cs), isBlank d = true → d = ' ' := by
    intro d hd hblank
    rcases hmem d hd with rfl | ⟨-, hnot⟩
    · rfl
    · rw [hblank] at hnot
      cases hnot
  -- it starts with the first character that is no blank, if there is one
  rcases respace_none_cases apart false (upperChars cs) with hnil | ⟨c, ds, hc, hcs⟩
  · rw [hnil]
    exact ⟨rfl, ⟨nofun, nofun⟩, nofun, List.isChain_nil⟩
  · refine ⟨hupper, ⟨?_, ?_⟩, hspaces, ?_⟩
    · rw [hcs]
      intro d hd
      cases hd
      exact hc
    · rw [hcs]
      exact isBlank_getLast?_respace hc ds
    · rw [hcs]
      exact isChain_cons_respace hc ds

end

/-- A text whose blanks have the neighbours that they may have stays as it is. -/
theorem respace_of_isChain : ∀ {c : Char} {cs : List Char}, isBlank c = false →
    (c :: cs).IsChain MayFollow → (∀ d ∈ cs, isBlank d = true → d = ' ') →
    (∀ d ∈ (c :: cs).getLast?, isBlank d = false) → respace apart (some c) false cs = cs
  | _, [], _, _, _, _ => rfl
  | c, d :: cs, hc, hchain, hspaces, hlast => by
    obtain ⟨hleft, hrest⟩ := List.isChain_cons_cons.mp hchain
    rw [List.getLast?_cons_cons] at hlast
    cases hd : isBlank d with
    | false =>
      rw [respace_cons_close hd rfl, respace_of_isChain hd hrest
        (fun e he => hspaces e (List.mem_cons_of_mem _ he)) hlast]
    -- a space is followed by something else, which may have it in front
    | true =>
      obtain rfl : d = ' ' := hspaces d (List.mem_cons_self ..) hd
      cases cs with
      | nil =>
        rw [hlast ' ' rfl] at hd
        cases hd
      | cons e cs =>
        obtain ⟨hright, hrest⟩ := List.isChain_cons_cons.mp hrest
        have he : isBlank e = false := (hright.1 hd).1
        rw [List.getLast?_cons_cons] at hlast
        have hapart := (mayFollow_space_iff hc he).mp ⟨hleft, hright⟩
        rw [respace_blank hd, respace_cons_space he hapart,
          respace_of_isChain he hrest
            (fun f hf => hspaces f (List.mem_cons_of_mem _ (List.mem_cons_of_mem _ hf))) hlast]

/-- **A name is in normal form iff it stays as it is.** -/
theorem isNormal_iff {cs : List Char} : IsNormal cs ↔ normalizeChars cs = cs := by
  constructor
  · rintro ⟨hupper, ⟨hhead, hlast⟩, hspaces, hchain⟩
    rw [normalizeChars_eq, hupper]
    cases cs with
    | nil => rfl
    | cons c cs =>
      have hc : isBlank c = false := hhead c rfl
      rw [respace_cons_none hc, respace_of_isChain hc hchain
        (fun d hd => hspaces d (List.mem_cons_of_mem _ hd)) hlast]
  · intro h
    rw [← h]
    exact isNormal_normalizeChars cs

/-- A name is put into normal form once and for all. -/
theorem normalize_normalize (s : String) : normalize (normalize s) = normalize s := by
  rw [normalize, normalize, String.toList_ofList, isNormal_iff.mp (isNormal_normalizeChars _)]

/-! ## Spellings -/

/-- Two spellings of one name: they differ in case, in the blanks around their words, or in a blank
next to a mark of a parameter list, or in several of these. -/
inductive Respelled : List Char → List Char → Prop
  | case {cs ds : List Char} (h : upperChars cs = upperChars ds) : Respelled cs ds
  | blanks {cs ds : List Char} (h : words cs = words ds) : Respelled cs ds
  | before (front back : List Char) {b m : Char} (hb : isBlank b = true)
      (hm : m ∈ ['(', ')', ',']) : Respelled (front ++ b :: m :: back) (front ++ m :: back)
  | after (front back : List Char) {b m : Char} (hb : isBlank b = true) (hm : m ∈ ['(', ',']) :
      Respelled (front ++ m :: b :: back) (front ++ m :: back)
  | symm {cs ds : List Char} (h : Respelled cs ds) : Respelled ds cs
  | trans {cs ds es : List Char} (h : Respelled cs ds) (h' : Respelled ds es) : Respelled cs es

section
variable {gap : Char → Char → Bool} {last : Option Char} {blank : Bool} {m : Char}

/-- The text in front only matters for what is in front of the rest. -/
theorem exists_respace_append (gap : Char → Char → Bool) (last : Option Char) (blank : Bool)
    (front : List Char) :
    ∃ out last' blank', ∀ back,
      respace gap last blank (front ++ back) = out ++ respace gap last' blank' back := by
  induction front generalizing last blank with
  | nil => exact ⟨[], last, blank, fun _ => rfl⟩
  | cons c front ih =>
    cases hc : isBlank c with
    | true =>
      obtain ⟨out, last', blank', h⟩ := ih last true
      exact ⟨out, last', blank', fun back => by rw [List.cons_append, respace_blank hc, h]⟩
    | false =>
      obtain ⟨out, last', blank', h⟩ := ih (some c) false
      refine ⟨(if blank && last.any (gap · c) then [' '] else []) ++ c :: out, last', blank',
        fun back => ?_⟩
      rw [List.cons_append, respace_cons hc, h, List.append_assoc, List.cons_append]

/-- Blanks in front of a character that has no space in front of it do not matter. -/
theorem respace_before (h : ∀ c, gap c m = false) (hm : isBlank m = false) (cs : List Char) :
    respace gap last blank (m :: cs) = m :: respace gap (some m) false cs := by
  have hnone : last.any (gap · m) = false := by
    cases last with
    | none => rfl
    | some c => exact h c
  rw [respace_cons hm, hnone, Bool.and_false]
  rfl

/-- Blanks behind a character that has no space behind it do not matter. -/
theorem respace_after (h : ∀ d, gap m d = false) (cs : List Char) :
    respace gap (some m) true cs = respace gap (some m) false cs := by
  cases cs with
  | nil => rfl
  | cons d cs =>
    cases hd : isBlank d with
    | true => rw [respace_blank hd, respace_blank hd]
    | false => rw [respace_cons_close hd (by rw [h d, Bool.and_false]),
      respace_cons_close hd rfl]

end

/-- The marks that have no space before them. -/
theorem apart_before {m : Char} (h : m ∈ ['(', ')', ',']) :
    IsPlain m ∧ isBlank m = false ∧ ∀ c, apart c m = false := by
  simp only [List.mem_cons, List.not_mem_nil, or_false] at h
  rcases h with rfl | rfl | rfl
  all_goals exact ⟨by decide, by decide, fun c => by simp [apart]⟩

/-- The marks that have no space after them. -/
theorem apart_after {m : Char} (h : m ∈ ['(', ',']) :
    IsPlain m ∧ isBlank m = false ∧ ∀ d, apart m d = false := by
  simp only [List.mem_cons, List.not_mem_nil, or_false] at h
  rcases h with rfl | rfl
  all_goals exact ⟨by decide, by decide, fun d => by simp [apart]⟩

/-- Spellings of one name have one normal form. -/
theorem Respelled.normalizeChars_eq {cs ds : List Char} (h : Respelled cs ds) :
    normalizeChars cs = normalizeChars ds := by
  induction h with
  | case h => rw [TypeName.normalizeChars_eq, TypeName.normalizeChars_eq, h]
  | blanks h => rw [normalizeChars, normalizeChars, h]
  | @before front back b m hb hm =>
    obtain ⟨hplain, hnot, hclose⟩ := apart_before hm
    obtain ⟨out, last, blank, hout⟩ := exists_respace_append apart none false
      (upperChars front)
    rw [TypeName.normalizeChars_eq, TypeName.normalizeChars_eq,
      upperChars_append, upperChars_append, upperChars_cons (isPlain_of_isBlank hb),
      upperChars_cons hplain, hout, hout, respace_blank hb, respace_before hclose hnot,
      respace_before hclose hnot]
  | @after front back b m hb hm =>
    obtain ⟨hplain, hnot, hclose⟩ := apart_after hm
    obtain ⟨out, last, blank, hout⟩ := exists_respace_append apart none false
      (upperChars front)
    rw [TypeName.normalizeChars_eq, TypeName.normalizeChars_eq,
      upperChars_append, upperChars_append, upperChars_cons hplain, upperChars_cons hplain,
      upperChars_cons (isPlain_of_isBlank hb), hout, hout, respace_cons hnot, respace_cons hnot,
      respace_blank hb, respace_after hclose]
  | symm _ ih => exact ih.symm
  | trans _ _ ih ih' => exact ih.trans ih'

theorem Respelled.refl (cs : List Char) : Respelled cs cs := .case rfl

/-- Taking spaces away before a mark leads to another spelling. -/
theorem respelled_dropSpaceBefore {m : Char} (hm : m ∈ ['(', ')', ',']) (cs front : List Char) :
    Respelled (front ++ cs) (front ++ dropSpaceBefore m cs) := by
  induction cs generalizing front with
  | nil => exact .refl _
  | cons c cs ih =>
    rw [dropSpaceBefore]
    split
    · rename_i hspace
      simp only [Bool.and_eq_true, decide_eq_true_eq, beq_iff_eq] at hspace
      obtain ⟨rfl, hhead⟩ := hspace
      obtain ⟨rest, rfl⟩ := List.head?_eq_some_iff.mp hhead
      exact (Respelled.before front rest (by decide) hm).trans (ih front)
    · rw [List.append_cons, List.append_cons front c (dropSpaceBefore m cs)]
      exact ih (front ++ [c])

/-- So does taking them away after one. -/
theorem respelled_dropSpaceAfter {m : Char} (hm : m ∈ ['(', ',']) (cs front : List Char) :
    Respelled (front ++ cs) (front ++ dropSpaceAfter m cs) := by
  fun_induction dropSpaceAfter m cs generalizing front with
  | case1 => exact .refl _
  | case2 c => exact .refl _
  | case3 c d cs h ih =>
    simp only [Bool.and_eq_true, decide_eq_true_eq] at h
    obtain ⟨rfl, rfl⟩ := h
    have hrest := ih (front ++ [c])
    rw [List.append_assoc, List.append_assoc] at hrest
    exact (Respelled.after front cs (by decide) hm).trans hrest
  | case4 c d cs h ih =>
    have hrest := ih (front ++ [c])
    rw [List.append_assoc, List.append_assoc] at hrest
    exact hrest

/-- The normal form of a name is a spelling of it. -/
theorem respelled_normalizeChars (cs : List Char) : Respelled cs (normalizeChars cs) := by
  have hwords : Respelled cs (joinCharsWith [' '] (words cs)) :=
    .blanks (words_joinCharsWith fun w hw => isWord_of_mem hw).symm
  have hcase : Respelled (joinCharsWith [' '] (words cs))
      (upperChars (joinCharsWith [' '] (words cs))) := .case (upperChars_upperChars _).symm
  -- one spelling after the other, pass by pass
  have htighten : ∀ ds, Respelled ds (tightenMarks ds) := fun ds =>
    (((((respelled_dropSpaceBefore (by decide) ds []).trans
      (respelled_dropSpaceAfter (by decide) _ [])).trans
      (respelled_dropSpaceBefore (by decide) _ [])).trans
      (respelled_dropSpaceBefore (by decide) _ [])).trans
      (respelled_dropSpaceAfter (by decide) _ []))
  exact (hwords.trans hcase).trans (htighten _)

/-- **Two texts have one normal form iff they are spellings of one name.** -/
theorem normalize_eq_iff {s t : String} :
    normalize s = normalize t ↔ Respelled s.toList t.toList := by
  rw [normalize, normalize, String.ofList_inj]
  constructor
  · intro h
    have hs := respelled_normalizeChars s.toList
    rw [h] at hs
    exact hs.trans (respelled_normalizeChars t.toList).symm
  · exact Respelled.normalizeChars_eq

end CatalogDdl.TypeName
