import CatalogDdl.Ddl.Quote
import CatalogDdl.Proofs.CheckSegments
import Mathlib.Data.List.Infix

/-!
# Parentheses of a check

A check is cut at its operators wherever they stand, so a segment that goes may hold one
parenthesis of a pair and leave the other one behind. What remains then is not one
expression any more, and the statement that adds it cannot be read. This is a matter of
counting. The parentheses of what remains are those of the segments that stay, in their
order: blanks are none and operators have none. At any place in a segment that stays, the
number of open ones has become smaller by what the segments that went before it have left
open. So what remains is balanced iff this is never more than there were, and nothing at
the end.

- `depth`, `Balanced`: the count and what it is of a text that can be read.
- `IsOneParenthesis`, `balanced_iff`: a balanced text between parentheses is one expression.
- `balanced_flatten_words`: words are enough to count.
- `KeepsPartners`, `balanced_kept_iff`: which segments can go.
- `residue?_balanced_iff`: when what remains of a balanced check is balanced.
-/

namespace CatalogDdl.Ddl

/-- What a character adds to the number of open parentheses. -/
def parenthesis (c : Char) : Int := if c = '(' then 1 else if c = ')' then -1 else 0

/-- How many more parentheses a text opens than it closes. -/
def depth : List Char → Int
  | [] => 0
  | c :: cs => parenthesis c + depth cs

/-- Whether the parentheses of a text are pairs: up to no place are more closed than opened,
and up to the end as many. -/
structure Balanced (cs : List Char) : Prop where
  depth_eq : depth cs = 0
  depth_nonneg : ∀ front, front <+: cs → 0 ≤ depth front

instance : DecidablePred Balanced := fun cs =>
  decidable_of_iff (depth cs = 0 ∧ ∀ front ∈ cs.inits, 0 ≤ depth front)
    ⟨fun h => ⟨h.1, fun front hfront => h.2 front ((List.mem_inits front cs).mpr hfront)⟩,
      fun h => ⟨h.1, fun front hfront => h.2 front ((List.mem_inits front cs).mp hfront)⟩⟩

/-- Whether the parenthesis that a text starts with is closed at its end, and not before. -/
structure IsOneParenthesis (cs : List Char) : Prop where
  depth_eq : depth cs = 0
  depth_pos : ∀ front, front <+: cs → front ≠ [] → front ≠ cs → 0 < depth front

/-- The characters of some segments, without the blanks between their words. -/
def letters (ss : List (List Word)) : List Char := ss.flatten.flatten

/-- The segments that stay. -/
def stay (ss : List (List Word)) : List (List Word) := ss.filter fun s => ¬ MentionsNotNull s

/-- How many more parentheses are opened than closed in the segments that go. -/
def lost (ss : List (List Word)) : Int := depth (letters (ss.filter fun s => MentionsNotNull s))

/-- Whether the segments that go take no parenthesis from a pair without making up for it:
they close as many as they open, and nowhere in a segment that stays are fewer open than
those before it have left open. -/
structure KeepsPartners (ss : List (List Word)) : Prop where
  lost_eq : lost ss = 0
  lost_le : ∀ before s after, ss = before ++ s :: after → ¬ MentionsNotNull s →
    ∀ front, front <+: s.flatten → lost before ≤ depth (letters before) + depth front

variable {cs ds front : List Char} {ss : List (List Word)}

/-! ## Counting -/

/-- The count goes on from one text to the next. -/
theorem depth_append (cs ds : List Char) : depth (cs ++ ds) = depth cs + depth ds := by
  induction cs with
  | nil => exact (Int.zero_add _).symm
  | cons c cs ih => rw [List.cons_append, depth, depth, ih, Int.add_assoc]

/-- A text without parentheses does not count. -/
theorem depth_filter {keep : Char → Bool} (h : ∀ c, keep c = false → parenthesis c = 0)
    (cs : List Char) : depth (cs.filter keep) = depth cs := by
  induction cs with
  | nil => rfl
  | cons c cs ih =>
    cases hc : keep c with
    | true => rw [List.filter_cons_of_pos hc, depth, depth, ih]
    | false =>
      rw [List.filter_cons_of_neg (by simp [hc]), ih, depth, h c hc, Int.zero_add]

/-- What is no parenthesis does not matter for whether a text is balanced. -/
theorem balanced_filter {keep : Char → Bool} (h : ∀ c, keep c = false → parenthesis c = 0)
    (cs : List Char) : Balanced (cs.filter keep) ↔ Balanced cs := by
  constructor
  · rintro ⟨heq, hnonneg⟩
    rw [depth_filter h] at heq
    refine ⟨heq, fun front hfront => ?_⟩
    rw [← depth_filter h]
    exact hnonneg _ (hfront.filter keep)
  · rintro ⟨heq, hnonneg⟩
    refine ⟨(depth_filter h cs).trans heq, fun front hfront => ?_⟩
    obtain ⟨front', hfront', rfl⟩ := List.prefix_filter_iff.mp hfront
    rw [depth_filter h]
    exact hnonneg _ hfront'

/-- A balanced text between parentheses is one expression, and no other text is. -/
theorem balanced_iff : Balanced cs ↔ IsOneParenthesis ('(' :: (cs ++ [')'])) := by
  have hopen : ∀ ds, depth ('(' :: ds) = 1 + depth ds := fun _ => rfl
  have hclosed : depth ('(' :: (cs ++ [')'])) = depth cs := by
    have hlast : depth [')'] = -1 := by decide
    rw [hopen, depth_append, hlast]
    omega
  -- the parenthesis in front keeps the count at one or more until the last one closes it
  constructor
  · rintro ⟨heq, hnonneg⟩
    refine ⟨hclosed.trans heq, fun front hfront hne hproper => ?_⟩
    cases front with
    | nil => exact absurd rfl hne
    | cons c front =>
      obtain ⟨rfl, hrest⟩ := List.cons_prefix_cons.mp hfront
      rcases List.prefix_concat_iff.mp hrest with rfl | hrest
      · exact absurd rfl hproper
      · have := hnonneg front hrest
        rw [hopen]
        omega
  · rintro ⟨heq, hpos⟩
    refine ⟨hclosed.symm.trans heq, fun front hfront => ?_⟩
    have hproper : '(' :: front ≠ '(' :: (cs ++ [')']) := by
      intro hsame
      have hlength := hfront.length_le
      rw [(List.cons.inj hsame).2, List.length_append, List.length_singleton] at hlength
      omega
    have := hpos ('(' :: front)
      (List.cons_prefix_cons.mpr ⟨rfl, hfront.trans (List.prefix_append _ _)⟩)
      (List.cons_ne_nil _ _) hproper
    rw [hopen] at this
    omega

/-! ## Words -/

theorem parenthesis_eq_zero {c : Char} (hopen : c ≠ '(') (hclose : c ≠ ')') :
    parenthesis c = 0 := by
  rw [parenthesis, if_neg hopen, if_neg hclose]

/-- A blank is no parenthesis. -/
theorem parenthesis_of_isBlank {c : Char} (h : Text.isBlank c = true) : parenthesis c = 0 := by
  refine parenthesis_eq_zero ?_ ?_ <;>
    · rintro rfl
      exact absurd h (by decide)

/-- There are no parentheses in an operator. -/
theorem parenthesis_of_isOperator {w : Word} (h : isOperator w = true) {c : Char} (hc : c ∈ w) :
    parenthesis c = 0 := by
  have hletter := mem_letters_of_isOperator h hc
  refine parenthesis_eq_zero ?_ ?_ <;>
    · rintro rfl
      exact absurd hletter (by decide)

/-- A text is balanced if its words are, with nothing between them. -/
theorem balanced_flatten_words (cs : List Char) :
    Balanced (Text.words cs).flatten ↔ Balanced cs := by
  rw [Text.flatten_words]
  exact balanced_filter (fun c hc => parenthesis_of_isBlank (by simpa using hc)) cs

/-- Texts with the same parentheses in the same order are both balanced or both not. -/
theorem balanced_congr
    (h : (cs.filter fun c => parenthesis c != 0) = ds.filter fun c => parenthesis c != 0) :
    Balanced cs ↔ Balanced ds := by
  have hnone : ∀ c, (parenthesis c != 0) = false → parenthesis c = 0 := fun c hc => by simpa using hc
  rw [← balanced_filter hnone cs, h, balanced_filter hnone ds]

/-- The operators at the two ends do not matter. -/
theorem IsStripped.balanced_iff {ws lead left trail : List Word}
    (h : IsStripped ws lead left trail) : Balanced left.flatten ↔ Balanced ws.flatten := by
  -- what is stripped has no parenthesis, so those of the rest are all of them
  have hnone : ∀ ops : List Word, (∀ w ∈ ops, isOperator w = true) →
      (ops.flatten.filter fun c => parenthesis c != 0) = [] := by
    intro ops hops
    refine List.filter_eq_nil_iff.mpr fun c hc => ?_
    obtain ⟨w, hw, hc⟩ := List.mem_flatten.mp hc
    simp [parenthesis_of_isOperator (hops w hw) hc]
  have hops : ∀ {ops : List Word} {P : Prop},
      (ops = [] ∧ P ∨ ∃ op, ops = [op] ∧ isOperator op = true) →
      ∀ w ∈ ops, isOperator w = true := by
    rintro ops P (⟨rfl, -⟩ | ⟨op, rfl, hop⟩)
    · nofun
    · exact fun w hw => List.mem_singleton.mp hw ▸ hop
  refine balanced_congr ?_
  rw [h.words_eq, List.flatten_append, List.flatten_append, List.filter_append, List.filter_append,
    hnone lead (hops h.lead_eq), hnone trail (hops h.trail_eq), List.append_nil, List.nil_append]

/-! ## Segments -/

theorem letters_append (ss ts : List (List Word)) :
    letters (ss ++ ts) = letters ss ++ letters ts := by
  rw [letters, List.flatten_append, List.flatten_append]
  rfl

theorem letters_cons (s : List Word) (ss : List (List Word)) :
    letters (s :: ss) = s.flatten ++ letters ss := by
  rw [letters, List.flatten_cons, List.flatten_append]
  rfl

theorem stay_append (ss ts : List (List Word)) : stay (ss ++ ts) = stay ss ++ stay ts :=
  List.filter_append ..

theorem stay_cons {s : List Word} (h : ¬ MentionsNotNull s) (ss : List (List Word)) :
    stay (s :: ss) = s :: stay ss := List.filter_cons_of_pos (by simpa using h)

theorem stay_cons_of_mentionsNotNull {s : List Word} (h : MentionsNotNull s)
    (ss : List (List Word)) : stay (s :: ss) = stay ss := List.filter_cons_of_neg (by simpa using h)

theorem lost_cons {s : List Word} (h : ¬ MentionsNotNull s) (ss : List (List Word)) :
    lost (s :: ss) = lost ss := by
  rw [lost, List.filter_cons_of_neg (by simpa using h)]
  rfl

theorem lost_cons_of_mentionsNotNull {s : List Word} (h : MentionsNotNull s)
    (ss : List (List Word)) : lost (s :: ss) = depth s.flatten + lost ss := by
  rw [lost, List.filter_cons_of_pos (by simpa using h), letters_cons, depth_append]
  rfl

/-- A segment counts among those that stay or among those that go. -/
theorem depth_stay_add_lost (ss : List (List Word)) :
    depth (letters (stay ss)) + lost ss = depth (letters ss) := by
  induction ss with
  | nil => rfl
  | cons s ss ih =>
    by_cases hs : MentionsNotNull s
    · rw [stay_cons_of_mentionsNotNull hs, lost_cons_of_mentionsNotNull hs, letters_cons,
        depth_append, ← ih]
      omega
    · rw [stay_cons hs, lost_cons hs, letters_cons, letters_cons, depth_append, depth_append, ← ih]
      omega

/-- A front part of what stays ends in a segment that stays. -/
theorem exists_of_prefix_stay (h : front <+: letters (stay ss)) :
    front = [] ∨ ∃ before s after front', ss = before ++ s :: after ∧ ¬ MentionsNotNull s ∧
      front' <+: s.flatten ∧ front = letters (stay before) ++ front' := by
  induction ss generalizing front with
  | nil => exact .inl (List.prefix_nil.mp h)
  | cons s ss ih =>
    by_cases hs : MentionsNotNull s
    · rw [stay_cons_of_mentionsNotNull hs] at h
      rcases ih h with hnil | ⟨before, t, after, front', rfl, ht, hfront', hfront⟩
      · exact .inl hnil
      · refine .inr ⟨s :: before, t, after, front', rfl, ht, hfront', ?_⟩
        rw [stay_cons_of_mentionsNotNull hs]
        exact hfront
    · obtain ⟨back, hback⟩ := h
      rw [stay_cons hs, letters_cons] at hback
      rcases List.append_eq_append_iff.mp hback with ⟨rest, hrest, -⟩ | ⟨rest, hrest, hback'⟩
      · exact .inr ⟨[], s, ss, front, rfl, hs, ⟨rest, hrest.symm⟩, rfl⟩
      · -- the front part goes on after this segment
        rcases ih ⟨back, hback'.symm⟩ with rfl | ⟨before, t, after, front', rfl, ht, hfront', rfl⟩
        · exact .inr ⟨[], s, ss, s.flatten, rfl, hs, List.prefix_rfl,
            hrest.trans (List.append_nil _)⟩
        · refine .inr ⟨s :: before, t, after, front', rfl, ht, hfront', ?_⟩
          rw [hrest, stay_cons hs, letters_cons, List.append_assoc]

/-- The segments that stay are balanced iff those that go make up for what they take. -/
theorem balanced_stay_iff (h : depth (letters ss) = 0) :
    Balanced (letters (stay ss)) ↔ KeepsPartners ss := by
  have htotal := depth_stay_add_lost ss
  constructor
  · -- up to any place in a segment that stays, the rest of the count is what the lost ones took
    rintro ⟨heq, hnonneg⟩
    refine ⟨by omega, ?_⟩
    rintro before s after rfl hs front hfront
    have hstarts : letters (stay before) ++ front <+: letters (stay (before ++ s :: after)) := by
      rw [stay_append, stay_cons hs, letters_append, letters_cons, List.prefix_append_right_inj]
      exact hfront.trans (List.prefix_append _ _)
    have hdepth := hnonneg _ hstarts
    have hbefore := depth_stay_add_lost before
    rw [depth_append] at hdepth
    omega
  · rintro ⟨hlost, hle⟩
    refine ⟨by omega, fun front hfront => ?_⟩
    rcases exists_of_prefix_stay hfront with rfl | ⟨before, s, after, front', hss, hs, hfront', rfl⟩
    · exact Int.le_refl 0
    · have hbound := hle before s after hss hs front' hfront'
      have hbefore := depth_stay_add_lost before
      rw [depth_append]
      omega

/-- Segments that each close what they open lose nothing. -/
theorem lost_eq_zero (h : ∀ s ∈ ss, MentionsNotNull s → depth s.flatten = 0) : lost ss = 0 := by
  induction ss with
  | nil => rfl
  | cons s ss ih =>
    have hrest := ih fun t ht => h t (List.mem_cons_of_mem _ ht)
    by_cases hs : MentionsNotNull s
    · rw [lost_cons_of_mentionsNotNull hs, hrest, h s (List.mem_cons_self ..) hs]
      rfl
    · rw [lost_cons hs, hrest]

/-- Segments that each close as many parentheses as they open can go. -/
theorem keepsPartners_of_depth (hss : Balanced (letters ss))
    (h : ∀ s ∈ ss, MentionsNotNull s → depth s.flatten = 0) : KeepsPartners ss := by
  refine ⟨lost_eq_zero h, ?_⟩
  rintro before s after rfl hs front hfront
  have hstarts : letters before ++ front <+: letters (before ++ s :: after) := by
    rw [letters_append, letters_cons, List.prefix_append_right_inj]
    exact hfront.trans (List.prefix_append _ _)
  rw [lost_eq_zero fun t ht => h t (List.mem_append_left _ ht), ← depth_append]
  exact hss.depth_nonneg _ hstarts

/-! ## What remains -/

/-- A text whose words are not looked at keeps its parentheses. -/
theorem balanced_of_not_joinsClauses {p q : String}
    (hno : joinsClauses (Text.trimChars p.toList) = false) (hq : residue? p = some q) :
    Balanced q.toList ↔ Balanced p.toList := by
  rw [residue?_of_not_joinsClauses hno] at hq
  split at hq
  · cases hq
  · cases hq
    rw [← balanced_flatten_words, Text.trim, String.toList_ofList, Text.words_trimChars,
      balanced_flatten_words]

/-- Otherwise what remains has the parentheses of the segments that stay. -/
theorem balanced_of_joinsClauses {p q : String}
    (hjoins : joinsClauses (Text.trimChars p.toList) = true) (hq : residue? p = some q) :
    Balanced q.toList ↔ Balanced (letters (stay (segments (Text.words p.toList)))) := by
  obtain ⟨lead, trail, hstripped⟩ :=
    isStripped_residue ((segments (Text.words p.toList)).filter keeps).flatten
  rw [← balanced_flatten_words, (residue?_eq_some hjoins hq).2, residueWords,
    hstripped.balanced_iff, filter_keeps]
  rfl

end CatalogDdl.Ddl
