import CatalogDdl.Proofs.CheckSegments
import CatalogDdl.Proofs.LetterCase

/-!
# IS NOT NULL and the blanks in it

In the words of a predicate, IS NOT NULL is in three words that follow each other, and the
second and the third are no operators, so it is in a predicate exactly if it is in one of
its segments. If the words are looked at, such a segment goes, whatever blanks there are,
and what remains has no segment of this kind.

A predicate that is a single clause is looked at as it is written. IS NOT NULL is then
found only if it is in the first line, with single spaces in it. So one and the same
clause goes in one spelling and stays in another: `A IS NOT NULL` goes, and stays with a
line end after `A`.

- `IsTest`, `mentionsNotNull_iff`: the three words.
- `exists_segment_of_isTest`: they are in one segment.
- `not_mentionsNotNull_residueWords`: what remains of the words that are looked at.
- `ShowsNotNull`: what is found in a clause as it is written.
- `residue?_respaced_iff`: for which predicates the blanks do not matter.
-/

namespace CatalogDdl.Ddl

/-! ## Three words -/

/-- Three words that IS NOT NULL is in, in any case: the first one ends with IS, the second one is
NOT, and the third one starts with NULL. -/
inductive IsTest : List Word → Prop
  | mk {i n u : Word} (front back : Word) (hi : i.map foldChar = ['i', 's'])
      (hn : n.map foldChar = ['n', 'o', 't']) (hu : u.map foldChar = ['n', 'u', 'l', 'l']) :
      IsTest [front ++ i, n, u ++ back]

theorem isBlank_foldChar (c : Char) : Text.isBlank (foldChar c) = Text.isBlank c := by
  unfold foldChar
  split
  · rename_i h
    rw [h]
    decide
  · exact Text.isBlank_toLower c

theorem isWord_of_map_foldChar {w v : Word} (h : w.map foldChar = v) (hne : v ≠ [])
    (hv : v.any Text.isBlank = false) : Text.IsWord w := by
  refine ⟨fun hnil => hne (by rw [← h, hnil]; rfl), fun c hc => ?_⟩
  rw [← isBlank_foldChar, Bool.eq_false_iff]
  exact List.any_eq_false.mp hv _ (h ▸ List.mem_map_of_mem hc)

/-- IS NOT NULL in a text is in three words of it. -/
theorem exists_isTest_of_infix {cs : List Char} (h : notNullTest <:+: cs.map foldChar) :
    ∃ t, IsTest t ∧ t <:+: Text.words cs := by
  obtain ⟨m, ⟨a, b, hcs⟩, hm⟩ := List.infix_map_iff.mp h
  have hparts : m.map foldChar =
      ['i', 's'] ++ ' ' :: (['n', 'o', 't'] ++ ' ' :: ['n', 'u', 'l', 'l']) := hm.symm
  obtain ⟨i, _, rfl, hi, hparts⟩ := List.map_eq_append_iff.mp hparts
  obtain ⟨s, _, rfl, hs, hparts⟩ := List.map_eq_cons_iff.mp hparts
  obtain ⟨n, _, rfl, hn, hparts⟩ := List.map_eq_append_iff.mp hparts
  obtain ⟨s', u, rfl, hs', hu⟩ := List.map_eq_cons_iff.mp hparts
  have hblank : Text.isBlank s = true := by rw [← isBlank_foldChar, hs]; decide
  have hblank' : Text.isBlank s' = true := by rw [← isBlank_foldChar, hs']; decide
  have hiw : Text.IsWord i := isWord_of_map_foldChar hi (by simp) (by decide)
  have hnw : Text.IsWord n := isWord_of_map_foldChar hn (by simp) (by decide)
  have huw : Text.IsWord u := isWord_of_map_foldChar hu (by simp) (by decide)
  obtain ⟨ws, front, hfront⟩ := Text.exists_words_append_right hiw a
  obtain ⟨back, vs, hback⟩ := Text.exists_words_append_left huw b
  have hwords : Text.words cs = ws ++ [front ++ i, n, u ++ back] ++ vs := by
    have htext : cs = a ++ i ++ s :: (n ++ s' :: (u ++ b)) := by rw [← hcs]; simp
    rw [htext, Text.words_append_blank hblank, Text.words_append_blank hblank', hfront, hback,
      Text.words_of_isWord hnw]
    simp
  exact ⟨_, .mk front back hi hn hu, ws, vs, hwords.symm⟩

theorem IsTest.mentionsNotNull {t : List Word} (h : IsTest t) : MentionsNotNull t := by
  cases h with
  | mk front back hi hn hu =>
    refine ⟨front.map foldChar, back.map foldChar, ?_⟩
    have hspace : foldChar ' ' = ' ' := by decide
    simp [Text.joinCharsWith, hi, hn, hu, hspace, notNullTest]

variable {ws s : List Word}

/-- A segment mentions what is in a part of it. -/
theorem MentionsNotNull.mono {vs : List Word} (h : MentionsNotNull vs) (hvs : vs <:+: ws) :
    MentionsNotNull ws :=
  h.trans ((Text.joinCharsWith_infix hvs).map foldChar)

/-- **IS NOT NULL is mentioned by the three words that it is in.** -/
theorem mentionsNotNull_iff (h : ∀ w ∈ ws, Text.IsWord w) :
    MentionsNotNull ws ↔ ∃ t, IsTest t ∧ t <:+: ws := by
  constructor
  · intro hmentions
    have htest := exists_isTest_of_infix hmentions
    rwa [Text.words_joinCharsWith h] at htest
  · rintro ⟨t, ht, hws⟩
    exact ht.mentionsNotNull.mono hws

/-! ## Three words in one segment -/

/-- A word with a character other than the letters of AND and OR is no operator. -/
theorem not_isOperator_of_mem {w : Word} {c : Char} (hc : c ∈ w)
    (h : c.toLower ∉ ['a', 'n', 'd', 'o', 'r']) : isOperator w = false := by
  by_contra hop
  exact h (mem_letters_of_isOperator (Bool.not_eq_false _ ▸ hop) hc)

/-- Only the letter s has a further character for it. -/
theorem toLower_of_foldChar {c d : Char} (h : foldChar c = d) (hd : d ≠ 's') : c.toLower = d := by
  unfold foldChar at h
  split at h
  · exact absurd h.symm hd
  · exact h

/-- The last two of the three words are no operators. -/
theorem IsTest.exists_eq {t : List Word} (h : IsTest t) :
    ∃ x y z, t = [x, y, z] ∧ isOperator y = false ∧ isOperator z = false := by
  cases h with
  | @mk i n u front back hi hn hu =>
    have ht : 't' ∈ n.map foldChar := by rw [hn]; decide
    have hl : 'l' ∈ u.map foldChar := by rw [hu]; decide
    obtain ⟨c, hc, hfold⟩ := List.mem_map.mp ht
    obtain ⟨d, hd, hfold'⟩ := List.mem_map.mp hl
    refine ⟨_, _, _, rfl, not_isOperator_of_mem hc ?_,
      not_isOperator_of_mem (List.mem_append_left _ hd) ?_⟩
    · rw [toLower_of_foldChar hfold (by decide)]
      decide
    · rw [toLower_of_foldChar hfold' (by decide)]
      decide

/-- A word in front belongs to the first segment, even if it is an operator. -/
theorem exists_segments_cons (w : Word) (ws : List Word) :
    ∃ s ss, segments ws = s :: ss ∧ w :: s ∈ segments (w :: ws) ∧ ss ⊆ segments (w :: ws) := by
  obtain ⟨s, ss, hss, -⟩ := (isCut_segments ws).operators
  refine ⟨s, ss, hss, ?_⟩
  cases hw : isOperator w with
  | true =>
    rw [segments_cons_operator hw hss]
    exact ⟨by simp, fun t ht => by simp [ht]⟩
  | false =>
    have hsingle : ∀ v ∈ [w], isOperator v = false := fun v hv => List.mem_singleton.mp hv ▸ hw
    have hcons : segments (w :: ws) = (w :: s) :: ss := segments_append hsingle hss
    rw [hcons]
    exact ⟨List.mem_cons_self .., List.subset_cons_self ..⟩

/-- A cut is in front of an operator, so three words of which the last two are none are in one
segment. -/
theorem exists_segment_of_infix {x y z : Word} (hy : isOperator y = false)
    (hz : isOperator z = false) (h : [x, y, z] <:+: ws) : ∃ s ∈ segments ws, [x, y, z] <:+: s := by
  obtain ⟨front, back, rfl⟩ := h
  rw [List.append_assoc]
  -- words in front may shift the cuts before the three words, but not between them
  induction front with
  | nil =>
    obtain ⟨s, ss, hss, -⟩ := (isCut_segments back).operators
    have hnone : ∀ w ∈ [y, z], isOperator w = false := by simp [hy, hz]
    obtain ⟨_, _, heq, hfirst, -⟩ := exists_segments_cons x ([y, z] ++ back)
    rw [segments_append hnone hss] at heq
    cases heq
    exact ⟨_, hfirst, (List.prefix_append [x, y, z] s).isInfix⟩
  | cons w front ih =>
    obtain ⟨s, hs, hin⟩ := ih
    obtain ⟨first, later, heq, hfirst, hlater⟩ :=
      exists_segments_cons w (front ++ ([x, y, z] ++ back))
    rw [heq] at hs
    rcases List.mem_cons.mp hs with rfl | hs
    · exact ⟨w :: s, hfirst, hin.trans (List.suffix_cons w s).isInfix⟩
    · exact ⟨s, hlater hs, hin⟩

/-- So the three words of a test are in one segment. -/
theorem exists_segment_of_isTest {t : List Word} (h : IsTest t) (hws : t <:+: ws) :
    ∃ s ∈ segments ws, t <:+: s := by
  obtain ⟨x, y, z, rfl, hy, hz⟩ := h.exists_eq
  exact exists_segment_of_infix hy hz hws

theorem infix_of_mem_segments (h : s ∈ segments ws) : s <:+: ws := by
  have hin := List.infix_of_mem_flatten h
  rwa [(isCut_segments ws).flatten_eq] at hin

/-- IS NOT NULL is in the words iff it is in one of their segments. -/
theorem mentionsNotNull_iff_segments (h : ∀ w ∈ ws, Text.IsWord w) :
    MentionsNotNull ws ↔ ∃ s ∈ segments ws, MentionsNotNull s := by
  constructor
  · intro hmentions
    obtain ⟨t, ht, hws⟩ := (mentionsNotNull_iff h).mp hmentions
    obtain ⟨s, hs, hts⟩ := exists_segment_of_isTest ht hws
    exact ⟨s, hs, ht.mentionsNotNull.mono hts⟩
  · rintro ⟨s, hs, hmentions⟩
    exact hmentions.mono (infix_of_mem_segments hs)

/-! ## What remains of words -/

/-- The segments that stay are cut in the same way when they are put together. -/
theorem mem_segments_filter {p : List Word → Bool}
    (h : s ∈ segments ((segments ws).filter p).flatten) : s = [] ∨ s ∈ (segments ws).filter p := by
  obtain ⟨first, later, hss, hfirst, hlater⟩ := (isCut_segments ws).operators
  have hkept : segments (later.filter p).flatten = [] :: later.filter p :=
    segments_flatten fun t ht => hlater t (List.mem_of_mem_filter ht)
  rw [hss] at h ⊢
  -- if the first segment goes, the others begin with an operator each and an empty one stands
  -- before them
  cases hp : p first with
  | true =>
    rw [List.filter_cons_of_pos hp, List.flatten_cons, segments_append hfirst hkept,
      List.append_nil] at h
    rw [List.filter_cons_of_pos hp]
    exact .inr h
  | false =>
    rw [List.filter_cons_of_neg (by simp [hp])] at h ⊢
    rw [hkept] at h
    exact List.mem_cons.mp h

/-- What remains of words that are looked at does not mention IS NOT NULL. -/
theorem not_mentionsNotNull_residueWords (cs : List Char) :
    ¬ MentionsNotNull (residueWords (Text.words cs)) := by
  intro hmentions
  obtain ⟨lead, trail, hstripped⟩ :=
    isStripped_residue ((segments (Text.words cs)).filter keeps).flatten
  have hwords : ∀ w ∈ ((segments (Text.words cs)).filter keeps).flatten, Text.IsWord w := by
    intro w hw
    obtain ⟨s, hs, hw⟩ := List.mem_flatten.mp hw
    exact Text.isWord_of_mem ((infix_of_mem_segments (List.mem_of_mem_filter hs)).subset hw)
  have hkept : MentionsNotNull ((segments (Text.words cs)).filter keeps).flatten :=
    hmentions.mono ⟨lead, trail, by rw [List.append_assoc]; exact hstripped.words_eq.symm⟩
  obtain ⟨s, hs, hmentions⟩ := (mentionsNotNull_iff_segments hwords).mp hkept
  -- such a segment stayed, so it did not mention it
  rcases mem_segments_filter hs with rfl | hs
  · exact absurd hmentions (by decide)
  · rw [filter_keeps, List.mem_filter, decide_eq_true_iff] at hs
    exact hs.2 hmentions

/-! ## Clauses as they are written -/

/-- Whether IS NOT NULL is in the first line of a text, with single spaces and in any case. -/
def ShowsNotNull (p : String) : Prop :=
  notNullTest <:+: ((Text.trimChars p.toList).takeWhile (· != '\n')).map foldChar

instance : DecidablePred ShowsNotNull := fun p =>
  inferInstanceAs (Decidable (notNullTest <:+:
    ((Text.trimChars p.toList).takeWhile (· != '\n')).map foldChar))

variable {p p' q : String}

theorem isNotNullClause_trimChars_iff :
    isNotNullClause (Text.trimChars p.toList) = true ↔ ShowsNotNull p := Text.containsChars_iff

/-- What is found in a text is in its words. -/
theorem ShowsNotNull.mentionsNotNull (h : ShowsNotNull p) :
    MentionsNotNull (Text.words p.toList) := by
  have hin := h.trans ((List.takeWhile_prefix (· != '\n')).isInfix.map foldChar)
  obtain ⟨t, ht, hws⟩ := exists_isTest_of_infix hin
  rw [Text.words_trimChars] at hws
  exact ht.mentionsNotNull.mono hws

/-- Of a text that is looked at as it is written, all words remain or none. -/
theorem map_residue?_of_not_hasInnerOperator (h : ¬ HasInnerOperator (Text.words p.toList)) :
    (residue? p).map (Text.words ·.toList) =
      if Text.words p.toList = [] ∨ ShowsNotNull p then none else some (Text.words p.toList) := by
  have hjoins : joinsClauses (Text.trimChars p.toList) = false :=
    Bool.eq_false_iff.mpr (mt joinsClauses_trimChars_iff.mp h)
  rw [residue?_of_not_joinsClauses hjoins, apply_ite (Option.map _)]
  refine if_congr ?_ rfl ?_
  · rw [Bool.or_eq_true, List.isEmpty_iff, Text.trimChars_eq_nil_iff, isNotNullClause_trimChars_iff]
  · rw [Option.map_some, Text.trim, String.toList_ofList, Text.words_trimChars]

/-- If the words are looked at, it is only the words that matter. -/
theorem residue?_of_words_eq (h : HasInnerOperator (Text.words p.toList))
    (hwords : Text.words p'.toList = Text.words p.toList) : residue? p' = residue? p := by
  have hjoins := joinsClauses_trimChars_iff.mpr h
  have hjoins' := joinsClauses_trimChars_iff.mpr (hwords.symm ▸ h)
  rw [residue?_of_joinsClauses hjoins, residue?_of_joinsClauses hjoins', hwords]

/-- A text without words shows nothing. -/
theorem words_ne_nil_of_mentionsNotNull (h : MentionsNotNull ws) : ws ≠ [] := by
  rintro rfl
  exact absurd h (by decide)

/-- **When the blanks in a check predicate do not matter.** What remains of it has no segment that
mentions IS NOT NULL, exactly if the predicate has an operator inside, or is a single clause that
shows IS NOT NULL if it mentions it. And in another spelling with the same words the same words
remain, exactly if it has an operator inside, or shows IS NOT NULL in both spellings or in
neither. -/
theorem residue?_respaced_iff (p : String) :
    ((∀ q, residue? p = some q → ∀ ss, IsCut (Text.words q.toList) ss →
        ∀ s ∈ ss, ¬ MentionsNotNull s) ↔
      HasInnerOperator (Text.words p.toList) ∨
        (MentionsNotNull (Text.words p.toList) → ShowsNotNull p)) ∧
    ∀ p', Text.words p'.toList = Text.words p.toList →
      ((residue? p').map (Text.words ·.toList) = (residue? p).map (Text.words ·.toList) ↔
        HasInnerOperator (Text.words p.toList) ∨ (ShowsNotNull p' ↔ ShowsNotNull p)) := by
  -- a segment of what remains mentions IS NOT NULL only if the words that remain do
  have hsegment : ∀ q : String, (∀ ss, IsCut (Text.words q.toList) ss →
      ∀ s ∈ ss, ¬ MentionsNotNull s) ↔ ¬ MentionsNotNull (Text.words q.toList) := by
    intro q
    rw [mentionsNotNull_iff_segments fun w hw => Text.isWord_of_mem hw]
    constructor
    · rintro h ⟨s, hs, hmentions⟩
      exact h _ (isCut_segments _) s hs hmentions
    · rintro h ss hcut s hs hmentions
      exact h ⟨s, isCut_iff.mp hcut ▸ hs, hmentions⟩
  simp only [hsegment]
  by_cases hop : HasInnerOperator (Text.words p.toList)
  · refine ⟨⟨fun _ => .inl hop, fun _ q hq => ?_⟩,
      fun p' hwords => ⟨fun _ => .inl hop, fun _ => ?_⟩⟩
    · rw [(residue?_eq_some (joinsClauses_trimChars_iff.mpr hop) hq).2]
      exact not_mentionsNotNull_residueWords _
    · rw [residue?_of_words_eq hop hwords]
  · have hleft := map_residue?_of_not_hasInnerOperator hop
    refine ⟨?_, fun p' hwords => ?_⟩
    · rw [or_iff_right hop]
      constructor
      · intro h hmentions
        by_contra hshows
        rw [if_neg (not_or_intro (words_ne_nil_of_mentionsNotNull hmentions) hshows)] at hleft
        obtain ⟨q, hq, hqw⟩ := Option.map_eq_some_iff.mp hleft
        exact h q hq (hqw ▸ hmentions)
      · intro h q hq hmentions
        rw [hq, Option.map_some] at hleft
        split at hleft
        · cases hleft
        · rename_i hstays
          rw [Option.some.inj hleft] at hmentions
          exact hstays (.inr (h hmentions))
    · have hleft' := map_residue?_of_not_hasInnerOperator (hwords.symm ▸ hop)
      rw [hleft, hleft', hwords, or_iff_right hop]
      by_cases hnil : Text.words p.toList = []
      · have hnone : ∀ r : String, Text.words r.toList = [] → ¬ ShowsNotNull r := fun r hr h =>
          words_ne_nil_of_mentionsNotNull h.mentionsNotNull hr
        rw [if_pos (.inl hnil), if_pos (.inl hnil)]
        simp [hnone p hnil, hnone p' (hwords.trans hnil)]
      · by_cases hshows : ShowsNotNull p <;> by_cases hshows' : ShowsNotNull p' <;>
          simp [hnil, hshows, hshows']

/-- Two clauses are looked at by their words, in every spelling. -/
theorem residue?_twoClauses_respaced :
    Text.words "A > 0\tAND B\nIS  NOT NULL".toList = Text.words "A > 0 AND B IS NOT NULL".toList ∧
      HasInnerOperator (Text.words "A > 0 AND B IS NOT NULL".toList) ∧
      (residue? "A > 0\tAND B\nIS  NOT NULL").map (Text.words ·.toList) =
        (residue? "A > 0 AND B IS NOT NULL").map (Text.words ·.toList) ∧
      ∀ q, residue? "A > 0 AND B IS NOT NULL" = some q → ∀ ss, IsCut (Text.words q.toList) ss →
        ∀ s ∈ ss, ¬ MentionsNotNull s := by
  obtain ⟨hmentions, hrespaced⟩ := residue?_respaced_iff "A > 0 AND B IS NOT NULL"
  have hwords : Text.words "A > 0\tAND B\nIS  NOT NULL".toList =
      Text.words "A > 0 AND B IS NOT NULL".toList := by decide
  have hop : HasInnerOperator (Text.words "A > 0 AND B IS NOT NULL".toList) :=
    ⟨["A".toList, ">".toList, "0".toList], "AND".toList,
      ["B".toList, "IS".toList, "NOT".toList, "NULL".toList], by decide, by decide, by decide,
      by decide⟩
  exact ⟨hwords, hop, (hrespaced _ hwords).mpr (.inl hop), hmentions.mpr (.inl hop)⟩

/-- A single clause is not: with a line end in front, IS NOT NULL stays. -/
theorem residue?_lineEnd_stays :
    Text.words "A\nIS NOT NULL".toList = Text.words "A IS NOT NULL".toList ∧
      residue? "A IS NOT NULL" = none ∧ residue? "A\nIS NOT NULL" = some "A\nIS NOT NULL" ∧
      IsCut (Text.words "A\nIS NOT NULL".toList) [["A".toList, "IS".toList, "NOT".toList,
        "NULL".toList]] ∧
      MentionsNotNull ["A".toList, "IS".toList, "NOT".toList, "NULL".toList] :=
  ⟨by decide, by decide +kernel, by decide +kernel, isCut_iff.mpr (by decide), by decide⟩

end CatalogDdl.Ddl
