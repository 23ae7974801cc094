import CatalogDdl.Ddl.Check
import CatalogDdl.Proofs.Text
import CatalogDdl.Proofs.Words

/-!
# A check predicate as a sequence of words

For a predicate of any form, what remains of it can be said of its words alone. There is
one way to cut them in front of every operator. The words of the segments without IS NOT
NULL stay as they are and where they are, but for an operator that is then first and one
that is then last. It makes no difference how many blanks there are, or which, since an
operator is found in the text exactly if it is a word with words on both sides.

- `isWord_of_isOperator`: an operator has no blanks in it.
- `HasInnerOperator`, `joinsClauses_trimChars_iff`: when the words are looked at at all.
- `IsCut`, `isCut_iff`: the segments, as what they have to be.
- `MentionsNotNull`, `keeps_eq`: a segment has no line ends, so IS NOT NULL is looked for
  in all of it.
- `IsStripped`, `isStripped_residue`: the operators that go at the two ends.
- `residue?_byWords`: all of it together.
-/

namespace CatalogDdl.Ddl

/-- Whether an operator is neither the first word nor the last one. -/
def HasInnerOperator (ws : List Word) : Prop :=
  ∃ us op vs, ws = us ++ op :: vs ∧ isOperator op = true ∧ us ≠ [] ∧ vs ≠ []

/-- Segments that words are cut into, with a cut in front of every operator and no other:
put together they are the words, and an operator is the first word of every segment but
the first one, and is nowhere else. -/
structure IsCut (ws : List Word) (ss : List (List Word)) : Prop where
  flatten_eq : ss.flatten = ws
  operators : ∃ first later, ss = first :: later ∧ (∀ w ∈ first, isOperator w = false) ∧
    ∀ s ∈ later, ∃ op rest, s = op :: rest ∧ isOperator op = true ∧
      ∀ w ∈ rest, isOperator w = false

/-- Whether IS NOT NULL occurs, in any case, in the words of a segment with single spaces
between them. -/
def MentionsNotNull (s : List Word) : Prop :=
  notNullTest <:+: (Text.joinCharsWith [' '] s).map foldChar

instance : DecidablePred MentionsNotNull := fun s =>
  inferInstanceAs (Decidable (notNullTest <:+: (Text.joinCharsWith [' '] s).map foldChar))

/-- What is left of some words without an operator in front and one at the end: `lead` and
`trail` are these operators, and are empty if there are none. -/
structure IsStripped (words lead left trail : List Word) : Prop where
  words_eq : words = lead ++ (left ++ trail)
  lead_eq : (lead = [] ∧ ∀ w ∈ words.head?, isOperator w = false) ∨
    ∃ op, lead = [op] ∧ isOperator op = true
  trail_eq : (trail = [] ∧ ∀ w ∈ left.getLast?, isOperator w = false) ∨
    ∃ op, trail = [op] ∧ isOperator op = true

variable {ws : List Word}

/-! ## Operators as words -/

/-- An operator is made of the letters of AND and OR. -/
theorem mem_letters_of_isOperator {w : Word} (h : isOperator w = true) {c : Char} (hc : c ∈ w) :
    c.toLower ∈ ['a', 'n', 'd', 'o', 'r'] := by
  have hletters : operators.all (·.all (['a', 'n', 'd', 'o', 'r'].contains ·)) = true := by decide
  have hop := List.all_eq_true.mp hletters _ (List.contains_iff_mem.mp h)
  exact List.contains_iff_mem.mp (List.all_eq_true.mp hop _ (List.mem_map_of_mem hc))

/-- A blank has no lower case. -/
theorem toLower_of_isBlank {c : Char} (h : Text.isBlank c = true) : c.toLower = c := by
  unfold Text.isBlank at h
  unfold Char.toLower
  rw [dif_neg]
  rintro ⟨hlow, hhigh⟩
  have hlow' : 65 ≤ c.toNat := hlow
  have hhigh' : c.toNat ≤ 90 := hhigh
  simp at h
  omega

/-- An operator has no blanks in it, since a blank is none of its letters. -/
theorem isWord_of_isOperator {w : Word} (h : isOperator w = true) : Text.IsWord w := by
  refine ⟨?_, fun c hc => ?_⟩
  · rintro rfl
    cases h
  · have hletter := mem_letters_of_isOperator h hc
    cases hblank : Text.isBlank c with
    | false => rfl
    | true =>
      rw [toLower_of_isBlank hblank] at hletter
      have hnone : ['a', 'n', 'd', 'o', 'r'].any Text.isBlank = false := by decide
      exact absurd hblank (List.any_eq_false.mp hnone c hletter)

/-! ## Operators in the text -/

/-- An operator is found at the beginning if a blank ends it. -/
theorem startsWithOperator_iff {cs : List Char} :
    startsWithOperator cs = true ↔
      ∃ w b back, cs = w ++ b :: back ∧ isOperator w = true ∧ Text.isBlank b = true := by
  constructor
  · intro h
    obtain ⟨op, hop, h⟩ := List.any_eq_true.mp h
    obtain ⟨hw, hb⟩ := (Bool.and_eq_true _ _).mp h
    cases hdrop : cs.drop op.length with
    | nil =>
      rw [hdrop] at hb
      cases hb
    | cons b back =>
      rw [hdrop] at hb
      refine ⟨cs.take op.length, b, back, ?_, ?_, hb⟩
      · rw [← hdrop, List.take_append_drop]
      · rw [isOperator, eq_of_beq hw]
        exact List.contains_iff_mem.mpr hop
  · rintro ⟨w, b, back, rfl, hw, hb⟩
    have hlength : (Text.lowerAscii w).length = w.length := List.length_map _
    refine List.any_eq_true.mpr ⟨Text.lowerAscii w, List.contains_iff_mem.mp hw, ?_⟩
    rw [hlength, List.take_left, List.drop_left, beq_self_eq_true, Bool.true_and]
    exact hb

/-- An operator is found if it stands between two blanks somewhere. -/
theorem joinsClauses_iff {cs : List Char} :
    joinsClauses cs = true ↔
      ∃ front b w b' back, cs = front ++ b :: (w ++ b' :: back) ∧ Text.isBlank b = true ∧
        isOperator w = true ∧ Text.isBlank b' = true := by
  induction cs with
  | nil => simp [joinsClauses]
  | cons c cs ih =>
    rw [joinsClauses, Bool.or_eq_true, Bool.and_eq_true, startsWithOperator_iff, ih]
    constructor
    · rintro (⟨hc, w, b', back, rfl, hw, hb'⟩ | ⟨front, b, w, b', back, rfl, h⟩)
      · exact ⟨[], c, w, b', back, rfl, hc, hw, hb'⟩
      · exact ⟨c :: front, b, w, b', back, rfl, h⟩
    · rintro ⟨front, b, w, b', back, hcs, hb, hw, hb'⟩
      cases front with
      | nil =>
        cases hcs
        exact .inl ⟨hb, w, b', back, rfl, hw, hb'⟩
      | cons d front =>
        cases hcs
        exact .inr ⟨front, b, w, b', back, rfl, hb, hw, hb'⟩

/-- An operator with words on both sides is found. -/
theorem joinsClauses_of_words_eq {cs : List Char} {op : Word} {us vs : List Word}
    (h : Text.words cs = us ++ op :: vs) (hop : isOperator op = true) (hus : us ≠ [])
    (hvs : vs ≠ []) : joinsClauses cs = true := by
  obtain ⟨front, back, hcs, hfront, hback, hbefore, hafter⟩ := Text.exists_of_words_eq h
  refine joinsClauses_iff.mpr ?_
  -- the operator is not the first word and not the last one, so it has blanks on both sides
  rcases hbefore with rfl | ⟨front, b, rfl, hb⟩
  · exact absurd hfront.symm hus
  rcases hafter with rfl | ⟨b', back, rfl, hb'⟩
  · exact absurd hback.symm hvs
  exact ⟨front, b, op, b', back, by rw [hcs]; simp, hb, hop, hb'⟩

/-- No operator is found in a text without one among its words. -/
theorem joinsClauses_of_words {cs : List Char} (h : ∀ w ∈ Text.words cs, isOperator w = false) :
    joinsClauses cs = false := by
  by_contra hjoins
  rw [Bool.not_eq_false] at hjoins
  obtain ⟨front, b, w, b', back, rfl, hb, hw, hb'⟩ := joinsClauses_iff.mp hjoins
  have hmem : w ∈ Text.words (front ++ b :: (w ++ b' :: back)) := by
    rw [Text.words_append_blank hb, Text.words_append_blank hb',
      Text.words_of_isWord (isWord_of_isOperator hw)]
    simp
  rw [h w hmem] at hw
  cases hw

/-- The words are looked at iff an operator is an inner word. -/
theorem joinsClauses_trimChars_iff {cs : List Char} :
    joinsClauses (Text.trimChars cs) = true ↔ HasInnerOperator (Text.words cs) := by
  constructor
  · intro h
    obtain ⟨front, b, op, b', back, hcs, hb, hop, hb'⟩ := joinsClauses_iff.mp h
    have htrimmed : Text.IsTrimmed (front ++ b :: (op ++ b' :: back)) :=
      hcs ▸ Text.isTrimmed_trimChars cs
    refine ⟨Text.words front, op, Text.words back, ?_, hop, ?_, ?_⟩
    · rw [← Text.words_trimChars, hcs, Text.words_append_blank hb, Text.words_append_blank hb',
        Text.words_of_isWord (isWord_of_isOperator hop), List.singleton_append]
    · -- the text starts with no blank, so something else is in front of the first one
      cases front with
      | nil =>
        rw [htrimmed.1 b rfl] at hb
        cases hb
      | cons c front => exact Text.words_ne_nil (List.mem_cons_self ..) (htrimmed.1 c rfl)
    · rcases List.eq_nil_or_concat' back with rfl | ⟨back, c, rfl⟩
      · rw [htrimmed.2 b' (by simp [List.getLast?_cons])] at hb'
        cases hb'
      · exact Text.words_ne_nil (by simp) (htrimmed.2 c (by simp [List.getLast?_cons]))
  · rintro ⟨us, op, vs, hws, hop, hus, hvs⟩
    exact joinsClauses_of_words_eq ((Text.words_trimChars cs).trans hws) hop hus hvs

/-! ## Segments -/

/-- Words that are no operators belong to the segment that is open. -/
theorem segments_append {ws rest s : List Word} {ss : List (List Word)}
    (h : ∀ w ∈ ws, isOperator w = false) (hrest : segments rest = s :: ss) :
    segments (ws ++ rest) = (ws ++ s) :: ss := by
  induction ws with
  | nil => exact hrest
  | cons w ws ih =>
    have hw : isOperator w = false := h w (List.mem_cons_self ..)
    rw [List.cons_append, segments, ih fun v hv => h v (List.mem_cons_of_mem _ hv)]
    exact if_neg (Bool.eq_false_iff.mp hw)

/-- An operator and the words up to the next one are a segment. -/
theorem segments_flatten {ss : List (List Word)}
    (h : ∀ s ∈ ss, ∃ op rest, s = op :: rest ∧ isOperator op = true ∧
      ∀ w ∈ rest, isOperator w = false) :
    segments ss.flatten = [] :: ss := by
  induction ss with
  | nil => rfl
  | cons s ss ih =>
    obtain ⟨op, rest, rfl, hop, hrest⟩ := h s (List.mem_cons_self ..)
    have hwords := segments_append hrest (ih fun t ht => h t (List.mem_cons_of_mem _ ht))
    rw [List.flatten_cons, List.cons_append, segments, hwords, List.append_nil]
    exact if_pos hop

/-- An operator in front closes an empty segment and begins the next one. -/
theorem segments_cons_operator {w : Word} (h : isOperator w = true) {s : List Word}
    {ss : List (List Word)} (hws : segments ws = s :: ss) :
    segments (w :: ws) = [] :: (w :: s) :: ss := by
  rw [segments, hws]
  exact if_pos h

/-- The segments are a cut. -/
theorem isCut_segments (ws : List Word) : IsCut ws (segments ws) := by
  induction ws with
  | nil => exact ⟨rfl, [], [], rfl, nofun, nofun⟩
  | cons w ws ih =>
    -- the induction goes from the last word to the first one, so `first` is the segment still open
    obtain ⟨first, later, hss, hfirst, hlater⟩ := ih.operators
    have hwords : first ++ later.flatten = ws := by
      rw [← List.flatten_cons, ← hss]
      exact ih.flatten_eq
    cases hw : isOperator w with
    | true =>
      rw [segments_cons_operator hw hss]
      refine ⟨congrArg (w :: ·) hwords, [], _, rfl, nofun, fun s hs => ?_⟩
      rcases List.mem_cons.mp hs with rfl | hs
      · exact ⟨w, first, rfl, hw, hfirst⟩
      · exact hlater s hs
    | false =>
      have hsingle : ∀ v ∈ [w], isOperator v = false := fun v hv => List.mem_singleton.mp hv ▸ hw
      have hcons : segments (w :: ws) = (w :: first) :: later := segments_append hsingle hss
      rw [hcons]
      refine ⟨congrArg (w :: ·) hwords, w :: first, later, rfl, fun v hv => ?_, hlater⟩
      rcases List.mem_cons.mp hv with rfl | hv
      · exact hw
      · exact hfirst v hv

/-- There is no other cut. -/
theorem isCut_iff {ss : List (List Word)} : IsCut ws ss ↔ ss = segments ws := by
  constructor
  · rintro ⟨rfl, first, later, rfl, hfirst, hlater⟩
    rw [List.flatten_cons, segments_append hfirst (segments_flatten hlater), List.append_nil]
  · rintro rfl
    exact isCut_segments ws

/-! ## IS NOT NULL -/

/-- Words have no line ends, so all of a segment is its first line. -/
theorem keeps_eq {s : List Word} (h : ∀ w ∈ s, Text.IsWord w) :
    keeps s = decide ¬ MentionsNotNull s := by
  -- no character of a word is a line end, and neither is the space between two of them
  have hline : ∀ c ∈ Text.joinCharsWith [' '] s, (c != '\n') = true := by
    intro c hc
    rw [bne_iff_ne]
    rintro rfl
    rcases Text.mem_joinCharsWith hc with hc | ⟨w, hw, hc⟩
    · exact absurd hc (by decide)
    · exact absurd ((h w hw).2 _ hc) (by decide)
  have hmentions : isNotNullClause (Text.joinCharsWith [' '] s) = decide (MentionsNotNull s) := by
    rw [isNotNullClause, List.takeWhile_eq_self_iff.mpr hline, Bool.eq_iff_iff,
      Text.containsChars_iff, decide_eq_true_iff]
    rfl
  rw [keeps, hmentions, decide_not]

/-! ## Operators at the ends -/

/-- At the beginning one operator goes, if there is one. -/
theorem exists_eq_append_dropLeadingOperator (ws : List Word) :
    ∃ lead, ws = lead ++ dropLeadingOperator ws ∧
      ((lead = [] ∧ ∀ w ∈ ws.head?, isOperator w = false) ∨
        ∃ op, lead = [op] ∧ isOperator op = true) := by
  cases ws with
  | nil => exact ⟨[], rfl, .inl ⟨rfl, nofun⟩⟩
  | cons w ws =>
    cases hw : isOperator w with
    | true => exact ⟨[w], by simp [dropLeadingOperator, hw], .inr ⟨w, rfl, hw⟩⟩
    | false =>
      refine ⟨[], by simp [dropLeadingOperator, hw], .inl ⟨rfl, fun v hv => ?_⟩⟩
      cases hv
      exact hw

/-- At the end one operator goes, if there is one. -/
theorem exists_eq_dropTrailingOperator_append (ws : List Word) :
    ∃ trail, ws = dropTrailingOperator ws ++ trail ∧
      ((trail = [] ∧ ∀ w ∈ (dropTrailingOperator ws).getLast?, isOperator w = false) ∨
        ∃ op, trail = [op] ∧ isOperator op = true) := by
  rcases List.eq_nil_or_concat' ws with rfl | ⟨front, w, rfl⟩
  · exact ⟨[], rfl, .inl ⟨rfl, nofun⟩⟩
  · cases hw : isOperator w with
    | true => exact ⟨[w], by simp [dropTrailingOperator, hw], .inr ⟨w, rfl, hw⟩⟩
    | false =>
      have hsame : dropTrailingOperator (front ++ [w]) = front ++ [w] := by
        simp [dropTrailingOperator, hw]
      rw [hsame]
      refine ⟨[], (List.append_nil _).symm, .inl ⟨rfl, fun v hv => ?_⟩⟩
      rw [List.getLast?_concat] at hv
      cases hv
      exact hw

/-- The operator at the end is looked for in what is left after the one in front. -/
theorem isStripped_residue (ws : List Word) :
    ∃ lead trail, IsStripped ws lead (dropTrailingOperator (dropLeadingOperator ws)) trail := by
  obtain ⟨lead, hws, hlead⟩ := exists_eq_append_dropLeadingOperator ws
  obtain ⟨trail, hleft, htrail⟩ := exists_eq_dropTrailingOperator_append (dropLeadingOperator ws)
  exact ⟨lead, trail, by rw [← hleft]; exact hws, hlead, htrail⟩

/-! ## What remains -/

/-- If the words are looked at, those that remain are put together, if there are any. -/
theorem residue?_of_joinsClauses {p : String} (h : joinsClauses (Text.trimChars p.toList) = true) :
    residue? p =
      match residueWords (Text.words p.toList) with
      | [] => none
      | ws => some (String.ofList (Text.joinCharsWith [' '] ws)) := by
  rw [residue?, residueChars?, if_pos h, Text.words_trimChars]
  cases residueWords (Text.words p.toList) <;> rfl

/-- If the words are not looked at, the text stays as it is written, or nothing remains. -/
theorem residue?_of_not_joinsClauses {p : String} (h : joinsClauses (Text.trimChars p.toList) = false) :
    residue? p =
      if (Text.trimChars p.toList).isEmpty || isNotNullClause (Text.trimChars p.toList) then none
      else some (Text.trim p) := by
  rw [residue?, residueChars?, if_neg (Bool.eq_false_iff.mp h), apply_ite (Option.map String.ofList)]
  rfl

/-- The words that remain are words of the predicate. -/
theorem mem_of_mem_residueWords {w : Word} (h : w ∈ residueWords ws) : w ∈ ws := by
  obtain ⟨lead, trail, hstripped⟩ := isStripped_residue ((segments ws).filter keeps).flatten
  have hkept : w ∈ ((segments ws).filter keeps).flatten := by
    rw [hstripped.words_eq]
    exact List.mem_append_right _ (List.mem_append_left _ h)
  obtain ⟨s, hs, hw⟩ := List.mem_flatten.mp hkept
  rw [← (isCut_segments ws).flatten_eq]
  exact List.mem_flatten.mpr ⟨s, List.mem_of_mem_filter hs, hw⟩

/-- The segments that stay are those that do not mention IS NOT NULL. -/
theorem filter_keeps (cs : List Char) :
    (segments (Text.words cs)).filter keeps =
      (segments (Text.words cs)).filter fun s => ¬ MentionsNotNull s := by
  have hwords : ∀ s ∈ segments (Text.words cs), ∀ w ∈ s, Text.IsWord w := by
    intro s hs w hw
    have hmem : w ∈ (segments (Text.words cs)).flatten := List.mem_flatten.mpr ⟨s, hs, hw⟩
    rw [(isCut_segments (Text.words cs)).flatten_eq] at hmem
    exact Text.isWord_of_mem hmem
  exact List.filter_congr fun s hs => keeps_eq (hwords s hs)

/-- What remains is put together from words, and these are its words. -/
theorem residue?_eq_some {p q : String} (h : joinsClauses (Text.trimChars p.toList) = true)
    (hq : residue? p = some q) :
    q = String.ofList (Text.joinCharsWith [' '] (residueWords (Text.words p.toList))) ∧
      Text.words q.toList = residueWords (Text.words p.toList) := by
  rw [residue?_of_joinsClauses h] at hq
  split at hq
  · cases hq
  · cases hq
    rw [String.toList_ofList]
    exact ⟨rfl, Text.words_joinCharsWith fun w hw => Text.isWord_of_mem (mem_of_mem_residueWords hw)⟩

theorem residue?_eq_none {p : String} (h : joinsClauses (Text.trimChars p.toList) = true) :
    residue? p = none ↔ residueWords (Text.words p.toList) = [] := by
  rw [residue?_of_joinsClauses h]
  cases residueWords (Text.words p.toList) with
  | nil => exact ⟨fun _ => rfl, fun _ => rfl⟩
  | cons w ws => exact ⟨nofun, nofun⟩

/-- **What remains of a check predicate, by its words.** They are looked at if an operator
is neither the first one nor the last one. Then they are cut in front of every operator,
in the only way there is, and what remains are the words of the segments that do not
mention IS NOT NULL, without an operator in front and without one at the end, with single
spaces between them; nothing remains if no words do. -/
theorem residue?_byWords (p : String) :
    (joinsClauses (Text.trimChars p.toList) = true ↔ HasInnerOperator (Text.words p.toList)) ∧
      (joinsClauses (Text.trimChars p.toList) = true →
        ∃ ss lead left trail, (∀ ss', IsCut (Text.words p.toList) ss' ↔ ss' = ss) ∧
          IsStripped (ss.filter fun s => ¬ MentionsNotNull s).flatten lead left trail ∧
          (residue? p = none ↔ left = []) ∧
          ∀ q, residue? p = some q →
            q = String.ofList (Text.joinCharsWith [' '] left) ∧ Text.words q.toList = left) := by
  refine ⟨joinsClauses_trimChars_iff, fun hjoins => ?_⟩
  obtain ⟨lead, trail, hstripped⟩ :=
    isStripped_residue ((segments (Text.words p.toList)).filter keeps).flatten
  exact ⟨segments (Text.words p.toList), lead, residueWords (Text.words p.toList), trail,
    fun _ => isCut_iff, filter_keeps p.toList ▸ hstripped, residue?_eq_none hjoins,
    fun q hq => residue?_eq_some hjoins hq⟩

/-- The operator in front goes with the clause that it joined, and the one at the end joined
nothing. -/
theorem residue?_trailingOr :
    residue? "A IS NOT NULL and B > 0 OR" = some "B > 0" ∧
      HasInnerOperator (Text.words "A IS NOT NULL and B > 0 OR".toList) ∧
      ∃ ss lead trail, IsCut (Text.words "A IS NOT NULL and B > 0 OR".toList) ss ∧
        IsStripped (ss.filter fun s => ¬ MentionsNotNull s).flatten lead
          ["B".toList, ">".toList, "0".toList] trail := by
  obtain ⟨hiff, hwords⟩ := residue?_byWords "A IS NOT NULL and B > 0 OR"
  have hjoins : joinsClauses (Text.trimChars "A IS NOT NULL and B > 0 OR".toList) = true := by
    decide
  have hleft : residue? "A IS NOT NULL and B > 0 OR" = some "B > 0" := by decide +kernel
  obtain ⟨ss, lead, left, trail, hcut, hstripped, -, hresult⟩ := hwords hjoins
  obtain rfl : ["B".toList, ">".toList, "0".toList] = left := (hresult _ hleft).2
  exact ⟨hleft, hiff.mp hjoins, ss, lead, trail, (hcut ss).mpr rfl, hstripped⟩

end CatalogDdl.Ddl
