import CatalogDdl.Text.Words
import Mathlib.Data.List.Basic
import Mathlib.Data.List.TakeWhile

/-!
# Words and the blanks between them

The words of a text are what is left of it when blanks do not count: it does not matter
how many there are between two words, nor whether there are any at the ends. A word can
be found in the text with a blank, or an end of the text, on both sides.

- `IsWord`: what a word can be.
- `IsTrimmed`: what trimming does not change, and what it makes of every text.
- `words_append_blank`: a blank divides the words of a text.
- `isWord_of_mem`: every word is one.
- `flatten_words`: what is not blank is in a word.
- `words_trimChars`, `words_joinCharsWith`: trimming does not matter, and words with
  single blanks between them are read as these words.
- `exists_of_words_eq`: where a word stands in the text.
- `exists_words_append_left`, `exists_words_append_right`: a word next to another text.
-/

namespace CatalogDdl.Text

/-- What a word can be: one or more characters that are not blank. -/
def IsWord (w : List Char) : Prop := w ≠ [] ∧ ∀ c ∈ w, isBlank c = false

/-- Whether there are no blanks at the two ends of a text. -/
def IsTrimmed (cs : List Char) : Prop :=
  (∀ c ∈ cs.head?, isBlank c = false) ∧ ∀ c ∈ cs.getLast?, isBlank c = false

/-! ## Character by character -/

/-- A blank in front does not matter. -/
theorem words_blank {c : Char} (h : isBlank c = true) (cs : List Char) :
    words (c :: cs) = words cs := by
  rw [words.eq_def]
  exact if_pos h

/-- A character with a blank or nothing after it is a word. -/
theorem words_last {c : Char} (h : isBlank c = false) {cs : List Char}
    (hcs : cs = [] ∨ ∃ d rest, cs = d :: rest ∧ isBlank d = true) :
    words (c :: cs) = [c] :: words cs := by
  rcases hcs with rfl | ⟨d, rest, rfl, hd⟩
  · exact if_neg (Bool.eq_false_iff.mp h)
  · rw [words.eq_def]
    simp only [h, hd, Bool.false_eq_true, if_true, if_false]

/-- Any other character goes to the word that starts after it. -/
theorem words_cons {c d : Char} (hc : isBlank c = false) (hd : isBlank d = false) {cs : List Char}
    {w : List Char} {ws : List (List Char)} (h : words (d :: cs) = w :: ws) :
    words (c :: d :: cs) = (c :: w) :: ws := by
  rw [words.eq_def]
  simp only [hc, hd, h, Bool.false_eq_true, if_false]

/-- A text that does not start with a blank starts with a word. -/
theorem exists_words_eq_cons {c : Char} (h : isBlank c = false) (cs : List Char) :
    ∃ w ws, words (c :: cs) = (c :: w) :: ws := by
  induction cs generalizing c with
  | nil => exact ⟨[], [], words_last h (.inl rfl)⟩
  | cons d cs ih =>
    cases hd : isBlank d with
    | true => exact ⟨[], _, words_last h (.inr ⟨d, cs, rfl, hd⟩)⟩
    | false =>
      obtain ⟨w, ws, hws⟩ := ih hd
      exact ⟨d :: w, ws, words_cons h hd hws⟩

/-- A character that is no blank is in a word. -/
theorem words_ne_nil {cs : List Char} {c : Char} (hc : c ∈ cs) (h : isBlank c = false) :
    words cs ≠ [] := by
  induction cs with
  | nil => cases hc
  | cons d cs ih =>
    cases hd : isBlank d with
    | true =>
      rw [words_blank hd]
      rcases List.mem_cons.mp hc with rfl | hc
      · rw [h] at hd
        cases hd
      · exact ih hc
    | false =>
      obtain ⟨w, ws, hws⟩ := exists_words_eq_cons hd cs
      rw [hws]
      exact List.cons_ne_nil _ _

/-! ## Taking texts apart -/

/-- A blank divides the words of a text. -/
theorem words_append_blank {b : Char} (hb : isBlank b = true) (cs ds : List Char) :
    words (cs ++ b :: ds) = words cs ++ words ds := by
  induction cs with
  | nil => exact words_blank hb ds
  | cons c cs ih =>
    cases hc : isBlank c with
    | true => rw [List.cons_append, words_blank hc, words_blank hc, ih]
    | false =>
      -- whether `c` ends a word depends on what comes after it, which may be the blank itself
      cases cs with
      | nil =>
        show words (c :: b :: ds) = words [c] ++ words ds
        rw [words_last hc (.inr ⟨b, ds, rfl, hb⟩), words_last hc (.inl rfl), words_blank hb]
        rfl
      | cons d cs =>
        cases hd : isBlank d with
        | true =>
          have hdivides : words (c :: (d :: cs ++ b :: ds)) = [c] :: words (d :: cs ++ b :: ds) :=
            words_last hc (.inr ⟨d, cs ++ b :: ds, rfl, hd⟩)
          rw [List.cons_append, hdivides, ih, words_last hc (.inr ⟨d, cs, rfl, hd⟩)]
          rfl
        | false =>
          obtain ⟨w, ws, hws⟩ := exists_words_eq_cons hd cs
          rw [hws] at ih
          have hgoes : words (c :: (d :: cs ++ b :: ds)) = (c :: d :: w) :: (ws ++ words ds) :=
            words_cons hc hd ih
          rw [List.cons_append, hgoes, words_cons hc hd hws]
          rfl

/-- There are no words in blanks. -/
theorem words_eq_nil {cs : List Char} (h : ∀ c ∈ cs, isBlank c = true) : words cs = [] := by
  induction cs with
  | nil => rfl
  | cons c cs ih =>
    rw [words_blank (h c (List.mem_cons_self ..))]
    exact ih fun d hd => h d (List.mem_cons_of_mem _ hd)

/-- Blanks in front do not matter. -/
theorem words_append_of_blank {front : List Char} (h : ∀ c ∈ front, isBlank c = true)
    (cs : List Char) : words (front ++ cs) = words cs := by
  induction front with
  | nil => rfl
  | cons c front ih =>
    rw [List.cons_append, words_blank (h c (List.mem_cons_self ..))]
    exact ih fun d hd => h d (List.mem_cons_of_mem _ hd)

/-- Neither do blanks at the end. -/
theorem words_append_of_blank_right {back : List Char} (h : ∀ c ∈ back, isBlank c = true)
    (cs : List Char) : words (cs ++ back) = words cs := by
  cases back with
  | nil => rw [List.append_nil]
  | cons b back =>
    rw [words_append_blank (h b (List.mem_cons_self ..)),
      words_eq_nil fun c hc => h c (List.mem_cons_of_mem _ hc), List.append_nil]

/-- A word is the only word of itself. -/
theorem words_of_isWord {w : List Char} (h : IsWord w) : words w = [w] := by
  obtain ⟨hne, hw⟩ := h
  induction w with
  | nil => exact absurd rfl hne
  | cons c cs ih =>
    have hc : isBlank c = false := hw c (List.mem_cons_self ..)
    cases cs with
    | nil => exact words_last hc (.inl rfl)
    | cons d cs =>
      have hd : isBlank d = false := hw d (by simp)
      exact words_cons hc hd (ih (List.cons_ne_nil _ _) fun e he => hw e (List.mem_cons_of_mem _ he))

/-- A word with a blank or nothing after it comes first. -/
theorem words_append_of_isWord {w : List Char} (h : IsWord w) {cs : List Char}
    (hcs : cs = [] ∨ ∃ b rest, cs = b :: rest ∧ isBlank b = true) :
    words (w ++ cs) = w :: words cs := by
  rcases hcs with rfl | ⟨b, rest, rfl, hb⟩
  · rw [List.append_nil]
    exact words_of_isWord h
  · rw [words_append_blank hb, words_of_isWord h, words_blank hb]
    rfl

theorem mem_joinCharsWith {sep : List Char} {c : Char} {ss : List (List Char)}
    (h : c ∈ joinCharsWith sep ss) : c ∈ sep ∨ ∃ s ∈ ss, c ∈ s := by
  fun_induction joinCharsWith sep ss with
  | case1 => cases h
  | case2 s => exact .inr ⟨s, List.mem_singleton_self s, h⟩
  | case3 s t rest ih =>
    rcases List.mem_append.mp h with h | h
    · rcases List.mem_append.mp h with h | h
      · exact .inr ⟨s, List.mem_cons_self .., h⟩
      · exact .inl h
    · rcases ih h with h | ⟨u, hu, hc⟩
      · exact .inl h
      · exact .inr ⟨u, List.mem_cons_of_mem _ hu, hc⟩

/-- Words with single blanks between them are read as these words. -/
theorem words_joinCharsWith {ws : List (List Char)} (h : ∀ w ∈ ws, IsWord w) :
    words (joinCharsWith [' '] ws) = ws := by
  fun_induction joinCharsWith [' '] ws with
  | case1 => rfl
  | case2 w => exact words_of_isWord (h w (List.mem_singleton_self w))
  | case3 w v rest ih =>
    rw [List.append_assoc, List.singleton_append, words_append_blank (by decide),
      words_of_isWord (h w (List.mem_cons_self ..)),
      ih fun u hu => h u (List.mem_cons_of_mem _ hu)]
    rfl

/-- The words are all of a text but its blanks. -/
theorem flatten_words (cs : List Char) : (words cs).flatten = cs.filter fun c => !isBlank c := by
  induction cs with
  | nil => rfl
  | cons c cs ih =>
    cases hc : isBlank c with
    | true => rw [words_blank hc, ih, List.filter_cons_of_neg (by simp [hc])]
    | false =>
      rw [List.filter_cons_of_pos (by simp [hc]), ← ih]
      cases cs with
      | nil => rw [words_last hc (.inl rfl)]; rfl
      | cons d cs =>
        cases hd : isBlank d with
        | true => rw [words_last hc (.inr ⟨d, cs, rfl, hd⟩)]; rfl
        | false =>
          obtain ⟨w, ws, hws⟩ := exists_words_eq_cons hd cs
          rw [words_cons hc hd hws, hws]
          rfl

/-! ## Trimming -/

theorem exists_eq_append_dropBlanks (cs : List Char) :
    ∃ front, cs = front ++ dropBlanks cs ∧ ∀ c ∈ front, isBlank c = true :=
  ⟨cs.takeWhile isBlank, List.takeWhile_append_dropWhile.symm,
    fun _ hc => List.mem_takeWhile_imp hc⟩

/-- Trimming takes blanks away at the two ends, and nothing else. -/
theorem exists_eq_append_trimChars (cs : List Char) :
    ∃ front back, cs = front ++ trimChars cs ++ back ∧ (∀ c ∈ front, isBlank c = true) ∧
      ∀ c ∈ back, isBlank c = true := by
  obtain ⟨front, hfront, hblank⟩ := exists_eq_append_dropBlanks cs
  obtain ⟨tail, htail, hblank'⟩ := exists_eq_append_dropBlanks (dropBlanks cs).reverse
  refine ⟨front, tail.reverse, ?_, hblank, fun c hc => hblank' c (List.mem_reverse.mp hc)⟩
  have hback : dropBlanks cs = trimChars cs ++ tail.reverse := by
    rw [trimChars, ← List.reverse_append, ← htail, List.reverse_reverse]
  rw [List.append_assoc, ← hback]
  exact hfront

/-- Trimming does not change the words. -/
theorem words_trimChars (cs : List Char) : words (trimChars cs) = words cs := by
  obtain ⟨front, back, hcs, hfront, hback⟩ := exists_eq_append_trimChars cs
  calc words (trimChars cs)
      = words (front ++ trimChars cs) := (words_append_of_blank hfront _).symm
    _ = words (front ++ trimChars cs ++ back) := (words_append_of_blank_right hback _).symm
    _ = words cs := congrArg words hcs.symm

/-- What starts after the blanks at the front does not start with a blank. -/
theorem isBlank_of_mem_head?_dropBlanks {cs : List Char} {c : Char}
    (h : c ∈ (dropBlanks cs).head?) : isBlank c = false := by
  have hnot := List.head?_dropWhile_not isBlank cs
  rw [Option.mem_def] at h
  rw [← dropBlanks, h] at hnot
  simpa using hnot

/-- Without blanks in front there is nothing to take away. -/
theorem dropBlanks_of_head? {cs : List Char} (h : ∀ c ∈ cs.head?, isBlank c = false) :
    dropBlanks cs = cs := by
  cases cs with
  | nil => rfl
  | cons c cs => exact List.dropWhile_cons_of_neg (by simp [h c rfl])

/-- What is left by trimming is trimmed. -/
theorem isTrimmed_trimChars (cs : List Char) : IsTrimmed (trimChars cs) := by
  have hlast : ∀ c ∈ (trimChars cs).getLast?, isBlank c = false := by
    intro c hc
    rw [trimChars, List.getLast?_reverse] at hc
    exact isBlank_of_mem_head?_dropBlanks hc
  refine ⟨fun c hc => ?_, hlast⟩
  -- the blanks taken away at the end are not all there is, so the front stays as it was
  obtain ⟨tail, htail, -⟩ := exists_eq_append_dropBlanks (dropBlanks cs).reverse
  have hfront : dropBlanks cs = trimChars cs ++ tail.reverse := by
    rw [trimChars, ← List.reverse_append, ← htail, List.reverse_reverse]
  have hmem : c ∈ (dropBlanks cs).head? := by
    rw [hfront, List.head?_append, Option.mem_def.mp hc]
    rfl
  exact isBlank_of_mem_head?_dropBlanks hmem

/-- What is trimmed stays as it is. -/
theorem trimChars_of_isTrimmed {cs : List Char} (h : IsTrimmed cs) : trimChars cs = cs := by
  have hlast : ∀ c ∈ cs.reverse.head?, isBlank c = false := by
    rw [List.head?_reverse]
    exact h.2
  rw [trimChars, dropBlanks_of_head? h.1, dropBlanks_of_head? hlast, List.reverse_reverse]

/-- Nothing is left of a text by trimming iff it has no words. -/
theorem trimChars_eq_nil_iff {cs : List Char} : trimChars cs = [] ↔ words cs = [] := by
  constructor
  · intro h
    rw [← words_trimChars, h]
    rfl
  · intro h
    by_contra hne
    obtain ⟨c, rest, hcs⟩ := List.exists_cons_of_ne_nil hne
    have hc : isBlank c = false := (isTrimmed_trimChars cs).1 c (by rw [hcs]; rfl)
    exact words_ne_nil (hcs ▸ List.mem_cons_self ..) hc ((words_trimChars cs).trans h)

/-- Nothing is left of a text by trimming iff it holds nothing but blanks. -/
theorem trim_eq_empty_iff {s : String} : trim s = "" ↔ isBlankText s = true := by
  rw [isBlankText, List.all_eq_true, trim, String.ofList_eq_empty_iff]
  constructor
  · intro hnil c hc
    obtain ⟨front, back, hcs, hfront, hback⟩ := exists_eq_append_trimChars s.toList
    rw [hcs, hnil, List.append_nil] at hc
    exact (List.mem_append.mp hc).elim (hfront c) (hback c)
  · intro h
    have hnil : dropBlanks s.toList = [] := List.dropWhile_eq_nil_iff.mpr h
    rw [trimChars, hnil]
    rfl

theorem trim_empty : trim "" = "" := by decide

theorem isTrimmed_trim (s : String) : IsTrimmed (trim s).toList := by
  rw [trim, String.toList_ofList]
  exact isTrimmed_trimChars s.toList

theorem trimChars_trim (s : String) : trimChars (trim s).toList = trimChars s.toList := by
  rw [trimChars_of_isTrimmed (isTrimmed_trim s), trim, String.toList_ofList]

/-- Once is enough. -/
theorem trim_trim (s : String) : trim (trim s) = trim s := by
  rw [trim, trimChars_trim, ← trim]

theorem isTrimmed_of_isWord {w : List Char} (h : IsWord w) : IsTrimmed w :=
  ⟨fun c hc => h.2 c (List.mem_of_mem_head? hc), fun c hc => h.2 c (List.mem_of_mem_getLast? hc)⟩

theorem joinCharsWith_ne_nil {sep w : List Char} (h : w ≠ []) (ws : List (List Char)) :
    joinCharsWith sep (w :: ws) ≠ [] := by
  cases ws with
  | nil => exact h
  | cons v ws => simp [joinCharsWith, h]

/-- What words are put together to starts and ends with one of them. -/
theorem isTrimmed_joinCharsWith {sep : List Char} {ws : List (List Char)}
    (h : ∀ w ∈ ws, IsWord w) : IsTrimmed (joinCharsWith sep ws) := by
  fun_induction joinCharsWith sep ws with
  | case1 => exact ⟨nofun, nofun⟩
  | case2 w => exact isTrimmed_of_isWord (h w (List.mem_singleton_self w))
  | case3 w v rest ih =>
    have hw : IsWord w := h w (List.mem_cons_self ..)
    have hv : IsWord v := h v (by simp)
    have hrest := ih fun u hu => h u (List.mem_cons_of_mem _ hu)
    refine ⟨?_, ?_⟩
    · rw [List.append_assoc, List.head?_append_of_ne_nil _ hw.1]
      exact (isTrimmed_of_isWord hw).1
    · rw [List.getLast?_append_of_ne_nil _ (joinCharsWith_ne_nil hv.1 rest)]
      exact hrest.2

/-! ## Where words stand -/

/-- The first word stands after blanks, and nothing or a blank follows it. -/
theorem exists_of_words_eq_cons {cs w : List Char} {ws : List (List Char)}
    (h : words cs = w :: ws) :
    ∃ front back, cs = front ++ (w ++ back) ∧ (∀ c ∈ front, isBlank c = true) ∧ IsWord w ∧
      words back = ws ∧ (back = [] ∨ ∃ b rest, back = b :: rest ∧ isBlank b = true) := by
  induction cs generalizing w ws with
  | nil => cases h
  | cons c cs ih =>
    cases hc : isBlank c with
    | true =>
      rw [words_blank hc] at h
      obtain ⟨front, back, rfl, hfront, hrest⟩ := ih h
      refine ⟨c :: front, back, rfl, fun d hd => ?_, hrest⟩
      rcases List.mem_cons.mp hd with rfl | hd
      · exact hc
      · exact hfront d hd
    | false =>
      have hsingle : IsWord [c] := ⟨List.cons_ne_nil _ _, fun d hd => List.mem_singleton.mp hd ▸ hc⟩
      have hends : (cs = [] ∨ ∃ d rest, cs = d :: rest ∧ isBlank d = true) →
          ∃ front back, c :: cs = front ++ (w ++ back) ∧ (∀ c ∈ front, isBlank c = true) ∧
            IsWord w ∧ words back = ws ∧
            (back = [] ∨ ∃ b rest, back = b :: rest ∧ isBlank b = true) := by
        intro hcs
        rw [words_last hc hcs] at h
        cases h
        exact ⟨[], cs, rfl, nofun, hsingle, rfl, hcs⟩
      cases cs with
      | nil => exact hends (.inl rfl)
      | cons d cs =>
        cases hd : isBlank d with
        | true => exact hends (.inr ⟨d, cs, rfl, hd⟩)
        | false =>
          obtain ⟨v, vs, hvs⟩ := exists_words_eq_cons hd cs
          rw [words_cons hc hd hvs] at h
          cases h
          obtain ⟨front, back, hcs, hfront, hv, hrest⟩ := ih hvs
          -- the text goes on with the same word, so there is nothing in front of it
          have hnil : front = [] := by
            cases front with
            | nil => rfl
            | cons e front =>
              cases hcs
              rw [hfront _ (List.mem_cons_self ..)] at hd
              cases hd
          subst hnil
          refine ⟨[], back, congrArg (c :: ·) hcs, nofun, ⟨List.cons_ne_nil _ _, fun e he => ?_⟩,
            hrest⟩
          rcases List.mem_cons.mp he with rfl | he
          · exact hc
          · exact hv.2 e he

/-- Every word of a text is one. -/
theorem isWord_of_mem {cs w : List Char} (h : w ∈ words cs) : IsWord w := by
  generalize hws : words cs = ws at h
  induction ws generalizing cs with
  | nil => cases h
  | cons v ws ih =>
    obtain ⟨front, back, -, -, hv, hback, -⟩ := exists_of_words_eq_cons hws
    rcases List.mem_cons.mp h with rfl | h
    · exact hv
    · exact ih hback h

/-- A word stands after the words before it and in front of those after it, with blanks
between them. -/
theorem exists_of_words_eq {cs w : List Char} {us vs : List (List Char)}
    (h : words cs = us ++ w :: vs) :
    ∃ front back, cs = front ++ (w ++ back) ∧ words front = us ∧ words back = vs ∧
      (front = [] ∨ ∃ rest b, front = rest ++ [b] ∧ isBlank b = true) ∧
      (back = [] ∨ ∃ b rest, back = b :: rest ∧ isBlank b = true) := by
  induction us generalizing cs with
  | nil =>
    obtain ⟨front, back, hcs, hfront, -, hback, hnext⟩ := exists_of_words_eq_cons h
    refine ⟨front, back, hcs, words_eq_nil hfront, hback, ?_, hnext⟩
    rcases List.eq_nil_or_concat' front with rfl | ⟨rest, b, rfl⟩
    · exact .inl rfl
    · exact .inr ⟨rest, b, rfl, hfront b (by simp)⟩
  | cons u us ih =>
    obtain ⟨front, back, hcs, hfront, hu, hback, hnext⟩ := exists_of_words_eq_cons h
    obtain ⟨front', back', hback', hus, hvs, hlast, hnext'⟩ := ih hback
    have hw : IsWord w := isWord_of_mem (h ▸ by simp : w ∈ words cs)
    -- what follows the first word starts with a blank, and so there is something in front of w
    obtain ⟨b, rest, rfl, hb⟩ : ∃ b rest, front' = b :: rest ∧ isBlank b = true := by
      rcases hnext with rfl | ⟨b, rest, rfl, hb⟩
      · exact absurd hback (List.append_ne_nil_of_right_ne_nil _ (List.cons_ne_nil _ _)).symm
      · cases front' with
        | nil =>
          obtain ⟨c, w', rfl⟩ := List.exists_cons_of_ne_nil hw.1
          cases hback'
          rw [hw.2 _ (List.mem_cons_self ..)] at hb
          cases hb
        | cons e front' =>
          cases hback'
          exact ⟨b, front', rfl, hb⟩
    refine ⟨front ++ (u ++ b :: rest), back', ?_, ?_, hvs, ?_, hnext'⟩
    · rw [hcs, hback']
      simp only [List.append_assoc, List.cons_append]
    · rw [words_append_of_blank hfront, words_append_blank hb, words_of_isWord hu]
      rw [words_blank hb] at hus
      rw [hus]
      rfl
    · rcases hlast with hnil | ⟨rest', b', heq, hb'⟩
      · cases hnil
      · exact .inr ⟨front ++ (u ++ rest'), b', by rw [heq]; simp only [List.append_assoc], hb'⟩

/-! ## Words at the end and at the beginning -/

/-- A word at the end belongs to the last word. -/
theorem exists_words_append_right {w : List Char} (h : IsWord w) (cs : List Char) :
    ∃ front u, words (cs ++ w) = front ++ [u ++ w] := by
  induction cs with
  | nil => exact ⟨[], [], words_of_isWord h⟩
  | cons c cs ih =>
    obtain ⟨front, u, hwords⟩ := ih
    cases hc : isBlank c with
    | true => exact ⟨front, u, by rw [List.cons_append, words_blank hc, hwords]⟩
    | false =>
      cases hcs : cs ++ w with
      | nil => exact absurd (List.append_eq_nil_iff.mp hcs).2 h.1
      | cons d ds =>
        rw [hcs] at hwords
        rw [List.cons_append, hcs]
        cases hd : isBlank d with
        | true =>
          rw [words_last hc (.inr ⟨d, ds, rfl, hd⟩), hwords]
          exact ⟨[c] :: front, u, rfl⟩
        | false =>
          -- the character goes to the first word, which is also the last one if there is no other
          cases front with
          | nil => exact ⟨[], c :: u, words_cons hc hd hwords⟩
          | cons v front => exact ⟨(c :: v) :: front, u, words_cons hc hd hwords⟩

/-- A word at the beginning belongs to the first word. -/
theorem exists_words_append_left {w : List Char} (h : IsWord w) (cs : List Char) :
    ∃ u back, words (w ++ cs) = (w ++ u) :: back := by
  obtain ⟨hne, hw⟩ := h
  induction w with
  | nil => exact absurd rfl hne
  | cons c w ih =>
    have hc : isBlank c = false := hw c (List.mem_cons_self ..)
    cases w with
    | nil => exact exists_words_eq_cons hc cs
    | cons d w =>
      have hd : isBlank d = false := hw d (by simp)
      obtain ⟨u, back, hwords⟩ :=
        ih (List.cons_ne_nil _ _) fun e he => hw e (List.mem_cons_of_mem _ he)
      exact ⟨u, back, words_cons hc hd hwords⟩

/-- Two lists of words are put together with one more separator between them. -/
theorem joinCharsWith_append (sep : List Char) {us vs : List (List Char)} (hus : us ≠ [])
    (hvs : vs ≠ []) :
    joinCharsWith sep (us ++ vs) = joinCharsWith sep us ++ sep ++ joinCharsWith sep vs := by
  fun_induction joinCharsWith sep us with
  | case1 => exact absurd rfl hus
  | case2 u =>
    obtain ⟨v, vs, rfl⟩ := List.exists_cons_of_ne_nil hvs
    rfl
  | case3 u v rest ih =>
    have hrest := ih (List.cons_ne_nil _ _)
    rw [List.cons_append, List.cons_append, joinCharsWith, ← List.cons_append, hrest]
    simp only [List.append_assoc]

/-- Words that follow each other are put together in one piece. -/
theorem joinCharsWith_infix {sep : List Char} {us vs : List (List Char)} (h : us <:+: vs) :
    joinCharsWith sep us <:+: joinCharsWith sep vs := by
  obtain ⟨front, back, rfl⟩ := h
  by_cases hus : us = []
  · rw [hus]
    exact List.nil_infix
  have hfront : joinCharsWith sep us <:+: joinCharsWith sep (front ++ us) := by
    by_cases hnil : front = []
    · rw [hnil]
      exact List.infix_rfl
    · rw [joinCharsWith_append sep hnil hus]
      exact (List.suffix_append _ _).isInfix
  refine hfront.trans ?_
  by_cases hnil : back = []
  · subst hnil
    simp
  · rw [joinCharsWith_append sep (List.append_ne_nil_of_right_ne_nil _ hus) hnil,
      List.append_assoc]
    exact (List.prefix_append _ _).isInfix

end CatalogDdl.Text
