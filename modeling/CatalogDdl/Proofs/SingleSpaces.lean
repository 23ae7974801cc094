import CatalogDdl.Proofs.Words
import Mathlib.Data.List.Chain

/-!
# Single spaces

Words that are put together again have a single space between each two. What was between two
characters of the text that are no blanks is then still between them, but with a single space
in the place of every run of blanks.

- `squeeze`: a text with single spaces. `SingleSpaced`: the texts that have no other blanks,
  which are those that squeezing leaves alone.
- `rejoin`: the words of a text, put together again.
- `rejoin_append`, `gap_append_rejoin`: a part of a text that starts and ends with no blank.
-/

namespace CatalogDdl.Text

/-- A text with a single space in the place of each run of blanks. -/
def squeeze : List Char → List Char
  | [] => []
  | c :: cs =>
    if isBlank c then
      if cs.head?.any isBlank then squeeze cs else ' ' :: squeeze cs
    else c :: squeeze cs

/-- Whether the only blanks of a text are single spaces. -/
structure SingleSpaced (cs : List Char) : Prop where
  spaces : ∀ c ∈ cs, isBlank c = true → c = ' '
  alone : cs.IsChain fun c d => isBlank c = true → isBlank d = false

/-- The words of a text with single spaces between them. -/
def rejoin (cs : List Char) : List Char := joinCharsWith [' '] (words cs)

/-- The space in front of the first word of a text that follows other words. -/
def gap (cs : List Char) : List Char :=
  if cs.head?.any isBlank = true ∧ words cs ≠ [] then [' '] else []

variable {c : Char} {cs ds : List Char}

/-! ## Single spaces -/

/-- What is no blank stays. -/
theorem squeeze_cons (h : isBlank c = false) (cs : List Char) :
    squeeze (c :: cs) = c :: squeeze cs := if_neg (Bool.eq_false_iff.mp h)

/-- Of two blanks the first one goes. -/
theorem squeeze_blank (h : isBlank c = true) (hcs : cs.head?.any isBlank = true) :
    squeeze (c :: cs) = squeeze cs := (if_pos h).trans (if_pos hcs)

/-- The last one of a run of blanks becomes a space. -/
theorem squeeze_last_blank (h : isBlank c = true) (hcs : cs.head?.any isBlank = false) :
    squeeze (c :: cs) = ' ' :: squeeze cs := (if_pos h).trans (if_neg (Bool.eq_false_iff.mp hcs))

theorem singleSpaced_nil : SingleSpaced [] := ⟨nofun, .nil⟩

/-- A first blank must be a space, and no blank may follow it. -/
theorem singleSpaced_cons_iff :
    SingleSpaced (c :: cs) ↔
      (isBlank c = true → c = ' ' ∧ cs.head?.any isBlank = false) ∧ SingleSpaced cs := by
  have halone : (c :: cs).IsChain (fun c d => isBlank c = true → isBlank d = false) ↔
      (isBlank c = true → cs.head?.any isBlank = false) ∧
        cs.IsChain fun c d => isBlank c = true → isBlank d = false := by
    cases cs with
    | nil => simp
    | cons d ds => exact List.isChain_cons_cons
  constructor
  · rintro ⟨hspaces, hchain⟩
    obtain ⟨hc, hcs⟩ := List.forall_mem_cons.mp hspaces
    obtain ⟨hnext, hrest⟩ := halone.mp hchain
    exact ⟨fun h => ⟨hc h, hnext h⟩, hcs, hrest⟩
  · rintro ⟨hc, hspaces, hrest⟩
    exact ⟨List.forall_mem_cons.mpr ⟨fun h => (hc h).1, hspaces⟩,
      halone.mpr ⟨fun h => (hc h).2, hrest⟩⟩

theorem singleSpaced_cons_of_not_blank (h : isBlank c = false) :
    SingleSpaced (c :: cs) ↔ SingleSpaced cs := by
  rw [singleSpaced_cons_iff, h]
  exact ⟨fun h => h.2, fun h => ⟨nofun, h⟩⟩

/-- Squeezing makes no text longer. -/
theorem length_squeeze_le (cs : List Char) : (squeeze cs).length ≤ cs.length := by
  fun_induction squeeze cs with
  | case1 => exact Nat.le_refl _
  | case2 c cs hc hcs ih => exact Nat.le_succ_of_le ih
  | case3 c cs hc hcs ih => exact Nat.succ_le_succ ih
  | case4 c cs hc ih => exact Nat.succ_le_succ ih

/-- Squeezing leaves a text alone iff it has no other blanks than single spaces. -/
theorem squeeze_eq_self_iff : squeeze cs = cs ↔ SingleSpaced cs := by
  fun_induction squeeze cs with
  | case1 => exact iff_of_true rfl singleSpaced_nil
  | case2 c cs hc hcs ih =>
    -- the text becomes shorter
    rw [singleSpaced_cons_iff]
    refine iff_of_false (fun h => ?_) fun h => ?_
    · have hlength := length_squeeze_le cs
      rw [h] at hlength
      exact Nat.not_succ_le_self _ hlength
    · rw [(h.1 hc).2] at hcs
      cases hcs
  | case3 c cs hc hcs ih =>
    -- the only change is that the blank becomes a space
    rw [singleSpaced_cons_iff, List.cons_eq_cons, ih, eq_comm]
    simp [hc, hcs]
  | case4 c cs hc ih =>
    rw [singleSpaced_cons_of_not_blank (Bool.eq_false_iff.mpr hc), List.cons_inj_right, ih]

instance : DecidablePred SingleSpaced := fun _ => decidable_of_iff _ squeeze_eq_self_iff

/-- A part of a text with single spaces has single spaces. -/
theorem SingleSpaced.of_isInfix (h : SingleSpaced ds) (hcs : cs <:+: ds) : SingleSpaced cs :=
  ⟨fun c hc => h.spaces c (hcs.subset hc), List.IsChain.infix h.alone hcs⟩

/-- A word does not add any blanks. -/
theorem singleSpaced_append_iff {w : List Char} (h : IsWord w) :
    SingleSpaced (w ++ cs) ↔ SingleSpaced cs := by
  obtain ⟨-, hw⟩ := h
  induction w with
  | nil => rfl
  | cons c w ih =>
    rw [List.cons_append, singleSpaced_cons_of_not_blank (hw c (List.mem_cons_self ..))]
    exact ih fun d hd => hw d (List.mem_cons_of_mem _ hd)

/-- Words with single spaces between them have no other blanks. -/
theorem singleSpaced_joinCharsWith {ws : List (List Char)} (h : ∀ w ∈ ws, IsWord w) :
    SingleSpaced (joinCharsWith [' '] ws) := by
  fun_induction joinCharsWith [' '] ws with
  | case1 => exact singleSpaced_nil
  | case2 w =>
    rw [← List.append_nil w, singleSpaced_append_iff (h w (List.mem_singleton_self w))]
    exact singleSpaced_nil
  | case3 w v rest ih =>
    have hrest : ∀ u ∈ v :: rest, IsWord u := fun u hu => h u (List.mem_cons_of_mem _ hu)
    -- what comes after the space starts with a word
    have htrimmed : IsTrimmed (joinCharsWith [' '] (v :: rest)) := isTrimmed_joinCharsWith hrest
    rw [List.append_assoc, singleSpaced_append_iff (h w (List.mem_cons_self ..)),
      List.singleton_append, singleSpaced_cons_iff]
    refine ⟨fun _ => ⟨rfl, ?_⟩, ih hrest⟩
    rw [Option.any_eq_false]
    exact fun c hc => by simp [htrimmed.1 c hc]

/-! ## Words with single spaces between them -/

theorem rejoin_blank (h : isBlank c = true) (cs : List Char) : rejoin (c :: cs) = rejoin cs := by
  rw [rejoin, words_blank h, rejoin]

theorem gap_of_blank (h : cs.head?.any isBlank = true) (hwords : words cs ≠ []) : gap cs = [' '] :=
  if_pos ⟨h, hwords⟩

theorem gap_of_not_blank (h : cs.head?.any isBlank = false) : gap cs = [] :=
  if_neg fun hcs => Bool.eq_false_iff.mp h hcs.1

theorem gap_of_words_eq_nil (h : words cs = []) : gap cs = [] := if_neg fun hcs => hcs.2 h

/-- A character is followed by the gap to the next word, if there is one. -/
theorem rejoin_cons (h : isBlank c = false) (cs : List Char) :
    rejoin (c :: cs) = c :: (gap cs ++ rejoin cs) := by
  cases cs with
  | nil =>
    rw [rejoin, words_last h (.inl rfl)]
    rfl
  | cons d cs =>
    -- a word ends here, and what follows it may be nothing but blanks
    cases hd : isBlank d with
    | true =>
      have hhead : (d :: cs).head?.any isBlank = true := hd
      rw [rejoin, words_last h (.inr ⟨d, cs, rfl, hd⟩)]
      cases hws : words (d :: cs) with
      | nil =>
        rw [gap_of_words_eq_nil hws, rejoin, hws]
        rfl
      | cons w ws =>
        have hne : words (d :: cs) ≠ [] := hws ▸ List.cons_ne_nil w ws
        rw [gap_of_blank hhead hne, rejoin, hws]
        rfl
    | false =>
      have hhead : (d :: cs).head?.any isBlank = false := hd
      obtain ⟨w, ws, hws⟩ := exists_words_eq_cons hd cs
      rw [gap_of_not_blank hhead, rejoin, rejoin, words_cons h hd hws, hws]
      cases ws <;> rfl

theorem head?_any_append (h : isBlank c = false) (cs ds : List Char) :
    (cs ++ c :: ds).head?.any isBlank = cs.head?.any isBlank := by
  cases cs with
  | nil => exact h
  | cons d cs => rfl

/-- What follows a character that is no blank does not matter for what is in front of it. -/
theorem gap_append (h : isBlank c = false) (cs ds : List Char) :
    gap (cs ++ c :: ds) = if cs.head?.any isBlank then [' '] else [] := by
  rw [gap, head?_any_append h]
  simp only [ne_eq, words_ne_nil (List.mem_append_right cs (List.mem_cons_self ..)) h,
    not_false_eq_true, and_true]

/-- Words are put together part by part, if the first part ends inside a word. -/
theorem rejoin_append (h : isBlank c = false) (cs ds : List Char) :
    rejoin (cs ++ c :: ds) = rejoin (cs ++ [c]) ++ (gap ds ++ rejoin ds) := by
  -- the gap behind a character depends on what follows, but both texts have the same word there
  induction cs with
  | nil =>
    rw [List.nil_append, List.nil_append, rejoin_cons h, rejoin_cons h]
    rfl
  | cons d cs ih =>
    cases hd : isBlank d with
    | true => rw [List.cons_append, List.cons_append, rejoin_blank hd, rejoin_blank hd, ih]
    | false =>
      rw [List.cons_append, List.cons_append, rejoin_cons hd, rejoin_cons hd, ih,
        gap_append h cs ds, gap_append h cs []]
      simp only [List.cons_append, List.append_assoc]

/-- Between two characters that are no blanks the text is squeezed. -/
theorem gap_append_rejoin (h : isBlank c = false) (cs : List Char) :
    gap (cs ++ [c]) ++ rejoin (cs ++ [c]) = squeeze cs ++ [c] := by
  induction cs with
  | nil =>
    rw [gap_append h, List.nil_append, rejoin_cons h]
    rfl
  | cons d cs ih =>
    -- the character at the end keeps the words from being none, so the gap is a matter of the
    -- first blank
    rw [gap_append h] at ih ⊢
    cases hd : isBlank d with
    | false =>
      rw [List.cons_append, rejoin_cons hd, gap_append h, ih, squeeze_cons hd]
      simp [hd]
    | true =>
      rw [List.cons_append, rejoin_blank hd]
      cases hcs : cs.head?.any isBlank with
      | true =>
        rw [squeeze_blank hd hcs, ← ih, hcs]
        simp [hd]
      | false =>
        rw [hcs] at ih
        rw [squeeze_last_blank hd hcs, List.cons_append, ← ih]
        simp [hd]

end CatalogDdl.Text
