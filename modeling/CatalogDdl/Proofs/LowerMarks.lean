import CatalogDdl.Proofs.LetterCase
import Mathlib.Data.List.Infix

/-!
# Marks in lower case

Names and expressions are written in lower case with the marks that are in them: quotes,
stars, slashes, commas. No letter becomes a mark in lower case, and a mark stays what it
is, so the lower case of a text holds a sequence of marks exactly where the text does.

- `IsMark`: what is meant by a mark.
- `mapByTable_cases`: how the table of a case mapping is read.
- `mem_lowerChar_iff`: a mark comes from nothing but itself.
- `isInfix_lower_iff`: sequences of marks.
- `LowersTo`: a text in lower case as a part of another one. `LowersTo.split_append` cuts it
  where the text is cut, `LowersTo.count_eq` counts marks in it, and `LowersTo.eq_self_iff`
  says when it is the text.
-/

namespace CatalogDdl.Text

/-- The characters up to the backtick but for the capitals, and for the one that stands for
no character. -/
def IsMark (m : Char) : Prop := 0 < m.toNat ∧ m.toNat ≤ 0x60 ∧ m.isUpper = false

instance : DecidablePred IsMark := fun m =>
  inferInstanceAs (Decidable (0 < m.toNat ∧ m.toNat ≤ 0x60 ∧ m.isUpper = false))

variable {m : Char}

/-! ## Characters -/

/-- A number beyond the backtick is not the number of a mark, nor is what it stands for if
it is not the number of a character at all. -/
theorem ofNat_ne_of_isMark (hm : IsMark m) {n : Nat} (h : 0x60 < n) : Char.ofNat n ≠ m := by
  rintro rfl
  obtain ⟨hpos, hle, -⟩ := hm
  by_cases hvalid : n.isValidChar
  · have hn : (Char.ofNat n).toNat = n := by
      rw [Char.ofNat, dif_pos hvalid]
      rfl
    omega
  · rw [Char.ofNat, dif_neg hvalid] at hpos
    exact absurd hpos (by decide)

/-- A character above U+007F is mapped as an exception, with a run, or to itself. -/
theorem mapByTable_cases (runs : List CaseRun) (special : List (Nat × List Nat)) (c : Char) :
    (∃ x ∈ special, x.1 = c.toNat ∧ mapByTable runs special c = x.2.map Char.ofNat) ∨
      (∃ r ∈ runs, r.covers c.toNat = true ∧ mapByTable runs special c = [r.image c.toNat]) ∨
        mapByTable runs special c = [c] := by
  unfold mapByTable
  split
  · rename_i image himage
    obtain ⟨front, back, hlist, -⟩ := List.lookup_eq_some_iff.mp himage
    exact .inl ⟨(c.toNat, image), by rw [hlist]; simp, rfl, rfl⟩
  · split
    · rename_i r hr
      have hcovers := List.find?_some hr
      exact .inr (.inl ⟨r, List.mem_of_find?_eq_some hr, hcovers, rfl⟩)
    · exact .inr (.inr rfl)

/-- A run has the numbers from its first one to its last one, in steps of its stride. -/
theorem CaseRun.covers_iff {r : CaseRun} {n : Nat} :
    r.covers n = true ↔ r.first ≤ n ∧ n ≤ r.last ∧ (n - r.first) % r.stride = 0 := by
  simp only [covers, Bool.and_eq_true, decide_eq_true_eq, beq_iff_eq, and_assoc]

/-- The tables for characters above U+007F lead to letters. -/
theorem not_mem_mapByTable_lower (hm : IsMark m) {c : Char} (hc : m ≠ c) :
    m ∉ mapByTable lowerRuns lowerSpecial c := by
  have hruns : ∀ r ∈ lowerRuns, 0x60 < r.first + r.shift := by decide +kernel
  have hspecial : ∀ x ∈ lowerSpecial, ∀ n ∈ x.2, 0x60 < n := by decide
  intro hmem
  rcases mapByTable_cases lowerRuns lowerSpecial c with ⟨x, hx, -, hmap⟩ | ⟨r, hr, hcovers, hmap⟩ | hmap
  · rw [hmap] at hmem
    obtain ⟨n, hn, hnm⟩ := List.mem_map.mp hmem
    exact ofNat_ne_of_isMark hm (hspecial x hx n hn) hnm
  · rw [hmap] at hmem
    have hshift := hruns r hr
    have hfirst := (CaseRun.covers_iff.mp hcovers).1
    have hlarge : 0x60 < (c.toNat + r.shift).toNat := by omega
    exact ofNat_ne_of_isMark hm hlarge (List.mem_singleton.mp hmem).symm
  · rw [hmap] at hmem
    exact hc (List.mem_singleton.mp hmem)

/-- A capital from A to Z becomes a small letter, which is no mark. -/
theorem toLower_eq_iff (hm : IsMark m) {c : Char} : c.toLower = m ↔ c = m := by
  cases hc : c.isUpper with
  | true =>
    have hsmall : ∀ n < 26, (Char.ofNat (65 + n)).toLower = Char.ofNat (97 + n) := by decide
    obtain ⟨n, hn, rfl⟩ := exists_of_isUpper hc
    rw [hsmall n hn]
    constructor
    · intro h
      exact absurd h (ofNat_ne_of_isMark hm (by omega))
    · rintro rfl
      rw [hm.2.2] at hc
      cases hc
  | false =>
    have hother : ¬ (c.val ≥ 'A'.val ∧ c.val ≤ 'Z'.val) := of_decide_eq_false hc
    have hsame : c.toLower = c := dif_neg hother
    rw [hsame]

/-- A mark is in the lower case of itself and of no other character. -/
theorem mem_lowerChar_iff (hm : IsMark m) {c : Char} : m ∈ lowerChar c ↔ c = m := by
  unfold lowerChar
  split
  · rw [List.mem_singleton, eq_comm]
    exact toLower_eq_iff hm
  · rename_i hlarge
    have hne : m ≠ c := by
      rintro rfl
      have := hm.2.1
      omega
    exact ⟨fun h => absurd h (not_mem_mapByTable_lower hm hne), fun h => absurd h.symm hne⟩

/-- A mark is its own lower case. -/
theorem lowerChar_of_isMark (hm : IsMark m) : lowerChar m = [m] := by
  have hlow : m.toNat < 0x80 := by
    have := hm.2.1
    omega
  rw [lowerChar, if_pos hlow, (toLower_eq_iff hm).mpr rfl]

/-- No character becomes nothing. -/
theorem lowerChar_ne_nil (c : Char) : lowerChar c ≠ [] := by
  have hspecial : ∀ x ∈ lowerSpecial, x.2 ≠ [] := by decide
  unfold lowerChar
  split
  · exact List.cons_ne_nil _ _
  · rcases mapByTable_cases lowerRuns lowerSpecial c with ⟨x, hx, -, hmap⟩ | ⟨r, -, -, hmap⟩ | hmap
    · rw [hmap]
      exact mt List.map_eq_nil_iff.mp (hspecial x hx)
    · rw [hmap]
      exact List.cons_ne_nil _ _
    · rw [hmap]
      exact List.cons_ne_nil _ _

/-! ## Texts -/

/-- What a character becomes in lower case between others. -/
def lowerPiece (before : List Char) (c : Char) (after : List Char) : List Char :=
  if c = 'Σ' then [if meetsCased before && !meetsCased after then 'ς' else 'σ'] else lowerChar c

theorem lowerAfter_cons (before : List Char) (c : Char) (cs : List Char) :
    lowerAfter before (c :: cs) = lowerPiece before c cs ++ lowerAfter (c :: before) cs := rfl

theorem lowerPiece_of_isMark (hm : IsMark m) (before after : List Char) :
    lowerPiece before m after = [m] := by
  have hsigma : m ≠ 'Σ' := by
    rintro rfl
    exact absurd hm (by decide)
  rw [lowerPiece, if_neg hsigma, lowerChar_of_isMark hm]

theorem lowerPiece_ne_nil (before : List Char) (c : Char) (after : List Char) :
    lowerPiece before c after ≠ [] := by
  unfold lowerPiece
  split
  · exact List.cons_ne_nil _ _
  · exact lowerChar_ne_nil c

/-- No mark comes from another character, whatever stands around it. -/
theorem not_mem_lowerPiece (hm : IsMark m) {c : Char} (hc : c ≠ m) (before after : List Char) :
    m ∉ lowerPiece before c after := by
  unfold lowerPiece
  split
  · rw [List.mem_singleton]
    rintro rfl
    -- neither of the two small sigmas is a mark
    split at hm <;> exact absurd hm (by decide)
  · exact mt (mem_lowerChar_iff hm).mp hc

variable {marks : List Char}

/-- The lower case starts with some marks iff the text does. -/
theorem isPrefix_lowerAfter_iff (h : ∀ m ∈ marks, IsMark m) (before cs : List Char) :
    marks <+: lowerAfter before cs ↔ marks <+: cs := by
  induction cs generalizing marks before with
  | nil => exact Iff.rfl
  | cons c cs ih =>
    cases marks with
    | nil => exact ⟨fun _ => List.nil_prefix, fun _ => List.nil_prefix⟩
    | cons m marks =>
      have hm : IsMark m := h m (List.mem_cons_self ..)
      rw [lowerAfter_cons, List.cons_prefix_cons]
      by_cases hc : c = m
      · subst hc
        rw [lowerPiece_of_isMark hm, List.singleton_append, List.cons_prefix_cons,
          ih fun d hd => h d (List.mem_cons_of_mem _ hd)]
      · -- the first character of what another one becomes is not the mark
        obtain ⟨d, ds, hds⟩ := List.exists_cons_of_ne_nil (lowerPiece_ne_nil before c cs)
        have hd : m ≠ d := by
          rintro rfl
          exact not_mem_lowerPiece hm hc before cs (hds ▸ List.mem_cons_self ..)
        rw [hds, List.cons_append, List.cons_prefix_cons]
        exact ⟨fun hstarts => absurd hstarts.1 hd, fun hstarts => absurd hstarts.1.symm hc⟩

/-- A sequence that starts with a mark is not found in front of a text without it. -/
theorem isInfix_append_iff {front : List Char} (h : m ∉ front) (cs : List Char) :
    m :: marks <:+: front ++ cs ↔ m :: marks <:+: cs := by
  induction front with
  | nil => exact Iff.rfl
  | cons c front ih =>
    obtain ⟨hc, hfront⟩ := not_or.mp (mt List.mem_cons.mpr h)
    rw [List.cons_append, List.infix_cons_iff, ih hfront, List.cons_prefix_cons]
    exact ⟨fun hor => hor.resolve_left fun hstarts => hc hstarts.1, .inr⟩

theorem isInfix_lowerAfter_iff (h : ∀ d ∈ m :: marks, IsMark d) (before cs : List Char) :
    m :: marks <:+: lowerAfter before cs ↔ m :: marks <:+: cs := by
  have hm : IsMark m := h m (List.mem_cons_self ..)
  induction cs generalizing before with
  | nil => exact Iff.rfl
  | cons c cs ih =>
    have hrest := ih (c :: before)
    by_cases hc : c = m
    · subst hc
      have hstarts := isPrefix_lowerAfter_iff h before (c :: cs)
      rw [lowerAfter_cons, lowerPiece_of_isMark hm, List.singleton_append] at hstarts ⊢
      rw [List.infix_cons_iff, List.infix_cons_iff]
      exact or_congr hstarts hrest
    · -- what becomes of this character has no mark `m`, and neither has the character itself
      have hone : m ∉ [c] := fun hmem => hc (List.mem_singleton.mp hmem).symm
      rw [lowerAfter_cons]
      calc m :: marks <:+: lowerPiece before c cs ++ lowerAfter (c :: before) cs
        _ ↔ m :: marks <:+: lowerAfter (c :: before) cs :=
          isInfix_append_iff (not_mem_lowerPiece hm hc before cs) _
        _ ↔ m :: marks <:+: cs := hrest
        _ ↔ m :: marks <:+: [c] ++ cs := (isInfix_append_iff hone cs).symm

/-- **A sequence of marks stands in the lower case of a text iff it stands in the text.** -/
theorem isInfix_lower_iff (h : ∀ d ∈ marks, IsMark d) (s : String) :
    marks <:+: (lower s).toList ↔ marks <:+: s.toList := by
  cases marks with
  | nil => exact ⟨fun _ => List.nil_infix, fun _ => List.nil_infix⟩
  | cons m marks =>
    rw [lower, String.toList_ofList]
    exact isInfix_lowerAfter_iff h [] s.toList

/-! ## Parts of texts -/

/-- A text and its lower case as a part of another text. Which other one matters to nothing but
the capital sigmas. -/
inductive LowersTo : List Char → List Char → Prop
  | nil : LowersTo [] []
  | cons (before : List Char) (c : Char) (after : List Char) {cs ds : List Char} :
      LowersTo cs ds → LowersTo (c :: cs) (lowerPiece before c after ++ ds)

/-- What stands in front of a text matters to its lower case as `LowersTo` allows it. -/
theorem lowersTo_lowerAfter (before cs : List Char) : LowersTo cs (lowerAfter before cs) := by
  induction cs generalizing before with
  | nil => exact .nil
  | cons c cs ih => exact .cons before c cs (ih (c :: before))

/-- Whether a character stays what it is does not depend on what stands around it. -/
theorem lowerPiece_eq_self_iff (before : List Char) (c : Char) (after : List Char) :
    lowerPiece before c after = [c] ↔ lowerChar c = [c] := by
  unfold lowerPiece
  split
  · -- a capital sigma is neither of the small ones
    rename_i hsigma
    subst hsigma
    refine iff_of_false (fun h => ?_) (by decide +kernel)
    split at h <;> exact absurd h (by decide)
  · exact Iff.rfl

namespace LowersTo

variable {cs cs' ds : List Char}

theorem eq_nil_iff (h : LowersTo cs ds) : ds = [] ↔ cs = [] := by
  cases h with
  | nil => exact Iff.rfl
  | cons before c after h =>
    refine iff_of_false (fun hnil => ?_) (List.cons_ne_nil _ _)
    exact lowerPiece_ne_nil before c after (List.append_eq_nil_iff.mp hnil).1

/-- A text and its lower case are cut at the same place. -/
theorem split_append (h : LowersTo (cs ++ cs') ds) :
    ∃ es es', ds = es ++ es' ∧ LowersTo cs es ∧ LowersTo cs' es' := by
  induction cs generalizing ds with
  | nil => exact ⟨[], ds, rfl, .nil, h⟩
  | cons c cs ih =>
    cases h with
    | cons before _ after h =>
      obtain ⟨es, es', rfl, hes, hes'⟩ := ih h
      exact ⟨_, es', (List.append_assoc ..).symm, hes.cons before c after, hes'⟩

/-- A mark is a mark in lower case. -/
theorem split_mark (hm : IsMark m) (h : LowersTo (m :: cs) ds) :
    ∃ es, ds = m :: es ∧ LowersTo cs es := by
  cases h with
  | cons before _ after h => exact ⟨_, by rw [lowerPiece_of_isMark hm, List.singleton_append], h⟩

theorem mark (hm : IsMark m) (h : LowersTo cs ds) : LowersTo (m :: cs) (m :: ds) := by
  have hcons := h.cons [] m []
  rwa [lowerPiece_of_isMark hm, List.singleton_append] at hcons

/-- No mark comes or goes. -/
theorem count_eq (hm : IsMark m) (h : LowersTo cs ds) : ds.count m = cs.count m := by
  induction h with
  | nil => rfl
  | cons before c after _ ih =>
    rw [List.count_append, ih, List.count_cons]
    by_cases hc : c = m
    · subst hc
      rw [lowerPiece_of_isMark hm, List.count_singleton_self, if_pos (beq_self_eq_true c),
        Nat.add_comm]
    · rw [List.count_eq_zero.mpr (not_mem_lowerPiece hm hc before after), beq_false_of_ne hc,
        Nat.zero_add, if_neg Bool.false_ne_true, Nat.add_zero]

theorem mem_iff (hm : IsMark m) (h : LowersTo cs ds) : m ∈ ds ↔ m ∈ cs := by
  rw [← List.count_pos_iff, h.count_eq hm, List.count_pos_iff]

/-- Nothing gets shorter in lower case. -/
theorem length_le (h : LowersTo cs ds) : cs.length ≤ ds.length := by
  induction h with
  | nil => exact Nat.le_refl 0
  | cons before c after _ ih =>
    have hpos := List.length_pos_iff.mpr (lowerPiece_ne_nil before c after)
    rw [List.length_append, List.length_cons]
    omega

/-- A text is its own lower case iff every character of it is. -/
theorem eq_self_iff (h : LowersTo cs ds) : ds = cs ↔ ∀ c ∈ cs, lowerChar c = [c] := by
  induction h with
  | nil => exact iff_of_true rfl nofun
  | cons before c after h ih =>
    rw [List.forall_mem_cons, ← ih, ← lowerPiece_eq_self_iff before c after]
    constructor
    · -- no character becomes nothing, so none can become more than one
      intro heq
      obtain ⟨d, piece, hpiece⟩ := List.exists_cons_of_ne_nil (lowerPiece_ne_nil before c after)
      rw [hpiece, List.cons_append, List.cons.injEq] at heq
      obtain ⟨rfl, hrest⟩ := heq
      have hlength := h.length_le
      rw [← hrest, List.length_append] at hlength
      obtain rfl : piece = [] := List.length_eq_zero_iff.mp (by omega)
      exact ⟨hpiece, hrest⟩
    · rintro ⟨hpiece, hrest⟩
      rw [hpiece, hrest, List.singleton_append]

end LowersTo

end CatalogDdl.Text
