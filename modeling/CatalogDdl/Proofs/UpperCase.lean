import CatalogDdl.Proofs.LowerMarks

/-!
# Upper case

Names that are compared over all of Unicode are compared in upper case. That is a form
they can be put into once and for all: the upper case of a text is its own upper case.
What the tables lead to is nothing that they lead on from. The images of a run lie in
front of every other run or after it, or, in a run of every second number, on the numbers
that it leaves out.

Nor does it matter for the way a text is divided. Blanks, digits and most marks stay what
they are and come from nothing else, so a text has the same words in upper case.

- `IsPlain`: the characters without a case, as far as they are needed.
- `IsSettled`: the numbers that no table leads on from, and that are not plain.
- `CaseRun.misses`: where the images of a run are with regard to another run.
- `upperChar_of_mem_upperChar`, `upperChars_upperChars`: upper case once is enough.
- `mem_upperChar_iff`: a plain character comes from nothing but itself.
- `words_upperChars`: the words of a text in upper case.
-/

namespace CatalogDdl.Text

/-- The ranges of the blanks, of the digits and of the marks in front of A. -/
def plainRanges : List (Nat × Nat) := [
  (0, 0x40), (0x85, 0x85), (0xA0, 0xA0), (0x1680, 0x1680), (0x2000, 0x200A), (0x2028, 0x2029),
  (0x202F, 0x202F), (0x205F, 0x205F), (0x3000, 0x3000)]

/-- Whether a character is a blank, a digit or a mark in front of A. -/
def IsPlain (c : Char) : Prop := inRanges plainRanges c.toNat = true

instance : DecidablePred IsPlain := fun c =>
  inferInstanceAs (Decidable (inRanges plainRanges c.toNat = true))

/-- Whether the tables of upper case have an entry for a number. -/
def isLedOn (n : Nat) : Bool := upperRuns.any (·.covers n) || upperSpecial.any (·.1 == n)

/-- What the images of upper case are: capitals from A to Z, or above z without an entry of their
own, and not plain. -/
structure IsSettled (n : Nat) : Prop where
  valid : n.isValidChar
  capital : 0x7A < n ∨ 0x40 < n ∧ n ≤ 0x5A
  notPlain : inRanges plainRanges n = false
  notLedOn : isLedOn n = false

instance : DecidablePred IsSettled := fun n =>
  decidable_of_iff
    (n.isValidChar ∧ (0x7A < n ∨ 0x40 < n ∧ n ≤ 0x5A) ∧ inRanges plainRanges n = false ∧
      isLedOn n = false)
    ⟨fun ⟨hvalid, hcapital, hplain, hledOn⟩ => ⟨hvalid, hcapital, hplain, hledOn⟩,
      fun h => ⟨h.valid, h.capital, h.notPlain, h.notLedOn⟩⟩

theorem inRanges_iff {ranges : List (Nat × Nat)} {n : Nat} :
    inRanges ranges n = true ↔ ∃ x ∈ ranges, x.1 ≤ n ∧ n ≤ x.2 := by
  simp only [inRanges, List.any_eq_true, Bool.and_eq_true, decide_eq_true_eq]

/-- A blank is plain. -/
theorem isPlain_of_isBlank {c : Char} (h : isBlank c = true) : IsPlain c := by
  unfold isBlank at h
  rw [IsPlain, inRanges_iff]
  simp only [plainRanges, List.mem_cons, List.not_mem_nil, or_false, exists_eq_or_imp,
    exists_eq_left]
  simp at h
  omega

/-! ## Runs -/

namespace CaseRun

/-- The number of the first image of a run. -/
def low (r : CaseRun) : Nat := (r.first + r.shift).toNat

/-- The number of the last image of a run. -/
def high (r : CaseRun) : Nat := (r.last + r.shift).toNat

/-- Whether no character of another run is an image of a run: its images lie in front of the other
run, or after it, or between its characters. -/
def misses (r r' : CaseRun) : Bool :=
  Nat.blt r.high r'.first || Nat.blt r'.last r.low ||
    (r'.stride == 2 && (r.stride == 2 || r.first == r.last) && (r.low + r'.first) % 2 == 1)

/-- Whether the images of a run lie in front of a range, or after it. -/
def avoids (r : CaseRun) (range : Nat × Nat) : Bool :=
  Nat.blt r.high range.1 || Nat.blt range.2 r.low

/-- Whether the images of a run are characters, and letters. -/
def hasLetters (r : CaseRun) : Bool :=
  decide (0 < r.first + r.shift) &&
    (Nat.blt 0x7A r.low || Nat.blt 0x40 r.low && Nat.ble r.high 0x5A) &&
    (Nat.blt r.high 0xD800 || Nat.blt 0xDFFF r.low && Nat.blt r.high 0x110000)

variable {r r' : CaseRun} {n : Nat}

/-- The image of a number lies between the first and the last one, as far from the first one as
the number is. -/
theorem toNat_image (h : r.hasLetters = true) (hn : r.covers n = true) :
    (r.image n).toNat + r.first = r.low + n ∧ r.low ≤ (r.image n).toNat ∧
      (r.image n).toNat ≤ r.high ∧ (r.image n).toNat.isValidChar := by
  obtain ⟨hfirst, hlast, -⟩ := covers_iff.mp hn
  simp only [hasLetters, Bool.and_eq_true, Bool.or_eq_true, Nat.blt_eq, decide_eq_true_eq] at h
  obtain ⟨⟨hpos, -⟩, hrange⟩ := h
  have hlow : (r.low : Int) = r.first + r.shift := Int.toNat_of_nonneg (by omega)
  have hhigh : (r.high : Int) = r.last + r.shift := Int.toNat_of_nonneg (by omega)
  have hn' : ((n + r.shift).toNat : Int) = n + r.shift := Int.toNat_of_nonneg (by omega)
  have hvalid : (n + r.shift).toNat.isValidChar := by
    unfold Nat.isValidChar
    omega
  have himage : (r.image n).toNat = (n + r.shift).toNat := by
    rw [image, Char.ofNat, dif_pos hvalid]
    rfl
  rw [himage]
  omega

/-- The image of a number is a character, and a letter. -/
theorem image_isLetter (h : r.hasLetters = true) (hn : r.covers n = true) :
    (r.image n).toNat.isValidChar ∧
      (0x7A < (r.image n).toNat ∨ 0x40 < (r.image n).toNat ∧ (r.image n).toNat ≤ 0x5A) := by
  obtain ⟨-, hlow, hhigh, hvalid⟩ := toNat_image h hn
  simp only [hasLetters, Bool.and_eq_true, Bool.or_eq_true, Nat.blt_eq, Nat.ble_eq] at h
  omega

/-- No image lies in a range that a run avoids. -/
theorem image_not_between {range : Nat × Nat} (hr : r.hasLetters = true)
    (h : r.avoids range = true) (hn : r.covers n = true) :
    ¬ (range.1 ≤ (r.image n).toNat ∧ (r.image n).toNat ≤ range.2) := by
  obtain ⟨-, hlow, hhigh, -⟩ := toNat_image hr hn
  simp only [avoids, Bool.or_eq_true, Nat.blt_eq] at h
  omega

/-- No image of a run is in a run that it misses. -/
theorem covers_image (hr : r.hasLetters = true) (h : r.misses r' = true)
    (hn : r.covers n = true) : r'.covers (r.image n).toNat = false := by
  obtain ⟨himage, hlow, hhigh, -⟩ := toNat_image hr hn
  obtain ⟨hfirst, hlast, hstep⟩ := covers_iff.mp hn
  simp only [misses, Bool.or_eq_true, Nat.blt_eq, Bool.and_eq_true, beq_iff_eq] at h
  rw [Bool.eq_false_iff, ne_eq, covers_iff]
  rintro ⟨hfirst', hlast', hstep'⟩
  rcases h with (h | h) | ⟨⟨hstride', hstride⟩, hodd⟩
  · omega
  · omega
  · -- the images have one parity, and the characters of the other run have the other one
    rw [hstride'] at hstep'
    rcases hstride with hstride | hsingle
    · rw [hstride] at hstep
      omega
    · omega

end CaseRun

/-! ## Images -/

/-- The image of a character in a run is settled. -/
theorem isSettled_image {r : CaseRun} (hr : r ∈ upperRuns) {n : Nat} (hn : r.covers n = true) :
    IsSettled (r.image n).toNat := by
  have hletters : ∀ r ∈ upperRuns, r.hasLetters = true := by decide +kernel
  have hplain : ∀ r ∈ upperRuns, ∀ x ∈ plainRanges, r.avoids x = true := by decide +kernel
  -- each run is compared with every run and with every exception, itself included
  have hruns : (upperRuns.all fun r => upperRuns.all fun r' => r.misses r') = true := by
    decide +kernel
  have hspecial : (upperRuns.all fun r => upperSpecial.all fun x => r.avoids (x.1, x.1)) = true := by
    decide +kernel
  obtain ⟨hvalid, hcapital⟩ := CaseRun.image_isLetter (hletters r hr) hn
  refine ⟨hvalid, hcapital, ?_, ?_⟩
  · rw [Bool.eq_false_iff, ne_eq, inRanges_iff]
    rintro ⟨x, hx, hin⟩
    exact CaseRun.image_not_between (hletters r hr) (hplain r hr x hx) hn hin
  · rw [isLedOn, Bool.or_eq_false_iff, List.any_eq_false, List.any_eq_false]
    refine ⟨fun r' hr' => ?_, fun x hx heq => ?_⟩
    · have hmisses := List.all_eq_true.mp (List.all_eq_true.mp hruns r hr) r' hr'
      rw [CaseRun.covers_image (hletters r hr) hmisses hn]
      exact Bool.false_ne_true
    · have havoids := List.all_eq_true.mp (List.all_eq_true.mp hspecial r hr) x hx
      have hnumber : x.1 = (r.image n).toNat := eq_of_beq heq
      exact CaseRun.image_not_between (hletters r hr) havoids hn ⟨hnumber.le, hnumber.ge⟩

/-- The images of an exception are settled. -/
theorem isSettled_of_mem_upperSpecial :
    ∀ x ∈ upperSpecial, x.2 ≠ [] ∧ ∀ n ∈ x.2, IsSettled n := by decide +kernel

/-- What has no entry in the tables is its own upper case, unless it is a small letter. -/
theorem upperChar_of_not_isLedOn {c : Char} (h : isLedOn c.toNat = false)
    (hcapital : 0x7A < c.toNat ∨ c.toNat ≤ 0x60) : upperChar c = [c] := by
  unfold upperChar
  split
  · have hother : ¬ (c.val ≥ 'a'.val ∧ c.val ≤ 'z'.val) := by
      rintro ⟨hlow, hhigh⟩
      have hlow' : 0x61 ≤ c.toNat := hlow
      have hhigh' : c.toNat ≤ 0x7A := hhigh
      omega
    have hsame : c.toUpper = c := dif_neg hother
    rw [hsame]
  · rw [isLedOn, Bool.or_eq_false_iff, List.any_eq_false, List.any_eq_false] at h
    rcases mapByTable_cases upperRuns upperSpecial c with ⟨x, hx, hn, -⟩ | ⟨r, hr, hn, -⟩ | hmap
    · exact absurd (beq_iff_eq.mpr hn) (h.2 x hx)
    · exact absurd hn (h.1 r hr)
    · exact hmap

/-! ## Characters -/

variable {c d m : Char}

/-- A character is its own upper case, or its images are settled. -/
theorem upperChar_cases (c : Char) :
    upperChar c = [c] ∨ upperChar c ≠ [] ∧ ∀ d ∈ upperChar c, IsSettled d.toNat := by
  by_cases hlow : c.toNat < 0x80
  · -- below U+0080 there are few enough to go through
    have hall : ∀ n < 0x80, upperChar (Char.ofNat n) = [Char.ofNat n] ∨
        upperChar (Char.ofNat n) ≠ [] ∧
          ((upperChar (Char.ofNat n)).all fun d => IsSettled d.toNat) = true := by
      decide +kernel
    simpa only [Char.ofNat_toNat, List.all_eq_true, decide_eq_true_iff] using hall c.toNat hlow
  · rw [upperChar, if_neg hlow]
    rcases mapByTable_cases upperRuns upperSpecial c with ⟨x, hx, -, hmap⟩ | ⟨r, hr, hn, hmap⟩ | hmap
    · obtain ⟨hne, hsettled⟩ := isSettled_of_mem_upperSpecial x hx
      refine .inr ⟨?_, fun d hd => ?_⟩
      · rw [hmap]
        exact mt List.map_eq_nil_iff.mp hne
      · rw [hmap] at hd
        obtain ⟨n, hn, rfl⟩ := List.mem_map.mp hd
        have hnumber : (Char.ofNat n).toNat = n := by
          rw [Char.ofNat, dif_pos (hsettled n hn).valid]
          rfl
        rw [hnumber]
        exact hsettled n hn
    · refine .inr ⟨by rw [hmap]; exact List.cons_ne_nil _ _, fun d hd => ?_⟩
      rw [hmap] at hd
      rw [List.mem_singleton.mp hd]
      exact isSettled_image hr hn
    · exact .inl hmap

/-- An upper case is its own upper case. -/
theorem upperChar_of_mem_upperChar (h : d ∈ upperChar c) : upperChar d = [d] := by
  rcases upperChar_cases c with hself | ⟨-, hsettled⟩
  · rw [hself, List.mem_singleton] at h
    rw [h]
    exact hself
  · have hd := hsettled d h
    exact upperChar_of_not_isLedOn hd.notLedOn (by have := hd.capital; omega)

/-- No character becomes nothing. -/
theorem upperChar_ne_nil (c : Char) : upperChar c ≠ [] := by
  rcases upperChar_cases c with hself | ⟨hne, -⟩
  · rw [hself]
    exact List.cons_ne_nil _ _
  · exact hne

/-- A plain character is its own upper case. -/
theorem upperChar_of_isPlain (h : IsPlain m) : upperChar m = [m] := by
  have hruns : ∀ r ∈ upperRuns, ∀ x ∈ plainRanges, r.last < x.1 ∨ x.2 < r.first := by
    decide +kernel
  have hspecial : ∀ x ∈ upperSpecial, inRanges plainRanges x.1 = false := by decide +kernel
  have hsmall : ∀ x ∈ plainRanges, 0x7A < x.1 ∨ x.2 ≤ 0x60 := by decide
  obtain ⟨x, hx, hin⟩ := inRanges_iff.mp h
  refine upperChar_of_not_isLedOn ?_ (by have := hsmall x hx; omega)
  rw [isLedOn, Bool.or_eq_false_iff, List.any_eq_false, List.any_eq_false]
  refine ⟨fun r hr hcovers => ?_, fun y hy heq => ?_⟩
  · obtain ⟨hfirst, hlast, -⟩ := CaseRun.covers_iff.mp hcovers
    have := hruns r hr x hx
    omega
  · rw [IsPlain, ← eq_of_beq heq, hspecial y hy] at h
    cases h

/-- A plain character is in the upper case of itself and of no other character. -/
theorem mem_upperChar_iff (h : IsPlain m) : m ∈ upperChar c ↔ c = m := by
  constructor
  · intro hmem
    rcases upperChar_cases c with hself | ⟨-, hsettled⟩
    · rw [hself, List.mem_singleton] at hmem
      exact hmem.symm
    · have hplain := (hsettled m hmem).notPlain
      rw [h] at hplain
      cases hplain
  · rintro rfl
    rw [upperChar_of_isPlain h]
    exact List.mem_singleton_self _

/-- Upper case makes no blank and takes none away. -/
theorem isBlank_of_mem_upperChar (h : d ∈ upperChar c) : isBlank d = isBlank c := by
  cases hc : isBlank c with
  | true =>
    rw [upperChar_of_isPlain (isPlain_of_isBlank hc), List.mem_singleton] at h
    rw [h, hc]
  | false =>
    cases hd : isBlank d with
    | false => rfl
    | true =>
      rw [(mem_upperChar_iff (isPlain_of_isBlank hd)).mp h, hd] at hc
      cases hc

/-! ## Texts -/

theorem upperChars_append (cs ds : List Char) :
    upperChars (cs ++ ds) = upperChars cs ++ upperChars ds := List.flatMap_append

theorem upperChars_cons (h : IsPlain c) (cs : List Char) :
    upperChars (c :: cs) = c :: upperChars cs := by
  rw [upperChars, List.flatMap_cons, upperChar_of_isPlain h]
  rfl

/-- A text stays if each of its characters does. -/
theorem upperChars_of_forall {cs : List Char} (h : ∀ c ∈ cs, upperChar c = [c]) :
    upperChars cs = cs := by
  rw [upperChars, List.flatMap_congr h]
  exact List.flatMap_singleton' cs

theorem upperChar_of_mem_upperChars {cs : List Char} (h : d ∈ upperChars cs) :
    upperChar d = [d] := by
  obtain ⟨c, -, hc⟩ := List.mem_flatMap.mp h
  exact upperChar_of_mem_upperChar hc

/-- **Upper case once is enough.** -/
theorem upperChars_upperChars (cs : List Char) : upperChars (upperChars cs) = upperChars cs :=
  upperChars_of_forall fun _ => upperChar_of_mem_upperChars

/-- Blanks have no case. -/
theorem upperChars_of_isBlank {cs : List Char} (h : ∀ c ∈ cs, isBlank c = true) :
    upperChars cs = cs :=
  upperChars_of_forall fun c hc => upperChar_of_isPlain (isPlain_of_isBlank (h c hc))

/-- A word in upper case is one word. -/
theorem isWord_upperChars {w : List Char} (h : IsWord w) : IsWord (upperChars w) := by
  refine ⟨fun hnil => ?_, fun d hd => ?_⟩
  · obtain ⟨c, w, rfl⟩ := List.exists_cons_of_ne_nil h.1
    exact upperChar_ne_nil c (List.flatMap_eq_nil_iff.mp hnil c (List.mem_cons_self ..))
  · obtain ⟨c, hc, hd⟩ := List.mem_flatMap.mp hd
    rw [isBlank_of_mem_upperChar hd, h.2 c hc]

/-- The words of a text in upper case are its words in upper case. -/
theorem words_upperChars (cs : List Char) : words (upperChars cs) = (words cs).map upperChars := by
  generalize hws : words cs = ws
  induction ws generalizing cs with
  | nil =>
    have hblank : ∀ c ∈ cs, isBlank c = true := fun c hc => by
      by_contra h
      exact words_ne_nil hc (Bool.eq_false_iff.mpr h) hws
    rw [upperChars_of_isBlank hblank]
    exact hws
  -- the first word is cut off, with the blanks in front of it, and its end is a blank in upper
  -- case too
  | cons w ws ih =>
    obtain ⟨front, back, rfl, hfront, hw, hback, hnext⟩ := exists_of_words_eq_cons hws
    rw [upperChars_append, upperChars_append, upperChars_of_isBlank hfront,
      words_append_of_blank hfront, List.map_cons, ← ih back hback]
    refine words_append_of_isWord (isWord_upperChars hw) ?_
    rcases hnext with rfl | ⟨b, rest, rfl, hb⟩
    · exact .inl rfl
    · exact .inr ⟨b, upperChars rest, upperChars_cons (isPlain_of_isBlank hb) rest, hb⟩

end CatalogDdl.Text
