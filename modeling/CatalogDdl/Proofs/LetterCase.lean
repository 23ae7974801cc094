import CatalogDdl.ColumnType.Name
import CatalogDdl.Ddl.Identifier
import CatalogDdl.Proofs.Words

/-!
# The case of the letters A to Z

The dictionary writes the same name in several ways that differ in the case of letters,
and they all mean the same. Putting the letters A to Z into lower case first, and
nothing else, is therefore no loss: blanks are where they were, a text has the same
words, and its upper case and its lower case are the same. This needs an argument in
one place only. Whether a capital sigma ends a word depends on its neighbours, but a
letter is a neighbour with a case, whichever case that is.

- `foldLetters`: a text with the letters A to Z in lower case. Two texts are equal up to
  the case of these letters iff it makes them equal, `equalsIgnoringCase_iff`.
- `apply_toLower`: what does not tell A from a, and so on to Z, does not see the difference.
- `trim_foldLetters`, `words_lowerAscii`: it can be done before or after taking a text apart.
- `upper_foldLetters`, `lower_foldLetters`: the case mappings do it anyway.
- `TypeName.normalize_foldLetters`, `quoteName_foldLetters`, `quoteNames_foldLetters`: so
  do the forms in which types are compared and names are written.
-/

namespace CatalogDdl

namespace Text

/-- A text with the letters A to Z in lower case and all else as it is. -/
def foldLetters (s : String) : String := String.ofList (lowerAscii s.toList)

/-! ## Characters -/

/-- A capital from A to Z by its number. -/
theorem exists_of_isUpper {c : Char} (h : c.isUpper = true) :
    ∃ n < 26, c = Char.ofNat (65 + n) := by
  have hrange : 65 ≤ c.toNat ∧ c.toNat ≤ 90 := of_decide_eq_true h
  refine ⟨c.toNat - 65, by omega, ?_⟩
  rw [Nat.add_sub_of_le hrange.1, Char.ofNat_toNat]

/-- What does not tell the capitals from the small letters does not see whether they were
put into lower case. -/
theorem apply_toLower {α : Sort*} {f : Char → α}
    (hf : ∀ n < 26, f (Char.ofNat (65 + n)) = f (Char.ofNat (97 + n))) (c : Char) :
    f c.toLower = f c := by
  have hsmall : ∀ n < 26, (Char.ofNat (65 + n)).toLower = Char.ofNat (97 + n) := by decide
  -- a capital is one of 26, and every other character is its own small letter
  cases hc : c.isUpper with
  | true =>
    obtain ⟨n, hn, rfl⟩ := exists_of_isUpper hc
    rw [hsmall n hn, hf n hn]
  | false =>
    have hother : ¬ (c.val ≥ 'A'.val ∧ c.val ≤ 'Z'.val) := of_decide_eq_false hc
    have hsame : c.toLower = c := dif_neg hother
    rw [hsame]

theorem toLower_toLower (c : Char) : c.toLower.toLower = c.toLower :=
  apply_toLower (by decide) c

/-- No letter is a blank, in either case. -/
theorem isBlank_toLower (c : Char) : isBlank c.toLower = isBlank c :=
  apply_toLower (by decide) c

theorem upperChar_toLower (c : Char) : upperChar c.toLower = upperChar c :=
  apply_toLower (by decide) c

theorem lowerChar_toLower (c : Char) : lowerChar c.toLower = lowerChar c :=
  apply_toLower (by decide) c

/-! ## Texts -/

theorem lowerAscii_cons (c : Char) (cs : List Char) :
    lowerAscii (c :: cs) = c.toLower :: lowerAscii cs := rfl

/-- Small letters stay small. -/
theorem lowerAscii_lowerAscii (cs : List Char) : lowerAscii (lowerAscii cs) = lowerAscii cs := by
  unfold lowerAscii
  rw [List.map_map]
  exact List.map_congr_left fun c _ => toLower_toLower c

theorem dropBlanks_lowerAscii (cs : List Char) :
    dropBlanks (lowerAscii cs) = lowerAscii (dropBlanks cs) := by
  have hblank : isBlank ∘ Char.toLower = isBlank := funext isBlank_toLower
  unfold dropBlanks lowerAscii
  rw [List.dropWhile_map, hblank]

/-- Blanks at both ends are taken away before or after. -/
theorem trimChars_lowerAscii (cs : List Char) :
    trimChars (lowerAscii cs) = lowerAscii (trimChars cs) := by
  have hreverse : ∀ ds : List Char, (lowerAscii ds).reverse = lowerAscii ds.reverse :=
    fun ds => (List.map_reverse ..).symm
  unfold trimChars
  rw [dropBlanks_lowerAscii, hreverse, dropBlanks_lowerAscii, hreverse]

/-- The words of a text with small letters are its words with small letters. -/
theorem words_lowerAscii (cs : List Char) : words (lowerAscii cs) = (words cs).map lowerAscii := by
  induction cs with
  | nil => rfl
  | cons c cs ih =>
    rw [lowerAscii_cons]
    -- whether a word ends here is a matter of the next character, which is as blank as before
    cases hc : isBlank c with
    | true => rw [words_blank ((isBlank_toLower c).trans hc), words_blank hc, ih]
    | false =>
      have hc' : isBlank c.toLower = false := (isBlank_toLower c).trans hc
      cases cs with
      | nil =>
        rw [words_last hc (.inl rfl)]
        exact words_last hc' (.inl rfl)
      | cons d cs =>
        cases hd : isBlank d with
        | true =>
          have hd' : isBlank d.toLower = true := (isBlank_toLower d).trans hd
          have hends : words (c.toLower :: lowerAscii (d :: cs)) =
              [c.toLower] :: words (lowerAscii (d :: cs)) :=
            words_last hc' (.inr ⟨d.toLower, lowerAscii cs, rfl, hd'⟩)
          rw [hends, ih, words_last hc (.inr ⟨d, cs, rfl, hd⟩)]
          rfl
        | false =>
          -- the character goes to the same word in both texts
          obtain ⟨w, ws, hws⟩ := exists_words_eq_cons hd cs
          rw [hws] at ih
          rw [words_cons hc hd hws]
          exact words_cons hc' ((isBlank_toLower d).trans hd) ih

/-- Words are put together before or after, if there are no capitals between them. -/
theorem joinCharsWith_lowerAscii {sep : List Char} (hsep : lowerAscii sep = sep)
    (ws : List (List Char)) :
    joinCharsWith sep (ws.map lowerAscii) = lowerAscii (joinCharsWith sep ws) := by
  have happend : ∀ cs ds : List Char, lowerAscii (cs ++ ds) = lowerAscii cs ++ lowerAscii ds :=
    fun _ _ => List.map_append
  fun_induction joinCharsWith sep ws with
  | case1 => rfl
  | case2 w => rfl
  | case3 w v rest ih =>
    rw [happend, happend, hsep, ← ih]
    rfl

/-- The upper case of a text is that of the text with small letters. -/
theorem upperChars_lowerAscii (cs : List Char) : upperChars (lowerAscii cs) = upperChars cs := by
  unfold upperChars lowerAscii
  rw [List.flatMap_map]
  exact congrArg (cs.flatMap ·) (funext upperChar_toLower)

/-- A neighbour with a case stays one. -/
theorem meetsCased_lowerAscii (cs : List Char) : meetsCased (lowerAscii cs) = meetsCased cs := by
  have hignorable : ∀ c : Char, inRanges caseIgnorableRanges c.toLower.toNat =
      inRanges caseIgnorableRanges c.toNat :=
    apply_toLower (f := fun c => inRanges caseIgnorableRanges c.toNat) (by decide +kernel)
  have hcased : ∀ c : Char, inRanges casedRanges c.toLower.toNat = inRanges casedRanges c.toNat :=
    apply_toLower (f := fun c => inRanges casedRanges c.toNat) (by decide +kernel)
  induction cs with
  | nil => rfl
  | cons c cs ih =>
    unfold meetsCased at ih ⊢
    rw [lowerAscii_cons, List.dropWhile_cons, List.dropWhile_cons, hignorable]
    -- a character without a case of its own is passed over, in either text
    cases inRanges caseIgnorableRanges c.toNat with
    | true => exact ih
    | false => exact hcased c

/-- The lower case of a text, and what it says of a sigma, is that of the text with small letters. -/
theorem lowerAfter_lowerAscii (before cs : List Char) :
    lowerAfter (lowerAscii before) (lowerAscii cs) = lowerAfter before cs := by
  -- what stands before grows with every step, so it is any text
  induction cs generalizing before with
  | nil => rfl
  | cons c cs ih =>
    have hsigma : (c.toLower = 'Σ') = (c = 'Σ') :=
      apply_toLower (f := fun c => c = 'Σ') (by decide) c
    have hrest : lowerAfter (c.toLower :: lowerAscii before) (lowerAscii cs) =
        lowerAfter (c :: before) cs := ih (c :: before)
    rw [lowerAscii_cons, lowerAfter, lowerAfter, hrest]
    simp only [hsigma, meetsCased_lowerAscii, lowerChar_toLower]

theorem lowerChars_lowerAscii (cs : List Char) : lowerChars (lowerAscii cs) = lowerChars cs :=
  lowerAfter_lowerAscii [] cs

/-! ## Strings -/

@[simp] theorem toList_foldLetters (s : String) : (foldLetters s).toList = lowerAscii s.toList :=
  String.toList_ofList ..

/-- Texts are equal up to the case of letters iff they are equal with small letters. -/
theorem equalsIgnoringCase_iff {a b : String} :
    equalsIgnoringCase a b = true ↔ foldLetters a = foldLetters b := by
  unfold equalsIgnoringCase
  rw [beq_iff_eq, ← toList_foldLetters, ← toList_foldLetters, String.toList_inj]

@[simp] theorem equalsIgnoringCase_foldLetters (a b : String) :
    equalsIgnoringCase (foldLetters a) (foldLetters b) = equalsIgnoringCase a b := by
  unfold equalsIgnoringCase
  simp only [toList_foldLetters, lowerAscii_lowerAscii]

/-- The case of letters does not matter to blanks at the ends of a text, nor to its upper and
lower case. -/
@[simp] theorem trim_foldLetters (s : String) : trim (foldLetters s) = foldLetters (trim s) := by
  rw [trim, toList_foldLetters, trimChars_lowerAscii, foldLetters, trim, String.toList_ofList]

@[simp] theorem isBlankText_foldLetters (s : String) :
    isBlankText (foldLetters s) = isBlankText s := by
  have hblank : isBlank ∘ Char.toLower = isBlank := funext isBlank_toLower
  rw [isBlankText, toList_foldLetters, lowerAscii, List.all_map, hblank]
  rfl

@[simp] theorem upper_foldLetters (s : String) : upper (foldLetters s) = upper s := by
  rw [upper, toList_foldLetters, upperChars_lowerAscii]
  rfl

@[simp] theorem lower_foldLetters (s : String) : lower (foldLetters s) = lower s := by
  rw [lower, toList_foldLetters, lowerChars_lowerAscii]
  rfl

end Text

/-! ## Types and names -/

/-- The normal form of a type name has capitals only. -/
@[simp] theorem TypeName.normalize_foldLetters (s : String) :
    normalize (Text.foldLetters s) = normalize s := by
  unfold normalize normalizeChars
  rw [Text.toList_foldLetters, Text.words_lowerAscii, Text.joinCharsWith_lowerAscii (by decide),
    Text.upperChars_lowerAscii]

namespace Ddl

/-- Names are written in lower case anyway. -/
@[simp] theorem foldName_foldLetters (s : String) : foldName (Text.foldLetters s) = foldName s := by
  unfold foldName
  rw [Text.trim_foldLetters, Text.lower_foldLetters]

@[simp] theorem quoteName_foldLetters (s : String) :
    quoteName (Text.foldLetters s) = quoteName s := by
  unfold quoteName
  rw [foldName_foldLetters]

/-- And so are lists of names. -/
@[simp] theorem quoteNames_foldLetters (names : List String) :
    quoteNames (names.map Text.foldLetters) = quoteNames names := by
  unfold quoteNames
  rw [List.map_map]
  exact congrArg (Text.joinWith ",") (List.map_congr_left fun s _ => quoteName_foldLetters s)

/-- Names that differ in the case of letters are written the same way. -/
theorem foldName_eq_of_equalsIgnoringCase {a b : String}
    (h : Text.equalsIgnoringCase a b = true) : foldName a = foldName b := by
  rw [← foldName_foldLetters a, Text.equalsIgnoringCase_iff.mp h, foldName_foldLetters]

end Ddl

/-- Only letters from A to Z may differ: an umlaut is another character than its capital. -/
example : Text.foldLetters "Größe" = Text.foldLetters "GRößE" ∧
    Text.foldLetters "Größe" ≠ Text.foldLetters "GRÖßE" := by decide +kernel

end CatalogDdl
