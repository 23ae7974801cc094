import CatalogDdl.Text.Numeral
import CatalogDdl.Text.Words

/-!
# Reading texts

What the small readers of texts find, in the words of the standard library.

- `containsChars_iff`: the search for a text inside another one.
- `readDigits?_eq`: the number that decimal digits write.
- `WritesInt64`, `readInt64?_eq_some_iff`: the texts that are integers of 64 bits.
- `mem_toString_cases`, `readInteger?_toString`: what integers are written with, and that they
  are read back.
- `joinWith_empty`: texts put together with nothing between them.
- `splitAt_joinCharsWith`, `joinCharsWith_splitAt`: the pieces of what was put together,
  and what the pieces of a text are put together to; `split_joinWith` for texts.
- `length_splitAt`: how many pieces there are.
- `splitAt_append`, `splitAt_concat`: the pieces of a text and of the same text with
  more after it.
-/

namespace CatalogDdl.Text

/-- A search succeeds iff what it looks for stands somewhere, in one piece. -/
theorem containsChars_iff {needle cs : List Char} :
    containsChars needle cs = true ↔ needle <:+: cs := by
  induction cs with
  | nil => simp [containsChars]
  | cons c cs ih =>
    rw [containsChars, Bool.or_eq_true, List.isPrefixOf_iff_prefix, ih, List.infix_cons_iff]

/-- The characters with a digit value are the decimal digits. -/
theorem isSome_digit? (c : Char) : (digit? c).isSome = c.isDigit := by
  have hlow : decide (48 ≤ c.toNat) = decide (c.val ≥ '0'.val) := decide_eq_decide.mpr Iff.rfl
  have hhigh : decide (c.toNat ≤ 57) = decide (c.val ≤ '9'.val) := decide_eq_decide.mpr Iff.rfl
  unfold digit? Char.isDigit
  rw [hlow, hhigh]
  cases decide (c.val ≥ '0'.val) && decide (c.val ≤ '9'.val) <;> rfl

/-- Decimal digits write a number, after whatever was read before them. -/
theorem readDigits?_eq {cs : List Char} (h : ∀ c ∈ cs, c.isDigit = true) (acc : Nat) :
    readDigits? acc cs = some (Nat.ofDigitChars 10 cs acc) := by
  induction cs generalizing acc with
  | nil => rfl
  | cons c cs ih =>
    have hsome := isSome_digit? c
    rw [h c (List.mem_cons_self ..)] at hsome
    have hdigit : digit? c = some (c.toNat - 48) := by
      unfold digit? at hsome ⊢
      split at hsome
      · rename_i hrange
        exact if_pos hrange
      · cases hsome
    rw [readDigits?, hdigit, Nat.ofDigitChars_cons]
    exact ih (fun d hd => h d (List.mem_cons_of_mem _ hd)) _

/-- A character that is no digit has no value as one. -/
theorem digit?_eq_none {c : Char} (h : c.isDigit = false) : digit? c = none := by
  rw [← Option.not_isSome_iff_eq_none, isSome_digit?, h]
  exact Bool.false_ne_true

/-- Digits are read as a number, and nothing else is. -/
theorem readDigits?_eq_some_iff {cs : List Char} {acc n : Nat} :
    readDigits? acc cs = some n ↔
      (∀ c ∈ cs, c.isDigit = true) ∧ Nat.ofDigitChars 10 cs acc = n := by
  constructor
  · intro h
    have hdigits : ∀ c ∈ cs, c.isDigit = true := by
      -- the number read so far says nothing about the digits to come
      induction cs generalizing acc with
      | nil => exact nofun
      | cons c cs ih =>
        cases hc : c.isDigit with
        | false =>
          rw [readDigits?, digit?_eq_none hc] at h
          cases h
        | true =>
          obtain ⟨d, -, hrest⟩ := Option.bind_eq_some_iff.mp h
          exact List.forall_mem_cons.mpr ⟨hc, ih hrest⟩
    rw [readDigits?_eq hdigits] at h
    exact ⟨hdigits, Option.some.inj h⟩
  · rintro ⟨hdigits, rfl⟩
    exact readDigits?_eq hdigits acc

/-- Texts that write an integer: one or more decimal digits, with or without a sign. -/
inductive WritesInteger : List Char → Int → Prop
  | unsigned {ds : List Char} (hne : ds ≠ []) (h : ∀ d ∈ ds, d.isDigit = true) :
      WritesInteger ds (Nat.ofDigitChars 10 ds 0)
  | plus {ds : List Char} (hne : ds ≠ []) (h : ∀ d ∈ ds, d.isDigit = true) :
      WritesInteger ('+' :: ds) (Nat.ofDigitChars 10 ds 0)
  | minus {ds : List Char} (hne : ds ≠ []) (h : ∀ d ∈ ds, d.isDigit = true) :
      WritesInteger ('-' :: ds) (-(Nat.ofDigitChars 10 ds 0 : Int))

/-- Texts that write an integer of 64 bits with a sign. -/
def WritesInt64 (s : String) (i : Int) : Prop :=
  WritesInteger s.toList i ∧ -9223372036854775808 ≤ i ∧ i ≤ 9223372036854775807

/-- A number is read from one digit or more. -/
theorem readNat?_eq_some_iff {cs : List Char} {n : Nat} :
    readNat? cs = some n ↔
      cs ≠ [] ∧ (∀ c ∈ cs, c.isDigit = true) ∧ Nat.ofDigitChars 10 cs 0 = n := by
  cases cs with
  | nil => exact ⟨nofun, fun h => absurd rfl h.1⟩
  | cons c cs =>
    rw [readNat?, readDigits?_eq_some_iff]
    exact ⟨fun h => ⟨List.cons_ne_nil _ _, h⟩, fun h => h.2⟩

/-- A natural number that is read as an integer, and what is made of it. -/
theorem map_cast_eq_some_iff {o : Option Nat} {f : Int → Int} {i : Int} :
    (o >>= fun n => pure (n : Int)).map f = some i ↔ ∃ n : Nat, o = some n ∧ f n = i := by
  cases o with
  | none => exact ⟨nofun, fun ⟨_, h, _⟩ => nomatch h⟩
  | some n =>
    constructor
    · intro h
      exact ⟨n, rfl, Option.some.inj h⟩
    · rintro ⟨_, hn, rfl⟩
      cases hn
      rfl

/-- The reader of integers accepts what writes one. -/
theorem readInteger?_eq_some_iff {cs : List Char} {i : Int} :
    readInteger? cs = some i ↔ WritesInteger cs i := by
  constructor
  · intro h
    unfold readInteger? at h
    split at h <;> obtain ⟨n, hn, rfl⟩ := map_cast_eq_some_iff.mp h <;>
      obtain ⟨hne, hdigits, rfl⟩ := readNat?_eq_some_iff.mp hn
    · exact .minus hne hdigits
    · exact .plus hne hdigits
    · exact .unsigned hne hdigits
  · intro h
    cases h with
    | minus hne hdigits =>
      exact map_cast_eq_some_iff.mpr ⟨_, readNat?_eq_some_iff.mpr ⟨hne, hdigits, rfl⟩, rfl⟩
    | plus hne hdigits =>
      exact map_cast_eq_some_iff.mpr ⟨_, readNat?_eq_some_iff.mpr ⟨hne, hdigits, rfl⟩, rfl⟩
    | unsigned hne hdigits =>
      unfold readInteger?
      split
      · -- digits alone begin with neither sign
        exact absurd (hdigits '-' (List.mem_cons_self ..)) (by decide)
      · exact absurd (hdigits '+' (List.mem_cons_self ..)) (by decide)
      · exact map_cast_eq_some_iff.mpr ⟨_, readNat?_eq_some_iff.mpr ⟨hne, hdigits, rfl⟩, rfl⟩

/-- The reader of integers of 64 bits accepts what writes one. -/
theorem readInt64?_eq_some_iff {s : String} {i : Int} :
    readInt64? s = some i ↔ WritesInt64 s i := by
  rw [readInt64?, Option.filter_eq_some_iff, readInteger?_eq_some_iff, WritesInt64, fitsInt64,
    signedBound64, Bool.and_eq_true, decide_eq_true_eq, decide_eq_true_eq]
  exact and_congr_right fun _ => and_congr_right fun _ => Int.lt_iff_add_one_le.trans (by omega)

/-- An integer is written as the digits of its absolute value, after a sign if it is negative. -/
theorem toList_toString (n : Int) :
    (toString n).toList = (if n < 0 then ['-'] else []) ++ Nat.toDigits 10 n.natAbs := by
  cases n with
  | ofNat m =>
    have hnonneg : ¬ Int.ofNat m < 0 := Int.not_lt.mpr (Int.natCast_nonneg m)
    rw [if_neg hnonneg]
    exact Nat.toList_repr
  | negSucc m =>
    rw [if_pos (Int.negSucc_lt_zero m)]
    show ("-" ++ (m + 1).repr).toList = _
    rw [String.toList_append, Nat.toList_repr]
    rfl

theorem isDigit_of_mem_toDigits {n : Nat} {c : Char} (h : c ∈ Nat.toDigits 10 n) :
    c.isDigit = true := Nat.isDigit_of_mem_toDigits (by decide) (by decide) h

/-- Integers are written with digits and a sign. -/
theorem mem_toString_cases {n : Int} {c : Char} (h : c ∈ (toString n).toList) :
    c.isDigit = true ∨ c = '-' := by
  rw [toList_toString] at h
  rcases List.mem_append.mp h with h | h
  · split at h
    · exact .inr (List.mem_singleton.mp h)
    · cases h
  · exact .inl (isDigit_of_mem_toDigits h)

/-- An integer is read back from its text. -/
theorem readInteger?_toString (n : Int) : readInteger? (toString n).toList = some n := by
  have hne : Nat.toDigits 10 n.natAbs ≠ [] := Nat.toDigits_ne_nil
  have hdigits : ∀ d ∈ Nat.toDigits 10 n.natAbs, d.isDigit = true :=
    fun d => isDigit_of_mem_toDigits
  have hvalue : Nat.ofDigitChars 10 (Nat.toDigits 10 n.natAbs) 0 = n.natAbs :=
    Nat.ofDigitChars_ten_toDigits
  rw [readInteger?_eq_some_iff, toList_toString]
  by_cases hneg : n < 0
  · have hminus := WritesInteger.minus hne hdigits
    rw [hvalue, show -(n.natAbs : Int) = n by omega] at hminus
    rw [if_pos hneg]
    exact hminus
  · have hunsigned := WritesInteger.unsigned hne hdigits
    rw [hvalue, show (n.natAbs : Int) = n by omega] at hunsigned
    rw [if_neg hneg]
    exact hunsigned

/-- Different integers are written differently. -/
theorem toString_inj {m n : Int} : toString m = toString n ↔ m = n := by
  constructor
  · intro h
    have hread := readInteger?_toString m
    rw [h, readInteger?_toString] at hread
    exact (Option.some.inj hread).symm
  · rintro rfl
    rfl

/-- With nothing between them, texts are put together by concatenation. -/
theorem joinWith_empty (ss : List String) : joinWith "" ss = String.join ss := by
  fun_induction joinWith "" ss with
  | case1 => rfl
  | case2 s => rw [String.join_cons, String.join_nil, String.append_empty]
  | case3 s t rest ih => rw [ih, String.append_empty, String.join_cons (s := s)]

/-- A text without the separator is a single piece. -/
theorem splitAt_of_not_mem {sep : Char} {cs : List Char} (h : sep ∉ cs) :
    splitAt sep cs = [cs] := by
  induction cs with
  | nil => rfl
  | cons c cs ih =>
    obtain ⟨hc, hcs⟩ := not_or.mp (mt List.mem_cons.mpr h)
    rw [splitAt, if_neg (Ne.symm hc), ih hcs]

/-- A text up to its first separator is its first piece. -/
theorem splitAt_append_cons {sep : Char} {cs : List Char} (h : sep ∉ cs) (ds : List Char) :
    splitAt sep (cs ++ sep :: ds) = cs :: splitAt sep ds := by
  induction cs with
  | nil => exact if_pos rfl
  | cons c cs ih =>
    obtain ⟨hc, hcs⟩ := not_or.mp (mt List.mem_cons.mpr h)
    rw [List.cons_append, splitAt, if_neg (Ne.symm hc), ih hcs]

/-- Texts without a separator in them are the pieces of what they are put together to. -/
theorem splitAt_joinCharsWith {sep : Char} {ps : List (List Char)} (hne : ps ≠ [])
    (h : ∀ p ∈ ps, sep ∉ p) : splitAt sep (joinCharsWith [sep] ps) = ps := by
  fun_induction joinCharsWith [sep] ps with
  | case1 => exact absurd rfl hne
  | case2 p => exact splitAt_of_not_mem (h p (List.mem_singleton_self p))
  | case3 p q rest ih =>
    obtain ⟨hp, hrest⟩ := List.forall_mem_cons.mp h
    rw [List.append_assoc, List.singleton_append, splitAt_append_cons hp,
      ih (List.cons_ne_nil q rest) hrest]

/-- The pieces of a text have no separator in them, and they are put together to the text. -/
theorem joinCharsWith_splitAt (sep : Char) (cs : List Char) :
    splitAt sep cs ≠ [] ∧ (∀ p ∈ splitAt sep cs, sep ∉ p) ∧
      joinCharsWith [sep] (splitAt sep cs) = cs := by
  induction cs with
  | nil => exact ⟨List.cons_ne_nil _ _, by simp [splitAt], rfl⟩
  | cons c cs ih =>
    obtain ⟨hne, hapart, hjoined⟩ := ih
    obtain ⟨p, ps, hps⟩ := List.exists_cons_of_ne_nil hne
    rw [hps] at hapart hjoined
    obtain ⟨hp, hrest⟩ := List.forall_mem_cons.mp hapart
    rw [splitAt, hps]
    by_cases hc : c = sep
    · -- a separator starts a new piece, and any other character goes to the first one
      rw [if_pos hc, joinCharsWith, hjoined, hc]
      exact ⟨List.cons_ne_nil _ _, List.forall_mem_cons.mpr ⟨List.not_mem_nil, hapart⟩, rfl⟩
    · rw [if_neg hc]
      refine ⟨List.cons_ne_nil _ _, List.forall_mem_cons.mpr ⟨?_, hrest⟩, ?_⟩
      · exact fun hmem => (List.mem_cons.mp hmem).elim (Ne.symm hc) hp
      · cases ps with
        | nil => exact congrArg (c :: ·) hjoined
        | cons q qs => exact congrArg (c :: ·) hjoined

/-- A text has one piece more than it has separators. -/
theorem length_splitAt (sep : Char) (cs : List Char) :
    (splitAt sep cs).length = cs.count sep + 1 := by
  induction cs with
  | nil => rfl
  | cons c cs ih =>
    obtain ⟨p, ps, hps⟩ := List.exists_cons_of_ne_nil (joinCharsWith_splitAt sep cs).1
    rw [hps] at ih
    rw [splitAt, hps]
    by_cases hc : c = sep
    · rw [if_pos hc, hc, List.count_cons_self, List.length_cons, ih]
    · rw [if_neg hc, List.count_cons_of_ne hc]
      exact ih

theorem toList_joinWith (sep : String) (ss : List String) :
    (joinWith sep ss).toList = joinCharsWith sep.toList (ss.map String.toList) := by
  fun_induction joinWith sep ss with
  | case1 => rfl
  | case2 s => rfl
  | case3 s t rest ih =>
    rw [String.toList_append, String.toList_append, ih]
    rfl

/-- Texts without a separator in them are read back from what they are put together to. -/
theorem split_joinWith {sep : Char} {separator : String} (hsep : separator.toList = [sep])
    {ss : List String} (hne : ss ≠ []) (h : ∀ s ∈ ss, sep ∉ s.toList) :
    split sep (joinWith separator ss) = ss := by
  have hne' : ss.map String.toList ≠ [] := mt List.map_eq_nil_iff.mp hne
  have hapart : ∀ cs ∈ ss.map String.toList, sep ∉ cs := List.forall_mem_map.mpr h
  rw [split, toList_joinWith, hsep, splitAt_joinCharsWith hne' hapart, List.map_map]
  simp

/-- What follows a text without a separator in it belongs to the last piece. -/
theorem splitAt_append {sep : Char} {ds : List Char} (h : sep ∉ ds) (cs : List Char) :
    ∃ front stem, splitAt sep cs = front ++ [stem] ∧
      splitAt sep (cs ++ ds) = front ++ [stem ++ ds] := by
  induction cs with
  | nil => exact ⟨[], [], rfl, splitAt_of_not_mem h⟩
  | cons c cs ih =>
    obtain ⟨front, stem, hcs, happend⟩ := ih
    rw [List.cons_append, splitAt, splitAt, hcs, happend]
    by_cases hc : c = sep
    · exact ⟨[] :: front, stem, if_pos hc, if_pos hc⟩
    · -- the character goes to the first piece, which may be the last one as well
      rw [if_neg hc, if_neg hc]
      cases front with
      | nil => exact ⟨[], c :: stem, rfl, rfl⟩
      | cons p ps => exact ⟨(c :: p) :: ps, stem, rfl, rfl⟩

/-- A separator at the end is followed by an empty piece. -/
theorem splitAt_concat (sep : Char) (cs : List Char) :
    splitAt sep (cs ++ [sep]) = splitAt sep cs ++ [[]] := by
  induction cs with
  | nil => simp [splitAt]
  | cons c cs ih =>
    rw [List.cons_append, splitAt, splitAt, ih]
    by_cases hc : c = sep
    · rw [if_pos hc, if_pos hc]
      rfl
    · rw [if_neg hc, if_neg hc]
      obtain ⟨front, stem, hcs, -⟩ := splitAt_append (List.not_mem_nil (a := sep)) cs
      rw [hcs]
      cases front <;> rfl

end CatalogDdl.Text
