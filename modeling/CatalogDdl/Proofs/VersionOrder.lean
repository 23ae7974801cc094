import CatalogDdl.Proofs.Text
import CatalogDdl.Proofs.Words
import CatalogDdl.Ddl.ServerVersion
import Mathlib.Data.List.Induction
import Mathlib.Data.List.TakeWhile

/-!
# The order of versions

A version is compared with another one component by component. Components that
are missing count as zero, so that `8.0` and `8.0.0` are the same version: each
version stands for a sequence of components without end, and the first
difference between two such sequences decides.

- `continued`: the components of a list, continued with zeros.
- `Above`: the order of sequences.
- `dottedComponent`, `versionComponent`: the component in a place of a dotted version,
  and of a version text up to its first hyphen, read straight from the text.
- `compareComponents_eq_gt_iff`: the order of lists without zeros at the end is
  the order of the sequences they stand for. Zeros at the end would spoil it,
  since a list comes before its extensions.
- `compareVersions_spec`: the order of version texts, a total preorder in which
  zeros at the end count for nothing.
- `ServerVersion.enforcesChecks_iff`: a server enforces checks iff its version is
  above 8.0.15.
-/

namespace CatalogDdl.Ddl

/-- The components of a list, continued with zeros without end. -/
def continued (ns : List Nat) (i : Nat) : Nat := ns.getD i 0

/-- A sequence of components is above another one: the first difference between
them is in its favour. -/
def Above (f g : Nat → Nat) : Prop := ∃ i, (∀ j < i, f j = g j) ∧ g i < f i

/-! ## Lists without zeros at the end -/

theorem dropTrailingZeros_concat (ns : List Nat) (n : Nat) :
    dropTrailingZeros (ns ++ [n]) = if n = 0 then dropTrailingZeros ns else ns ++ [n] := by
  unfold dropTrailingZeros
  rw [List.reverse_append, List.reverse_singleton, List.singleton_append, List.dropWhile_cons]
  by_cases h : n = 0
  · simp [h]
  · simp [h]

/-- A zero at the end does not change the sequence. -/
theorem continued_concat_zero (ns : List Nat) : continued (ns ++ [0]) = continued ns := by
  funext i
  unfold continued
  rw [List.getD_eq_getElem?_getD, List.getD_eq_getElem?_getD]
  by_cases hi : i < ns.length
  · rw [List.getElem?_append_left hi]
  · have hle : ns.length ≤ i := Nat.le_of_not_lt hi
    rw [List.getElem?_append_right hle, List.getElem?_eq_none hle]
    cases i - ns.length <;> rfl

/-- The zeros at the end of a list do not change its sequence. -/
theorem continued_dropTrailingZeros (ns : List Nat) :
    continued (dropTrailingZeros ns) = continued ns := by
  induction ns using List.reverseRecOn with
  | nil => rfl
  | append_singleton ns n ih =>
    rw [dropTrailingZeros_concat]
    by_cases h : n = 0
    · rw [if_pos h, ih, h, continued_concat_zero]
    · rw [if_neg h]

theorem getLast?_dropTrailingZeros (ns : List Nat) : (dropTrailingZeros ns).getLast? ≠ some 0 := by
  induction ns using List.reverseRecOn with
  | nil => decide
  | append_singleton ns n ih =>
    rw [dropTrailingZeros_concat]
    by_cases h : n = 0
    · rw [if_pos h]
      exact ih
    · rw [if_neg h, List.getLast?_concat]
      exact fun hn => h (Option.some.inj hn)

/-! ## The first difference -/

/-- A difference at the start decides for the greater component. -/
theorem above_of_lt {f g : Nat → Nat} (h : g 0 < f 0) : Above f g :=
  ⟨0, fun _ hj => absurd hj (Nat.not_lt_zero _), h⟩

/-- A difference at the start decides against the smaller component. -/
theorem not_above_of_lt {f g : Nat → Nat} (h : f 0 < g 0) : ¬ Above f g := by
  rintro ⟨i, hbefore, hi⟩
  cases i with
  | zero => omega
  | succ i =>
    have := hbefore 0 (Nat.succ_pos i)
    omega

/-- Equal components at the start do not matter. -/
theorem above_cons_iff (n : Nat) (ms ns : List Nat) :
    Above (continued (n :: ms)) (continued (n :: ns)) ↔ Above (continued ms) (continued ns) := by
  constructor
  · rintro ⟨i, hbefore, hi⟩
    cases i with
    | zero => exact absurd hi (Nat.lt_irrefl n)
    | succ i => exact ⟨i, fun j hj => hbefore (j + 1) (Nat.succ_lt_succ hj), hi⟩
  · rintro ⟨i, hbefore, hi⟩
    refine ⟨i + 1, fun j hj => ?_, hi⟩
    cases j with
    | zero => rfl
    | succ j => exact hbefore j (Nat.lt_of_succ_lt_succ hj)

/-- Zeros without end are above nothing. -/
theorem not_above_of_nil (ns : List Nat) : ¬ Above (continued []) (continued ns) := by
  rintro ⟨i, -, hi⟩
  exact Nat.not_lt_zero _ hi

/-- A list that does not end in a zero is above zeros without end. -/
theorem above_nil {m : Nat} {ms : List Nat} (h : (m :: ms).getLast? ≠ some 0) :
    Above (continued (m :: ms)) (continued []) := by
  induction ms generalizing m with
  | nil => exact above_of_lt (Nat.pos_of_ne_zero fun hm => h (hm ▸ rfl))
  | cons n ms ih =>
    rw [List.getLast?_cons_cons] at h
    by_cases hm : m = 0
    · -- a zero at the start is nothing, but then something else comes later
      have hzeros : continued [] = continued [0] := (continued_concat_zero []).symm
      rw [hm, hzeros, above_cons_iff]
      exact ih h
    · exact above_of_lt (Nat.pos_of_ne_zero hm)

/-- **The order of lists is the order of sequences**: for a list without a zero at
its end, coming after another list is being above it, both continued with zeros. -/
theorem compareComponents_eq_gt_iff {ms ns : List Nat} (h : ms.getLast? ≠ some 0) :
    compareComponents ms ns = .gt ↔ Above (continued ms) (continued ns) := by
  fun_induction compareComponents ms ns with
  | case1 => exact iff_of_false nofun (not_above_of_nil [])
  | case2 n ns => exact iff_of_false nofun (not_above_of_nil (n :: ns))
  | case3 m ms => exact iff_of_true rfl (above_nil h)
  | case4 m ms n ns hlt => exact iff_of_false nofun (not_above_of_lt hlt)
  | case5 m ms n ns _ hlt => exact iff_of_true rfl (above_of_lt hlt)
  | case6 m ms n ns hle hge ih =>
    -- the first components agree, so the rest decides on both sides
    have hhead : m = n := Nat.le_antisymm (Nat.le_of_not_lt hge) (Nat.le_of_not_lt hle)
    have htail : ms.getLast? ≠ some 0 := by
      cases ms with
      | nil => decide
      | cons m' ms => rwa [List.getLast?_cons_cons] at h
    rw [ih htail, hhead, above_cons_iff]

/-- Lists are compared as the library compares lists. -/
theorem compareComponents_eq (ms ns : List Nat) :
    compareComponents ms ns = List.compareLex compare ms ns := by
  fun_induction compareComponents ms ns with
  | case1 | case2 | case3 => rfl
  | case4 m ms n ns hlt => rw [List.compareLex_cons_cons, Nat.compare_eq_ite_lt, if_pos hlt]; rfl
  | case5 m ms n ns hle hlt =>
    rw [List.compareLex_cons_cons, Nat.compare_eq_ite_lt, if_neg hle, if_pos hlt]
    rfl
  | case6 m ms n ns hle hge ih =>
    rw [List.compareLex_cons_cons, Nat.compare_eq_ite_lt, if_neg hle, if_neg hge, ih]
    rfl

theorem compareComponents_eq_lt_iff {ms ns : List Nat} :
    compareComponents ms ns = .lt ↔ compareComponents ns ms = .gt := by
  rw [compareComponents_eq, compareComponents_eq]
  exact Std.OrientedCmp.gt_iff_lt.symm

/-- Lists without zeros at the end are the same iff they stand for the same sequence. -/
theorem compareComponents_eq_eq_iff {ms ns : List Nat} (hms : ms.getLast? ≠ some 0)
    (hns : ns.getLast? ≠ some 0) :
    compareComponents ms ns = .eq ↔ continued ms = continued ns := by
  constructor
  · intro h
    rw [compareComponents_eq] at h
    exact congrArg continued (Std.LawfulEqCmp.compare_eq_iff_eq.mp h)
  · intro h
    have hself : ¬ Above (continued ms) (continued ms) := fun ⟨_, _, hi⟩ =>
      Nat.lt_irrefl _ hi
    -- a difference would put one of the two sequences above the other
    cases hcompare : compareComponents ms ns with
    | eq => rfl
    | gt =>
      have habove := (compareComponents_eq_gt_iff hms).mp hcompare
      exact absurd (h ▸ habove) hself
    | lt =>
      have habove := (compareComponents_eq_gt_iff hns).mp (compareComponents_eq_lt_iff.mp hcompare)
      exact absurd (h ▸ habove) hself

/-! ## The components of a version text -/

/-- The number that the digits at the front of a piece write; zero if there are
none, or if the number does not fit 64 bits. -/
def pieceValue (piece : List Char) : Nat :=
  let n := Nat.ofDigitChars 10 (piece.takeWhile Char.isDigit) 0
  if n < Text.bound64 then n else 0

/-- The component of a dotted version in a place; zero if it has none there. -/
def dottedComponent (s : String) (i : Nat) : Nat :=
  pieceValue ((Text.splitAt '.' (Text.trimChars s.toList)).getD i [])

/-- What stands in front of the first hyphen of a version text. -/
def beforeHyphen (raw : String) : String := String.ofList (raw.toList.takeWhile (· != '-'))

/-- What stands in a place of the dotted version in front of the first hyphen. -/
def versionPiece (raw : String) (i : Nat) : List Char :=
  (Text.splitAt '.' (Text.trimChars (raw.toList.takeWhile (· != '-')))).getD i []

/-- The component of a version in a place; zero if it has none there. -/
def versionComponent (raw : String) (i : Nat) : Nat := pieceValue (versionPiece raw i)

theorem leadingNumber_eq (cs : List Char) : leadingNumber cs = pieceValue cs := by
  unfold leadingNumber pieceValue
  rw [funext Text.isSome_digit?]
  cases hds : cs.takeWhile Char.isDigit with
  | nil => rfl
  | cons d ds =>
    have hdigits : ∀ c ∈ d :: ds, c.isDigit = true := by
      rw [← hds]
      exact fun c hc => List.mem_takeWhile_imp hc
    rw [Text.readNat?, Text.readDigits?_eq hdigits]

/-- The components that a dotted version is compared by are those of its text. -/
theorem continued_versionComponents (s : String) :
    continued (versionComponents s) = dottedComponent s := by
  rw [versionComponents, continued_dropTrailingZeros]
  funext i
  rw [continued, dottedComponent, List.getD_eq_getElem?_getD, List.getElem?_map,
    List.getD_eq_getElem?_getD]
  cases (Text.splitAt '.' (Text.trimChars s.toList))[i]? with
  | none => rfl
  | some piece => exact leadingNumber_eq piece

theorem getLast?_versionComponents (s : String) : (versionComponents s).getLast? ≠ some 0 :=
  getLast?_dropTrailingZeros _

theorem dottedComponent_beforeHyphen (raw : String) :
    dottedComponent (beforeHyphen raw) = versionComponent raw := by
  funext i
  rw [dottedComponent, beforeHyphen, String.toList_ofList]
  rfl

/-! ## The order of version texts -/

/-- How two dotted versions compare. -/
def compareVersions (a b : String) : Ordering :=
  compareComponents (versionComponents a) (versionComponents b)

/-- The order of the components is that of the library, so this one is a preorder as well. -/
instance compareVersions_transCmp : Std.TransCmp compareVersions where
  eq_swap {a b} := by
    unfold compareVersions
    rw [compareComponents_eq, compareComponents_eq]
    exact Std.OrientedCmp.eq_swap
  isLE_trans {a b c} hab hbc := by
    unfold compareVersions at hab hbc ⊢
    rw [compareComponents_eq] at hab hbc ⊢
    exact Std.TransCmp.isLE_trans hab hbc

/-- A zero more at the end of a dotted version is one more piece of it, which counts for nothing. -/
theorem versionComponents_append_zero {s : String} (h : Text.IsTrimmed s.toList) :
    Text.IsTrimmed (s ++ ".0").toList ∧ versionComponents (s ++ ".0") = versionComponents s := by
  have htext : (s ++ ".0").toList = s.toList ++ ['.'] ++ ['0'] := by
    rw [String.toList_append, List.append_assoc]
    rfl
  have htrimmed : Text.IsTrimmed (s ++ ".0").toList := by
    rw [htext]
    refine ⟨fun c hc => ?_, by simp [Text.isBlank]⟩
    cases hs : s.toList with
    | nil =>
      rw [hs] at hc
      cases hc
      decide
    | cons d ds =>
      rw [hs] at hc h
      exact h.1 c hc
  have hzeroDot : '.' ∉ ['0'] := by decide
  have hpieces : Text.splitAt '.' (s ++ ".0").toList = Text.splitAt '.' s.toList ++ [['0']] := by
    obtain ⟨front, stem, hsplit, happend⟩ := Text.splitAt_append hzeroDot (s.toList ++ ['.'])
    rw [Text.splitAt_concat] at hsplit
    obtain ⟨rfl, rfl⟩ := List.append_singleton_inj.mp hsplit
    rw [htext, happend]
    rfl
  refine ⟨htrimmed, ?_⟩
  have hzero : leadingNumber ['0'] = 0 := by decide
  rw [versionComponents, versionComponents, Text.trimChars_of_isTrimmed htrimmed,
    Text.trimChars_of_isTrimmed h, hpieces, List.map_append, List.map_singleton, hzero,
    dropTrailingZeros_concat, if_pos rfl]

theorem versionComponents_append_zeros {s : String} (h : Text.IsTrimmed s.toList) (n : Nat) :
    versionComponents (s ++ String.join (List.replicate n ".0")) = versionComponents s := by
  induction n generalizing s with
  | zero => rw [List.replicate_zero, String.join_nil, String.append_empty]
  | succ n ih =>
    obtain ⟨htrimmed, hcomponents⟩ := versionComponents_append_zero h
    rw [List.replicate_succ, String.join_cons, ← String.append_assoc, ih htrimmed, hcomponents]

namespace ServerVersion

theorem components_ofText (raw : String) :
    (ofText raw).components = versionComponents (beforeHyphen raw) := by
  rw [ofText, beforeHyphen]

/-- The components of a server are those of its version text. -/
theorem continued_components (raw : String) :
    continued (ofText raw).components = versionComponent raw := by
  rw [components_ofText, continued_versionComponents, dottedComponent_beforeHyphen]

/-- **A server enforces checks iff its version is above 8.0.15**, component by
component. -/
theorem enforcesChecks_iff (raw : String) :
    (ofText raw).enforcesChecks = true ↔ Above (versionComponent raw) (continued [8, 0, 15]) := by
  have hlast : versionComponents lastIgnoringChecks = [8, 0, 15] := by decide +kernel
  rw [enforcesChecks, hlast, beq_iff_eq, ← continued_components, components_ofText]
  exact compareComponents_eq_gt_iff (getLast?_versionComponents (beforeHyphen raw))

/-- A server calls itself TiDB iff its version text has that name in it. -/
theorem isTiDB_iff (raw : String) : (ofText raw).isTiDB = true ↔ "TiDB".toList <:+: raw.toList :=
  Text.containsChars_iff

end ServerVersion

/-- **The order of versions is that of their components, continued with zeros**: the first
component in which two texts differ decides. It is a total preorder, `.0` can be put at the end of
a version any number of times, and a server enforces checks iff what stands in front of its first
hyphen is above 8.0.15. -/
theorem compareVersions_spec :
    (∀ a b, (compareVersions a b = .gt ↔ Above (dottedComponent a) (dottedComponent b)) ∧
      (compareVersions a b = .lt ↔ Above (dottedComponent b) (dottedComponent a)) ∧
      (compareVersions a b = .eq ↔ dottedComponent a = dottedComponent b)) ∧
    Std.TransCmp compareVersions ∧
    (∀ s n, versionComponents (Text.trim s ++ String.join (List.replicate n ".0")) =
      versionComponents (Text.trim s)) ∧
    ∀ raw, (ServerVersion.ofText raw).enforcesChecks = true ↔
      Above (dottedComponent (beforeHyphen raw)) (continued [8, 0, 15]) := by
  have hgt : ∀ a b, compareVersions a b = .gt ↔ Above (dottedComponent a) (dottedComponent b) := by
    intro a b
    rw [← continued_versionComponents, ← continued_versionComponents]
    exact compareComponents_eq_gt_iff (getLast?_versionComponents a)
  refine ⟨fun a b => ⟨hgt a b, compareComponents_eq_lt_iff.trans (hgt b a), ?_⟩,
    compareVersions_transCmp, fun s n => ?_, fun raw => ?_⟩
  · rw [← continued_versionComponents, ← continued_versionComponents]
    exact compareComponents_eq_eq_iff (getLast?_versionComponents a) (getLast?_versionComponents b)
  · exact versionComponents_append_zeros (Text.isTrimmed_trim s) n
  · rw [dottedComponent_beforeHyphen]
    exact ServerVersion.enforcesChecks_iff raw

/-- A component that does not fit 64 bits, or that is none, counts as zero. -/
example : compareVersions " 8.0" "8.0.x.18446744073709551616 " = .eq ∧
    compareVersions "10.1" "9.9.99" = .gt := by decide +kernel

end CatalogDdl.Ddl
