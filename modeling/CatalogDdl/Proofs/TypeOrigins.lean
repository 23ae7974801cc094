import CatalogDdl.ColumnType.Builtin
import CatalogDdl.Proofs.OverrideRules
import CatalogDdl.Proofs.TypeNames

/-!
# The display forms of source types

Rules name the type of a column in the form in which it is displayed. A rule is matched
with that form by the normal form of its own text, so a display form that is not normal
could not be named at all. There is none: what a name is displayed with are digits, signs
and the marks of a parameter list, with no blanks between them, and these keep a name in
normal form.

- `IsNormal.append`: what may be added to a name in normal form.
- `isNormal_withParameter`, `isNormal_withParameters`: parameter lists.
- `isNormal_origin`: the display forms of all types.
- `every_type_is_named`: a rule for the type of a column, in any spelling.
-/

namespace CatalogDdl

namespace TypeName

open Text

/-! ## What may be added to a name -/

/-- A character that has no case and is no blank. -/
structure IsMark (c : Char) : Prop where
  plain : IsPlain c
  notBlank : isBlank c = false

instance : DecidablePred IsMark := fun c =>
  decidable_of_iff (IsPlain c ∧ isBlank c = false)
    ⟨fun ⟨hplain, hblank⟩ => ⟨hplain, hblank⟩, fun h => ⟨h.plain, h.notBlank⟩⟩

theorem forall_isMark {ds : List Char} (h : (ds.all fun d => IsMark d) = true) :
    ∀ d ∈ ds, IsMark d := fun d hd => of_decide_eq_true (List.all_eq_true.mp h d hd)

/-- Digits are marks. -/
theorem isMark_of_isDigit {c : Char} (h : c.isDigit = true) : IsMark c := by
  have hall : ∀ n < 58, 48 ≤ n → IsMark (Char.ofNat n) := by decide
  simp only [Char.isDigit, Bool.and_eq_true, decide_eq_true_eq] at h
  have hlow : 48 ≤ c.toNat := h.1
  have hhigh : c.toNat ≤ 57 := h.2
  simpa only [Char.ofNat_toNat] using hall c.toNat (by omega) hlow

/-- So is all that a number is written with. -/
theorem isMark_of_mem_toString {n : Int} {c : Char} (h : c ∈ (toString n).toList) : IsMark c := by
  rcases mem_toString_cases h with h | rfl
  · exact isMark_of_isDigit h
  · decide

/-- A name stays in normal form if characters without a case that are no blanks are added. -/
theorem IsNormal.append {cs ds : List Char} (h : IsNormal cs) (hds : ∀ d ∈ ds, IsMark d) :
    IsNormal (cs ++ ds) := by
  obtain ⟨hupper, ⟨hhead, hlast⟩, hspaces, hchain⟩ := h
  have hends : ∀ d, d ∈ ds.head? ∨ d ∈ ds.getLast? → isBlank d = false := by
    rintro d (hd | hd)
    · exact (hds d (List.mem_of_mem_head? hd)).notBlank
    · exact (hds d (List.mem_of_mem_getLast? hd)).notBlank
  -- the case, the first and the last character, the blanks, and what may follow what
  refine ⟨?_, ⟨fun c hc => ?_, fun c hc => ?_⟩, fun c hc hblank => ?_, ?_⟩
  · rw [upperChars_append, hupper,
      upperChars_of_forall fun d hd => upperChar_of_isPlain (hds d hd).plain]
  · rw [List.head?_append] at hc
    rcases Option.or_eq_some_iff.mp hc with hc | ⟨-, hc⟩
    · exact hhead c hc
    · exact hends c (.inl hc)
  · rw [List.getLast?_append] at hc
    rcases Option.or_eq_some_iff.mp hc with hc | ⟨-, hc⟩
    · exact hends c (.inr hc)
    · exact hlast c hc
  · rcases List.mem_append.mp hc with hc | hc
    · exact hspaces c hc hblank
    · rw [(hds c hc).notBlank] at hblank
      cases hblank
  · refine List.isChain_append.mpr ⟨hchain, ?_, fun c hc d hd => ?_⟩
    · exact (List.pairwise_of_forall_mem_list fun c hc d hd =>
        mayFollow_of_not_isBlank (hds c hc).notBlank (hds d hd).notBlank).isChain
    · exact mayFollow_of_not_isBlank (hlast c hc) (hends d (.inl hd))

/-! ## Display forms -/

section
variable {name : String} (h : IsNormal name.toList)
include h

/-- A name with a parameter behind it is in normal form if the name is. -/
theorem isNormal_withParameter (n : Int) : IsNormal (withParameter name n).toList := by
  have hopen : ∀ d ∈ "(".toList, IsMark d := forall_isMark (by decide)
  have hclose : ∀ d ∈ ")".toList, IsMark d := forall_isMark (by decide)
  rw [withParameter, String.toList_append, String.toList_append, String.toList_append]
  exact ((h.append hopen).append fun _ => isMark_of_mem_toString).append hclose

/-- So is one with two parameters. -/
theorem isNormal_withParameters (m n : Int) : IsNormal (withParameters name m n).toList := by
  have hopen : ∀ d ∈ "(".toList, IsMark d := forall_isMark (by decide)
  have hcomma : ∀ d ∈ ",".toList, IsMark d := forall_isMark (by decide)
  have hclose : ∀ d ∈ ")".toList, IsMark d := forall_isMark (by decide)
  rw [withParameters, String.toList_append, String.toList_append, String.toList_append,
    String.toList_append, String.toList_append]
  exact ((((h.append hopen).append fun _ => isMark_of_mem_toString).append hcomma).append
    fun _ => isMark_of_mem_toString).append hclose

/-- Two names are put in the place of others, and both are in normal form. -/
theorem isNormal_canonical : IsNormal (canonical name).toList := by
  unfold canonical
  split
  · exact isNormal_iff.mpr (by decide +kernel)
  · split
    · exact isNormal_iff.mpr (by decide +kernel)
    · exact h

/-- The types of a family are displayed in normal form. -/
theorem isNormal_mapping (a : TypeAttributes) (family : TypeFamily) :
    IsNormal (family.mapping name a).origin.toList := by
  have hnumber : IsNormal "NUMBER".toList := isNormal_iff.mpr (by decide +kernel)
  have hraw : IsNormal "RAW".toList := isNormal_iff.mpr (by decide +kernel)
  -- a family shows the name, or a name of its own, with none, one or both of its parameters
  cases family with
  | fixed | unsized | float => exact h
  | number =>
    simp only [TypeFamily.mapping, numberType]
    split
    · exact isNormal_withParameters hnumber _ _
    · split
      · exact hnumber
      · exact isNormal_withParameter hnumber _
  | character | varying => exact isNormal_withParameter h _
  | raw => exact isNormal_withParameter hraw _
  | decimal =>
    simp only [TypeFamily.mapping]
    split
    · exact h
    · exact isNormal_withParameters h _ _
  | numeric => exact isNormal_withParameters h _ _

end

/-- A type outside the families is displayed by its name. -/
theorem origin_recognisedType (name : String) (precision : Int) :
    (recognisedType name precision).origin = name := by
  unfold recognisedType
  split
  · rfl
  · split
    · split <;> rfl
    · rfl

/-- **Every type is displayed in normal form.** -/
theorem isNormal_origin (dataType : String) (a : TypeAttributes) :
    IsNormal (builtinType dataType a).origin.toList := by
  have hname : IsNormal (canonical (normalize dataType)).toList := by
    refine isNormal_canonical ?_
    rw [normalize, String.toList_ofList]
    exact isNormal_normalizeChars _
  simp only [builtinType]
  split
  · exact isNormal_mapping hname a _
  · rw [origin_recognisedType]
    exact hname

/-- What is displayed is its own normal form. -/
theorem normalize_origin (dataType : String) (a : TypeAttributes) :
    normalize (builtinType dataType a).origin = (builtinType dataType a).origin := by
  rw [normalize, isNormal_iff.mp (isNormal_origin dataType a), String.ofList_toList]

/-! ## Rules for a type -/

/-- A text has the display form of a type as its normal form iff it is a spelling of it. -/
theorem normalize_eq_origin_iff {dataType s : String} {a : TypeAttributes} :
    normalize s = (builtinType dataType a).origin ↔
      Respelled s.toList (builtinType dataType a).origin.toList := by
  rw [← normalize_eq_iff, normalize_origin]

/-- The only rule there is, which applies to a column. -/
theorem resolve_single {c : Column} {a : TypeAttributes} (h : c.Numbers a) (table : String)
    {rule : PlanRule} (hrule : rule.Applies (builtinType c.dataType a).origin) :
    c.resolve table { plan := [rule] } =
      .ok ⟨(builtinType c.dataType a).origin, (builtinType c.dataType a).target,
        trim rule.targetType, .plan⟩ := by
  have hplan : OverrideRules.planFor { plan := [rule] } (builtinType c.dataType a).origin =
      [rule] := List.filter_eq_self.mpr fun r hr => by
    rw [List.mem_singleton.mp hr, decide_eq_true_iff]
    exact hrule
  rw [Column.resolve_eq_ok_iff h, hplan]
  exact .plan rule

/-- **The type of every column can be named by a rule, in any spelling.** Names are put into normal
form once and for all, and two have the same one iff they are spellings of one name. The display
form of a type is in normal form, so a rule with a target that is written for it, in whatever
spelling, is matched with the type, and chooses the target of every column that has it. -/
theorem every_type_is_named :
    (∀ s, normalize (normalize s) = normalize s ∧ IsNormal (normalize s).toList) ∧
    (∀ s t, normalize s = normalize t ↔ Respelled s.toList t.toList) ∧
    ∀ dataType a, normalize (builtinType dataType a).origin = (builtinType dataType a).origin ∧
      ∀ rule : PlanRule, trim rule.targetType ≠ "" →
        (normalize rule.sourceType = (builtinType dataType a).origin ∨
          Respelled rule.sourceType.toList (builtinType dataType a).origin.toList) →
        rule.matches (builtinType dataType a).origin = true ∧
          ∀ c : Column, c.dataType = dataType → c.Numbers a → ∀ table,
            c.resolve table { plan := [rule] } =
              .ok ⟨(builtinType dataType a).origin, (builtinType dataType a).target,
                trim rule.targetType, .plan⟩ := by
  refine ⟨fun s => ⟨normalize_normalize s, ?_⟩, fun s t => normalize_eq_iff, fun dataType a =>
    ⟨normalize_origin dataType a, fun rule htarget hsource => ?_⟩⟩
  · rw [normalize, String.toList_ofList]
    exact isNormal_normalizeChars _
  · rw [← normalize_eq_origin_iff, or_self] at hsource
    have happlies : rule.Applies (builtinType dataType a).origin := ⟨hsource, htarget⟩
    refine ⟨PlanRule.matches_iff.mpr happlies, ?_⟩
    rintro c rfl hnumbers table
    exact resolve_single hnumbers table happlies

/-- A rule with blanks in it, for the type of a column that is given in lower case. -/
theorem every_type_is_named_number :
    let rule : PlanRule := ⟨" number( 10 , 2 ) ", " DECIMAL(12,2) "⟩
    let c : Column := { name := "PRICE", dataType := "number", precision := "10", scale := " 2" }
    Respelled " Timestamp  ( 6 ) with Time zone".toList "TIMESTAMP(6) WITH TIME  ZONE".toList ∧
      rule.matches "NUMBER(10,2)" = true ∧
      c.resolve "ITEMS" { plan := [rule] } =
        .ok ⟨"NUMBER(10,2)", "DECIMAL(10,2)", "DECIMAL(12,2)", .plan⟩ := by
  intro rule c
  obtain ⟨-, hspellings, hnamed⟩ := every_type_is_named
  have hnumbers : c.Numbers ⟨0, 10, 2⟩ :=
    ⟨readInt64?_eq_some_iff.mp (by decide +kernel), readInt64?_eq_some_iff.mp (by decide +kernel),
      readInt64?_eq_some_iff.mp (by decide +kernel)⟩
  have hmapping : builtinType "number" ⟨0, 10, 2⟩ = ⟨"NUMBER(10,2)", "DECIMAL(10,2)"⟩ := by
    decide +kernel
  have htrim : trim rule.targetType = "DECIMAL(12,2)" := by decide +kernel
  obtain ⟨-, hrule⟩ := hnamed "number" ⟨0, 10, 2⟩
  rw [hmapping] at hrule
  obtain ⟨hmatches, hresolve⟩ := hrule rule (by decide +kernel) (.inl (by decide +kernel))
  have hcolumn := hresolve c rfl hnumbers "ITEMS"
  rw [htrim] at hcolumn
  exact ⟨(hspellings _ _).mp (by decide +kernel), hmatches, hcolumn⟩

end TypeName

end CatalogDdl
