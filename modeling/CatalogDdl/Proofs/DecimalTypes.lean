import CatalogDdl.Proofs.NumberRange
import CatalogDdl.Proofs.Text
import Mathlib.Data.List.Basic

/-!
# Decimal types with two parameters

The first parameter of a decimal type is the number of its digits, and the second one is how
many of them follow the point. A server takes the type only if there are any digits, and no
more of them follow the point than there are.

The parameters are the precision and the scale of the source column as they are. A source
column can have a scale without a precision, which is then zero, and it can have a scale
above its precision. Its decimal type is taken by no server. Only for a number that has
neither, the parameters are a choice of their own.

- `IsLegalDecimal`: the types that a server takes.
- `withParameters_inj`: a type with two parameters shows them.
- `target_eq_decimal_iff`: which columns are given such a type, and which one.
- `decimal_legal_iff`: which of them are given a type that a server takes.
-/

namespace CatalogDdl

/-- The decimal types with two parameters that a server takes. -/
def IsLegalDecimal (digits fraction : Int) : Prop := 1 ≤ digits ∧ fraction ≤ digits

instance (digits fraction : Int) : Decidable (IsLegalDecimal digits fraction) :=
  inferInstanceAs (Decidable (1 ≤ digits ∧ fraction ≤ digits))

/-- The names of source types that are numbers with a precision and a scale. -/
def decimalNames : List String := ["NUMBER", "DECIMAL", "DEC", "NUMERIC"]

variable {name dataType s : String} {precision scale m n m' n' : Int}

/-! ## Parameters -/

/-- A number is written with digits and a sign. -/
theorem not_mem_toString {c : Char} (hdigit : c.isDigit = false) (hsign : c ≠ '-') (n : Int) :
    c ∉ (toString n).toList := by
  intro h
  rcases Text.mem_toString_cases h with h | h
  · rw [hdigit] at h
    cases h
  · exact hsign h

theorem comma_not_mem_toString (n : Int) : ',' ∉ (toString n).toList :=
  not_mem_toString (by decide) (by decide) n

/-- The characters of a type with two parameters. -/
theorem toList_withParameters (name : String) (m n : Int) :
    (withParameters name m n).toList =
      name.toList ++ '(' :: ((toString m).toList ++ ',' :: ((toString n).toList ++ [')'])) := by
  simp only [withParameters, String.toList_append, List.append_assoc]
  rfl

/-- A type with two parameters shows them. -/
theorem withParameters_inj :
    withParameters name m n = withParameters name m' n' ↔ m = m' ∧ n = n' := by
  constructor
  · intro h
    -- the first comma behind the parenthesis is the one between the numbers
    have hlast : ',' ∉ (toString n).toList ++ [')'] := fun h =>
      (List.mem_append.mp h).elim (comma_not_mem_toString n) (by decide)
    have htext := congrArg String.toList h
    rw [toList_withParameters, toList_withParameters] at htext
    have hlist := (List.cons.inj (List.append_cancel_left htext)).2
    obtain ⟨hm, -, hn⟩ :=
      (List.append_cons_inj_of_notMem (comma_not_mem_toString m) hlast).mp hlist
    exact ⟨Text.toString_inj.mp (String.toList_inj.mp hm),
      Text.toString_inj.mp (String.toList_inj.mp (List.append_cancel_right hn))⟩
  · rintro ⟨rfl, rfl⟩
    rfl

/-- A text without a comma is no type with two parameters. -/
theorem ne_withParameters (h : ',' ∉ s.toList) : s ≠ withParameters name m n := by
  rintro rfl
  exact h (by simp [toList_withParameters])

/-- No type of integers has two parameters. -/
theorem IntegerType.comma_not_mem_name (t : IntegerType) : ',' ∉ t.name.toList := by
  cases t with
  | decimal digits =>
    have hname : (decimal digits).name.toList =
        "DECIMAL(".toList ++ ((toString (digits : Int)).toList ++ [')']) := by
      simp only [IntegerType.name, withParameter, String.toList_append, List.append_assoc]
      rfl
    rw [hname, List.mem_append, List.mem_append, not_or, not_or]
    exact ⟨by decide, comma_not_mem_toString digits, by decide⟩
  | _ => decide

/-! ## The targets of numbers -/

/-- The types of the other names than `NUMBER`. -/
theorem target_of_decimalName (hname : TypeName.normalize dataType ∈ decimalNames)
    (hnumber : TypeName.normalize dataType ≠ "NUMBER") (length precision scale : Int) :
    (builtinType dataType ⟨length, precision, scale⟩).target =
      if precision = 0 ∧ scale = 0 then "DECIMAL" else withParameters "DECIMAL" precision scale := by
  -- the other names belong to one of two families, and these treat parameters in the same way
  have hfamily : typeFamilies.lookup (TypeName.canonical (TypeName.normalize dataType)) =
        some .decimal ∨
      typeFamilies.lookup (TypeName.canonical (TypeName.normalize dataType)) = some .numeric := by
    rcases List.mem_cons.mp hname with h | h
    · exact absurd h hnumber
    · revert h
      generalize TypeName.normalize dataType = name
      revert name
      decide
  simp only [builtinType]
  rcases hfamily with h | h
  · simp only [h, TypeFamily.mapping, Bool.and_eq_true, decide_eq_true_eq]
    split <;> rfl
  · simp only [h, TypeFamily.mapping, Bool.and_eq_true, decide_eq_true_eq]

/-- The types of the name `NUMBER`. Those without a fraction are types of integers. -/
theorem target_of_number (hnumber : TypeName.normalize dataType = "NUMBER")
    (hprecision : 0 ≤ precision ∧ precision ≤ 38) (hscale : 0 ≤ scale) (length : Int) :
    if scale ≠ 0 then (builtinType dataType ⟨length, precision, scale⟩).target =
      withParameters "DECIMAL" precision scale
    else if precision = 0 then (builtinType dataType ⟨length, precision, scale⟩).target =
      withParameters "DECIMAL" 65 30
    else ∃ t : IntegerType, (builtinType dataType ⟨length, precision, scale⟩).target = t.name := by
  have hmapping : builtinType dataType ⟨length, precision, scale⟩ = numberType precision scale :=
    builtinType_number hnumber _
  rw [hmapping]
  -- a fraction comes first, then a missing precision; what is left is an integer
  split_ifs with hfraction hnone
  · rw [numberType, if_pos (by omega)]
  · rw [numberType, if_neg (by omega), if_pos hnone]
    decide +kernel
  · obtain ⟨p, rfl⟩ := Int.eq_ofNat_of_zero_le hprecision.1
    rw [numberType_of_integer (by omega) (by omega) (by omega)]
    exact ⟨_, rfl⟩

/-- **Which columns are given a decimal type with two parameters, and which one.** It has the
precision and the scale of the column, except for numbers that have neither. -/
theorem target_eq_decimal_iff (hname : TypeName.normalize dataType ∈ decimalNames)
    (hprecision : 0 ≤ precision ∧ precision ≤ 38) (hscale : 0 ≤ scale) (length : Int) :
    (builtinType dataType ⟨length, precision, scale⟩).target = withParameters "DECIMAL" m n ↔
      if precision = 0 ∧ scale = 0 then
        TypeName.normalize dataType = "NUMBER" ∧ m = 65 ∧ n = 30
      else (TypeName.normalize dataType = "NUMBER" → scale ≠ 0) ∧ m = precision ∧ n = scale := by
  have hparameters : ∀ {p s : Int}, withParameters "DECIMAL" p s = withParameters "DECIMAL" m n ↔
      m = p ∧ n = s := by
    intro p s
    rw [withParameters_inj, eq_comm, eq_comm (a := s)]
  -- NUMBER alone has types of its own where there is no fraction
  by_cases hnumber : TypeName.normalize dataType = "NUMBER"
  · have htarget := target_of_number hnumber hprecision hscale length
    split_ifs at htarget with hfraction hnone
    · rw [htarget, hparameters, if_neg (by omega)]
      simp [hnumber, hfraction]
    · rw [htarget, hparameters, if_pos (by omega)]
      simp [hnumber]
    · obtain ⟨t, ht⟩ := htarget
      rw [ht, if_neg (by omega)]
      simp [hnumber, hfraction, ne_withParameters t.comma_not_mem_name]
  · rw [target_of_decimalName hname hnumber]
    have hplain : "DECIMAL" ≠ withParameters "DECIMAL" m n := ne_withParameters (by decide)
    split_ifs
    · simp [hnumber, hplain]
    · simp [hnumber, hparameters]

/-- **Which decimal types are taken.** A column is given a decimal type with two parameters unless
it is a number without a fraction, or a decimal without precision and scale. A server takes this
type exactly if the column has neither precision nor scale, or a precision that its scale is not
above. -/
theorem decimal_legal_iff (hname : TypeName.normalize dataType ∈ decimalNames)
    (hprecision : 0 ≤ precision ∧ precision ≤ 38) (hscale : 0 ≤ scale) (length : Int) :
    ((∃ m n, (builtinType dataType ⟨length, precision, scale⟩).target =
        withParameters "DECIMAL" m n) ↔
      scale ≠ 0 ∨ (TypeName.normalize dataType = "NUMBER" ↔ precision = 0)) ∧
    ∀ m n, (builtinType dataType ⟨length, precision, scale⟩).target =
        withParameters "DECIMAL" m n →
      (IsLegalDecimal m n ↔
        (precision = 0 ∧ scale = 0) ∨ (1 ≤ precision ∧ scale ≤ precision)) := by
  simp only [target_eq_decimal_iff hname hprecision hscale]
  constructor
  · split_ifs with hnone
    · simp [hnone]
    · constructor
      · rintro ⟨_, _, hfraction, -, -⟩
        by_cases hnumber : TypeName.normalize dataType = "NUMBER"
        · exact .inl (hfraction hnumber)
        · by_cases hzero : scale = 0
          · exact .inr (iff_of_false hnumber fun h => hnone ⟨h, hzero⟩)
          · exact .inl hzero
      · intro h
        -- the parameters are those of the column, unless it has neither
        refine ⟨precision, scale, fun hnumber hzero => ?_, rfl, rfl⟩
        exact hnone ⟨(h.resolve_left (not_not.mpr hzero)).mp hnumber, hzero⟩
  · intro m n h
    unfold IsLegalDecimal
    split_ifs at h <;> omega

/-- A number with two of its ten digits after the point. -/
theorem number_cents_legal :
    (builtinType "number" ⟨22, 10, 2⟩).target = withParameters "DECIMAL" 10 2 ∧
      IsLegalDecimal 10 2 := by
  have hname : TypeName.normalize "number" ∈ decimalNames := by decide +kernel
  have hprecision : (0 : Int) ≤ 10 ∧ (10 : Int) ≤ 38 := by decide
  have hscale : (0 : Int) ≤ 2 := by decide
  have htarget : (builtinType "number" ⟨22, 10, 2⟩).target = withParameters "DECIMAL" 10 2 := by
    decide +kernel
  obtain ⟨-, hlegal⟩ := decimal_legal_iff hname hprecision hscale 22
  exact ⟨htarget, (hlegal 10 2 htarget).mpr (by decide)⟩

/-- Numbers below one hundredth, and numbers with a scale alone. -/
theorem number_smallFraction_illegal :
    "NUMBER" ∈ decimalNames ∧ TypeName.normalize "NUMBER" = "NUMBER" ∧
      (builtinType "NUMBER" ⟨22, 5, 7⟩).target = withParameters "DECIMAL" 5 7 ∧
      ¬ IsLegalDecimal 5 7 ∧
      (builtinType "NUMBER" ⟨22, 0, 2⟩).target = withParameters "DECIMAL" 0 2 ∧
      ¬ IsLegalDecimal 0 2 := by
  decide +kernel

end CatalogDdl
