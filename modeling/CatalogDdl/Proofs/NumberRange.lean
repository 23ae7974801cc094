import CatalogDdl.ColumnType.Builtin
import Mathlib.Algebra.Order.Ring.Abs
import Mathlib.Algebra.Order.Ring.Int
import Mathlib.Tactic.Ring

/-!
# The range of integer columns

A column of integers is given a type that holds all numbers of as many digits as it keeps.
With a negative scale zeros follow these digits, and the numbers are longer by as many,
but the type stays the same. They still fit as long as the type has room for the zeros:
`INT` is taken for 5 to 8 digits and holds 9 of them.

- `IntegerType`, `Holds`: the target types of integers and what they hold.
- `IsNumber`: the numbers of a column.
- `within_range_iff`: a range holds all numbers of a column iff it holds all of its length.
- `integer_columns_fit_iff`: which columns fit into their type.
-/

namespace CatalogDdl

/-- A target type of integers. -/
inductive IntegerType where
  | tinyint
  | smallint
  | int
  | bigint
  /-- Decimals of a number of digits, without a fraction. -/
  | decimal (digits : Nat)
  deriving DecidableEq, Repr

namespace IntegerType

/-- How a type is written. -/
def name : IntegerType → String
  | tinyint => "TINYINT"
  | smallint => "SMALLINT"
  | int => "INT"
  | bigint => "BIGINT"
  | decimal digits => withParameter "DECIMAL" digits

/-- The least number of a type. -/
def least : IntegerType → Int
  | tinyint => -128
  | smallint => -2 ^ 15
  | int => -2 ^ 31
  | bigint => -2 ^ 63
  | decimal digits => 1 - 10 ^ digits

/-- The greatest number of a type. -/
def greatest : IntegerType → Int
  | tinyint => 127
  | smallint => 2 ^ 15 - 1
  | int => 2 ^ 31 - 1
  | bigint => 2 ^ 63 - 1
  | decimal digits => 10 ^ digits - 1

/-- Whether a number is in the range of a type. -/
def Holds (t : IntegerType) (x : Int) : Prop := t.least ≤ x ∧ x ≤ t.greatest

/-- How long the numbers may be that a type holds all of. -/
def room : IntegerType → Nat
  | tinyint => 2
  | smallint => 4
  | int => 9
  | bigint => 18
  | decimal digits => digits

/-- The type that is taken for integers of a number of digits. -/
def ofDigits (p : Nat) : IntegerType :=
  if p ≤ 2 then tinyint else if p ≤ 4 then smallint else if p ≤ 8 then int
  else if p ≤ 18 then bigint else decimal p

end IntegerType

/-- The numbers of a column that is no fraction: integers of up to `precision` digits, with
as many zeros after them as the scale is below zero. -/
def IsNumber (precision scale x : Int) : Prop :=
  ∃ k : Int, |k| < 10 ^ precision.toNat ∧ x = k * 10 ^ (-scale).toNat

/-! ## Ranges -/

/-- A range that holds `r` digits and not many more holds the numbers of a column exactly if these
have no more than `r` digits with their zeros. Here `q` is the least number of digits that the
range is taken for: so many nines and zeros after them are a digit too long for it. -/
theorem within_range_iff {p e q r : Nat} {least greatest : Int} (hp : q ≤ p) (hq : q ≤ r + 1)
    (hleast : least ≤ 1 - 10 ^ r) (hgreatest : 10 ^ r - 1 ≤ greatest)
    (hnines : greatest < (10 ^ q - 1) * 10 ^ (r + 1 - q)) :
    (∀ x, IsNumber p (-e) x → least ≤ x ∧ x ≤ greatest) ↔ p + e ≤ r := by
  have hpos : ∀ n : Nat, (0 : Int) < 10 ^ n := fun n => pow_pos (by decide) n
  have hmono : ∀ {m n : Nat}, m ≤ n → (10 : Int) ^ m ≤ 10 ^ n := fun h =>
    pow_le_pow_right₀ (by decide) h
  have hten : (-(-(e : Int))).toNat = e := by omega
  simp only [IsNumber, Int.toNat_natCast, hten]
  constructor
  · intro h
    by_contra hlong
    -- all digits of the column are nine
    have hk : |(10 ^ p - 1 : Int)| < 10 ^ p := by
      have := hpos p
      rw [abs_of_nonneg] <;> omega
    have hx : (10 ^ p - 1) * 10 ^ e ≤ greatest := (h _ ⟨10 ^ p - 1, hk, rfl⟩).2
    obtain ⟨a, rfl⟩ := Nat.exists_eq_add_of_le hp
    -- `q` nines with zeros after them are no larger, and are too large already
    have hlarge : (10 ^ q - 1) * 10 ^ (r + 1 - q) ≤ (10 ^ (q + a) - 1 : Int) * 10 ^ e := by
      have hnonneg : (0 : Int) ≤ 10 ^ q - 1 := by have := hpos q; omega
      calc (10 ^ q - 1 : Int) * 10 ^ (r + 1 - q)
          ≤ (10 ^ q - 1) * 10 ^ (a + e) := mul_le_mul_of_nonneg_left (hmono (by omega)) hnonneg
        _ = (10 ^ (q + a) - 10 ^ a) * 10 ^ e := by ring
        _ ≤ (10 ^ (q + a) - 1) * 10 ^ e :=
          mul_le_mul_of_nonneg_right (by have := hpos a; omega) (hpos e).le
    omega
  · rintro h x ⟨k, hk, rfl⟩
    have habs : |k * 10 ^ e| < 10 ^ r :=
      calc |k * 10 ^ e| = |k| * 10 ^ e := by rw [abs_mul, abs_of_pos (hpos e)]
        _ < 10 ^ p * 10 ^ e := mul_lt_mul_of_pos_right hk (hpos e)
        _ = 10 ^ (p + e) := (pow_add _ _ _).symm
        _ ≤ 10 ^ r := hmono h
    obtain ⟨hlow, hhigh⟩ := abs_lt.mp habs
    omega

/-! ## The types of integers -/

namespace IntegerType

/-- Digits that every column has for which a type is taken. -/
def fewest : IntegerType → Nat
  | tinyint => 1
  | smallint => 3
  | int => 5
  | bigint => 9
  | decimal _ => 1

/-- A type holds a column exactly if the column is no longer than it has room for. -/
theorem holds_all_iff {t : IntegerType} {p e : Nat} (hp : t.fewest ≤ p) :
    (∀ x, IsNumber p (-e) x → t.Holds x) ↔ p + e ≤ t.room := by
  have hfixed : ∀ {least greatest : Int} {q r : Nat}, q ≤ p →
      q ≤ r + 1 ∧ least ≤ 1 - 10 ^ r ∧ 10 ^ r - 1 ≤ greatest ∧
        greatest < (10 ^ q - 1) * 10 ^ (r + 1 - q) →
      ((∀ x, IsNumber p (-e) x → least ≤ x ∧ x ≤ greatest) ↔ p + e ≤ r) :=
    fun hq ⟨h, hleast, hgreatest, hnines⟩ => within_range_iff hq h hleast hgreatest hnines
  cases t with
  | tinyint => exact hfixed hp (by decide)
  | smallint => exact hfixed hp (by decide)
  | int => exact hfixed hp (by decide)
  | bigint => exact hfixed hp (by decide)
  | decimal n =>
    refine within_range_iff hp (Nat.le_add_left 1 n) le_rfl le_rfl ?_
    have hpos : (0 : Int) < 10 ^ n := pow_pos (by decide) n
    show (10 ^ n - 1 : Int) < (10 ^ 1 - 1) * 10 ^ (n + 1 - 1)
    rw [Nat.add_sub_cancel]
    omega

/-- Every type is written in its own way. -/
theorem name_injective : Function.Injective name := by
  have hdecimal : ∀ n, (decimal n).name.toList = "DECIMAL(".toList ++ n.repr.toList ++ [')'] := by
    intro n
    show ("DECIMAL" ++ "(" ++ n.repr ++ ")").toList = _
    rw [String.toList_append, String.toList_append, String.toList_append]
    rfl
  have hother : ∀ (n : Nat) (s : String), s.toList.head? ≠ some 'D' → (decimal n).name ≠ s := by
    rintro n _ hs rfl
    rw [hdecimal] at hs
    exact hs rfl
  intro t t' h
  cases t with
  | decimal n =>
    cases t' with
    | decimal n' =>
      have hlist := congrArg String.toList h
      rw [hdecimal, hdecimal, List.append_assoc, List.append_assoc] at hlist
      -- the digits of the two are the same, and they are read back
      have hdigits := List.append_cancel_right (List.append_cancel_left hlist)
      rw [Nat.toList_repr, Nat.toList_repr] at hdigits
      have hread := congrArg (fun ds => Nat.ofDigitChars 10 ds 0) hdigits
      rw [Nat.ofDigitChars_ten_toDigits, Nat.ofDigitChars_ten_toDigits] at hread
      rw [hread]
    | _ => exact absurd h (hother n _ (by decide))
  | _ =>
    cases t' with
    | decimal n => exact absurd h.symm (hother n _ (by decide))
    | _ => first | rfl | exact absurd h (by decide)

/-- A type is taken for columns of at least so many digits. -/
theorem fewest_le_ofDigits {p : Nat} (hp : 1 ≤ p) : (ofDigits p).fewest ≤ p := by
  unfold ofDigits
  split_ifs <;> simp only [fewest] <;> omega

/-- A type has room for the digits that it is taken for. -/
theorem le_room_ofDigits (p : Nat) : p ≤ (ofDigits p).room := by
  unfold ofDigits
  split_ifs <;> simp only [room] <;> omega

end IntegerType

/-! ## Columns -/

/-- The type of integers is the one for the digits. -/
theorem integerType_eq {p : Nat} (hp : 1 ≤ p) (hp' : p ≤ 38) :
    integerType p = (IntegerType.ofDigits p).name := by
  simp only [integerType, IntegerType.ofDigits, Bool.and_eq_true, decide_eq_true_eq]
  split_ifs <;> first | rfl | omega

/-- A column of numbers has the type that its precision and scale lead to. -/
theorem builtinType_number {dataType : String} (hname : TypeName.normalize dataType = "NUMBER")
    (a : TypeAttributes) : builtinType dataType a = numberType a.precision a.scale := by
  have hfamily : typeFamilies.lookup (TypeName.canonical "NUMBER") = some .number := by decide
  simp only [builtinType, hname, hfamily]
  rfl

/-- Without a fraction it is a type of integers. -/
theorem numberType_of_integer {p : Nat} (hp : 1 ≤ p) (hp' : p ≤ 38) {scale : Int}
    (hscale : scale ≤ 0) :
    numberType p scale = ⟨withParameter "NUMBER" p, (IntegerType.ofDigits p).name⟩ := by
  rw [numberType, if_neg (by omega), if_neg (by omega), integerType_eq hp hp']

/-- **Which integer columns fit into their type.** A type of integers is chosen for the digits
alone. It holds all numbers of the column exactly if it has room for the zeros that a negative
scale puts after them. It has room for the digits, so it always does if the scale is zero. -/
theorem integer_columns_fit_iff {dataType : String}
    (hname : TypeName.normalize dataType = "NUMBER") {precision scale : Int}
    (hprecision : 1 ≤ precision ∧ precision ≤ 38) (hscale : scale ≤ 0) (length : Int) :
    builtinType dataType ⟨length, precision, scale⟩ = builtinType dataType ⟨length, precision, 0⟩ ∧
    ∃ t : IntegerType,
      (∀ t', t'.name = (builtinType dataType ⟨length, precision, scale⟩).target ↔ t' = t) ∧
      precision ≤ t.room ∧
      ((∀ x, IsNumber precision scale x → t.Holds x) ↔ precision - scale ≤ t.room) := by
  obtain ⟨p, rfl⟩ := Int.eq_ofNat_of_zero_le (show 0 ≤ precision by omega)
  obtain ⟨e, rfl⟩ : ∃ e : Nat, scale = -(e : Int) := ⟨(-scale).toNat, by omega⟩
  have hp : 1 ≤ p := by omega
  have hmapping : ∀ {scale : Int}, scale ≤ 0 → builtinType dataType ⟨length, p, scale⟩ =
      ⟨withParameter "NUMBER" p, (IntegerType.ofDigits p).name⟩ := fun h => by
    rw [builtinType_number hname, numberType_of_integer hp (by omega) h]
  rw [hmapping hscale, hmapping le_rfl]
  refine ⟨rfl, .ofDigits p, fun t' => IntegerType.name_injective.eq_iff, ?_, ?_⟩
  · have := IntegerType.le_room_ofDigits p
    omega
  · rw [IntegerType.holds_all_iff (IntegerType.fewest_le_ofDigits hp)]
    omega

/-- Numbers of twelve digits with two zeros after them, which a `BIGINT` has room for. -/
theorem number_twoZeros_fits :
    TypeName.normalize "number" = "NUMBER" ∧
      (builtinType "number" ⟨22, 12, -2⟩).target = IntegerType.bigint.name ∧
      ∀ x, IsNumber 12 (-2) x → IntegerType.bigint.Holds x := by
  have hname : TypeName.normalize "number" = "NUMBER" := by decide +kernel
  have hprecision : (1 : Int) ≤ 12 ∧ (12 : Int) ≤ 38 := by decide
  have hscale : (-2 : Int) ≤ 0 := by decide
  obtain ⟨-, t, ht, -, hfits⟩ := integer_columns_fit_iff hname hprecision hscale 22
  have htarget : (builtinType "number" ⟨22, 12, -2⟩).target = IntegerType.bigint.name := by
    decide +kernel
  obtain rfl : IntegerType.bigint = t := (ht .bigint).mp htarget.symm
  exact ⟨hname, htarget, hfits.mpr (by decide)⟩

/-- Numbers of two digits with one zero after them: a `TINYINT` has no room for it. -/
theorem number_oneZero_overflows :
    builtinType "NUMBER" ⟨22, 2, -1⟩ = ⟨"NUMBER(2)", IntegerType.tinyint.name⟩ ∧
      IsNumber 2 (-1) 990 ∧ ¬ IntegerType.tinyint.Holds 990 :=
  ⟨by decide +kernel, ⟨99, by decide, by decide⟩, fun h => absurd h.2 (by decide)⟩

end CatalogDdl
