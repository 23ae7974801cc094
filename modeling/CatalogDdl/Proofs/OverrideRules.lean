import CatalogDdl.ColumnType.Override
import CatalogDdl.Proofs.Synthesis
import CatalogDdl.Proofs.LetterCase
import CatalogDdl.Proofs.Text

/-!
# Which rule chooses the type of a column

Whether a rule applies to a column does not depend on the other rules, and what is chosen
depends on nothing but the rules that apply. There may be one of them in each tier, in
which case the custom rule is taken. So rules can be put into another order, and rules
that do not apply can come and go, and the type of the column is the same.

- `PlanRule.Applies`, `CustomRule.Applies`: when a rule applies.
- `Column.Numbers`, `Column.FirstMalformed`: the numbers of a column, or the first one
  that is none. Every column has the one or the other.
- `Chosen`: the type that the applying rules choose.
- `OverrideRules.AlikeFor`: rules that differ in what does not matter to a column.
- `Column.resolve_spec`: all of it together.
-/

namespace CatalogDdl

/-- Whether a plan rule applies to columns of a source type. -/
structure PlanRule.Applies (r : PlanRule) (origin : String) : Prop where
  sourceType : TypeName.normalize r.sourceType = origin
  target : Text.trim r.targetType ≠ ""

/-- Whether a custom rule applies to a column of a table and a source type. Names are compared
without the case of the letters A to Z. -/
structure CustomRule.Applies (r : CustomRule) (table column origin : String) : Prop where
  table : ∀ t ∈ r.table, Text.foldLetters t = Text.foldLetters table
  column : Text.foldLetters (Text.trim r.column) = Text.foldLetters (Text.trim column)
  sourceType : TypeName.normalize r.sourceType = origin
  target : Text.trim r.targetType ≠ ""

/-- The test for a plan rule says whether it applies. -/
theorem PlanRule.matches_iff {r : PlanRule} {origin : String} :
    r.matches origin = true ↔ r.Applies origin := by
  rw [PlanRule.matches, Bool.and_eq_true, beq_iff_eq, Bool.not_eq_true', ← Bool.not_eq_true,
    ← Text.trim_eq_empty_iff]
  exact ⟨fun ⟨hsource, htarget⟩ => ⟨hsource, htarget⟩, fun h => ⟨h.sourceType, h.target⟩⟩

/-- A custom rule without a table concerns all of them. -/
theorem CustomRule.concerns_iff {r : CustomRule} {table : String} :
    r.concerns table = true ↔ ∀ t ∈ r.table, Text.foldLetters t = Text.foldLetters table := by
  unfold concerns
  cases r.table with
  | none => exact ⟨fun _ => nofun, fun _ => rfl⟩
  | some t =>
    rw [Text.equalsIgnoringCase_iff]
    exact ⟨fun h u hu => by cases hu; exact h, fun h => h t rfl⟩

/-- The test for a custom rule says whether it applies. -/
theorem CustomRule.matches_iff {r : CustomRule} {table column origin : String} :
    r.matches table column origin = true ↔ r.Applies table column origin := by
  rw [CustomRule.matches, Bool.and_eq_true, Bool.and_eq_true, Bool.and_eq_true, concerns_iff,
    Text.equalsIgnoringCase_iff, beq_iff_eq, Bool.not_eq_true', ← Bool.not_eq_true,
    ← Text.trim_eq_empty_iff]
  exact ⟨fun ⟨⟨⟨htable, hcolumn⟩, hsource⟩, htarget⟩ => ⟨htable, hcolumn, hsource, htarget⟩,
    fun h => ⟨⟨⟨h.table, h.column⟩, h.sourceType⟩, h.target⟩⟩

instance (r : PlanRule) (origin : String) : Decidable (r.Applies origin) :=
  decidable_of_iff _ PlanRule.matches_iff

instance (r : CustomRule) (table column origin : String) :
    Decidable (r.Applies table column origin) :=
  decidable_of_iff _ CustomRule.matches_iff

namespace OverrideRules

variable (rules : OverrideRules)

/-- The custom rules that apply to a column. -/
def customFor (table column origin : String) : List CustomRule :=
  rules.custom.filter fun r => r.Applies table column origin

/-- The plan rules that apply to a source type. -/
def planFor (origin : String) : List PlanRule := rules.plan.filter fun r => r.Applies origin

/-- Whether two rules of one tier apply to a column. -/
def Clash (table column origin : String) : Prop :=
  2 ≤ (rules.customFor table column origin).length ∨ 2 ≤ (rules.planFor origin).length

/-- Rules that differ from others in their order, and in rules that do not apply to a column. -/
structure AlikeFor (rules' : OverrideRules) (table column origin : String) : Prop where
  custom : ∃ more more', (rules.custom ++ more).Perm (rules'.custom ++ more') ∧
    ∀ r ∈ more ++ more', ¬ r.Applies table column origin
  plan : ∃ more more', (rules.plan ++ more).Perm (rules'.plan ++ more') ∧
    ∀ r ∈ more ++ more', ¬ r.Applies origin

end OverrideRules

/-- The numbers of a column and what they are called, in the order in which they are read. -/
def Column.numerals (c : Column) : List (NumericField × String) :=
  [(.length, c.length), (.precision, c.precision), (.scale, c.scale)]

/-- The numbers of a column, if all of its numerals are integers of 64 bits. -/
structure Column.Numbers (c : Column) (a : TypeAttributes) : Prop where
  length : Text.WritesInt64 (Text.trim c.length) a.length
  precision : Text.WritesInt64 (Text.trim c.precision) a.precision
  scale : Text.WritesInt64 (Text.trim c.scale) a.scale

/-- The first numeral of a column that is no integer of 64 bits. -/
def Column.FirstMalformed (c : Column) (field : NumericField) (text : String) : Prop :=
  ∃ before after, c.numerals = before ++ (field, text) :: after ∧
    (∀ x ∈ before, ∃ i, Text.WritesInt64 (Text.trim x.2) i) ∧
    ∀ i, ¬ Text.WritesInt64 (Text.trim text) i

/-- What the targets of the applying rules of both tiers come to. -/
def choice (name : String) (m : TypeMapping) : List String → List String → Except Fault ResolvedType
  | [], [] => .ok ⟨m.origin, m.target, m.target, .builtin⟩
  | [], [t] => .ok ⟨m.origin, m.target, Text.trim t, .plan⟩
  | [t], [] => .ok ⟨m.origin, m.target, Text.trim t, .custom⟩
  | [t], [_] => .ok ⟨m.origin, m.target, Text.trim t, .custom⟩
  | custom, plan => .error (.conflictingOverrides name m.origin custom plan)

/-- The type that is chosen for a column by the rules of both tiers that apply to it. -/
inductive Chosen (m : TypeMapping) : List CustomRule → List PlanRule → ResolvedType → Prop
  | custom (r : CustomRule) {plan : List PlanRule} (h : plan.length ≤ 1) :
      Chosen m [r] plan ⟨m.origin, m.target, Text.trim r.targetType, .custom⟩
  | plan (r : PlanRule) : Chosen m [] [r] ⟨m.origin, m.target, Text.trim r.targetType, .plan⟩
  | builtin : Chosen m [] [] ⟨m.origin, m.target, m.target, .builtin⟩

/-! ## Rules that apply -/

variable {rules rules' : OverrideRules} {table column origin : String}

/-- The targets that are compared are those of the rules that apply, in their order. -/
theorem OverrideRules.customTargets_eq (rules : OverrideRules) (table column origin : String) :
    rules.customTargets table column origin =
      (rules.customFor table column origin).map CustomRule.targetType := by
  refine congrArg (List.map CustomRule.targetType) (List.filter_congr fun r _ => ?_)
  rw [Bool.eq_iff_iff, CustomRule.matches_iff, decide_eq_true_iff]

theorem OverrideRules.planTargets_eq (rules : OverrideRules) (origin : String) :
    rules.planTargets origin = (rules.planFor origin).map PlanRule.targetType := by
  refine congrArg (List.map PlanRule.targetType) (List.filter_congr fun r _ => ?_)
  rw [Bool.eq_iff_iff, PlanRule.matches_iff, decide_eq_true_iff]

/-- What does not pass a test does not matter to what passes it. -/
theorem filter_perm_of_append {α : Type} {p : α → Prop} [DecidablePred p]
    {xs ys more more' : List α} (h : (xs ++ more).Perm (ys ++ more'))
    (hmore : ∀ x ∈ more ++ more', ¬ p x) :
    (xs.filter fun x => p x).Perm (ys.filter fun x => p x) := by
  have hnone : ∀ zs : List α, (∀ x ∈ zs, ¬ p x) → zs.filter (fun x => p x) = [] := fun zs hzs =>
    List.filter_eq_nil_iff.mpr fun x hx => by simpa using hzs x hx
  have hfilter := h.filter fun x => p x
  rw [List.filter_append, List.filter_append,
    hnone more fun x hx => hmore x (List.mem_append_left _ hx),
    hnone more' fun x hx => hmore x (List.mem_append_right _ hx), List.append_nil,
    List.append_nil] at hfilter
  exact hfilter

/-- Alike rules have the same applying rules in each tier, in some order. -/
theorem OverrideRules.AlikeFor.customFor (h : rules.AlikeFor rules' table column origin) :
    (rules.customFor table column origin).Perm (rules'.customFor table column origin) := by
  obtain ⟨more, more', hperm, hmore⟩ := h.custom
  exact filter_perm_of_append hperm hmore

theorem OverrideRules.AlikeFor.planFor (h : rules.AlikeFor rules' table column origin) :
    (rules.planFor origin).Perm (rules'.planFor origin) := by
  obtain ⟨more, more', hperm, hmore⟩ := h.plan
  exact filter_perm_of_append hperm hmore

/-! ## The choice -/

section
variable {m : TypeMapping} {custom custom' : List CustomRule} {plan plan' : List PlanRule}
  {t : ResolvedType} {name : String}

/-- A type is chosen iff there is at most one rule in each tier. -/
theorem exists_chosen_iff :
    (∃ t, Chosen m custom plan t) ↔ ¬ (2 ≤ custom.length ∨ 2 ≤ plan.length) := by
  constructor
  · rintro ⟨t, h⟩
    cases h with
    | custom r hone =>
      rintro (htwo | htwo)
      · exact absurd htwo (by simp)
      · omega
    | plan | builtin => simp
  · intro h
    -- a tier has no rule, one rule, or two and more, and the last is the clash
    match custom, plan with
    | [], [] => exact ⟨_, .builtin⟩
    | [], [r] => exact ⟨_, .plan r⟩
    | [], _ :: _ :: _ => exact absurd (.inr (by simp)) h
    | [r], plan => exact ⟨_, .custom r (by rw [not_or, not_le, not_le] at h; omega)⟩
    | _ :: _ :: _, _ => exact absurd (.inl (by simp)) h

/-- The targets of rules come to a type iff the rules choose it. -/
theorem choice_eq_ok_iff :
    choice name m (custom.map CustomRule.targetType) (plan.map PlanRule.targetType) = .ok t ↔
      Chosen m custom plan t := by
  constructor
  · intro h
    match custom, plan with
    | [], [] => cases h; exact .builtin
    | [], [r] => cases h; exact .plan r
    | [r], [] => cases h; exact .custom r (Nat.zero_le 1)
    | [r], [r'] => cases h; exact .custom r (Nat.le_refl 1)
    | [], _ :: _ :: _ => cases h
    | [_], _ :: _ :: _ => cases h
    | _ :: _ :: _, _ => cases h
  · intro h
    cases h with
    | builtin => rfl
    | plan => rfl
    | custom r hone =>
      -- one plan rule beside the custom one is passed over without a word
      match plan with
      | [] => rfl
      | [_] => rfl
      | _ :: _ :: _ => exact absurd hone (by simp)

/-- In a clash the targets of both tiers are reported, those of the other tier too. -/
theorem choice_eq_error (h : 2 ≤ custom.length ∨ 2 ≤ plan.length) :
    choice name m (custom.map CustomRule.targetType) (plan.map PlanRule.targetType) =
      .error (.conflictingOverrides name m.origin (custom.map CustomRule.targetType)
        (plan.map PlanRule.targetType)) := by
  match custom, plan with
  | [], [] => exact absurd h (by simp)
  | [], [_] => exact absurd h (by simp)
  | [_], [] => exact absurd h (by simp)
  | [_], [_] => exact absurd h (by simp)
  | [], _ :: _ :: _ => rfl
  | [_], _ :: _ :: _ => rfl
  | _ :: _ :: _, _ => rfl

/-- The order of the rules does not matter. -/
theorem Chosen.perm (h : Chosen m custom plan t) (hcustom : custom.Perm custom')
    (hplan : plan.Perm plan') : Chosen m custom' plan' t := by
  -- a tier of at most one rule has only one order
  cases h with
  | custom r hone =>
    obtain rfl := List.perm_singleton.mp hcustom.symm
    exact .custom r (hplan.length_eq ▸ hone)
  | plan r =>
    obtain rfl := List.perm_nil.mp hcustom.symm
    obtain rfl := List.perm_singleton.mp hplan.symm
    exact .plan r
  | builtin =>
    obtain rfl := List.perm_nil.mp hcustom.symm
    obtain rfl := List.perm_nil.mp hplan.symm
    exact .builtin

end

/-! ## Numbers -/

variable {c : Column} {a : TypeAttributes} {field : NumericField} {text : String}

/-- A numeral is read iff it writes an integer of 64 bits, blanks around it apart. -/
theorem Column.number_eq_ok_iff {i : Int} :
    c.number table field text = .ok i ↔ Text.WritesInt64 (Text.trim text) i := by
  rw [← Text.readInt64?_eq_some_iff, Column.number]
  cases Text.readInt64? (Text.trim text) with
  | none => exact ⟨nofun, nofun⟩
  | some j => exact ⟨fun h => by cases h; rfl, fun h => by cases h; rfl⟩

/-- Any other numeral is reported as it stands. -/
theorem Column.number_eq_error (h : ∀ i, ¬ Text.WritesInt64 (Text.trim text) i) :
    c.number table field text = .error (.malformedNumeric table c.name field text) := by
  cases hnumber : c.number table field text with
  | ok i => exact absurd (number_eq_ok_iff.mp hnumber) (h i)
  | error f =>
    unfold Column.number at hnumber
    split at hnumber
    · cases hnumber
    · cases hnumber
      rfl

/-- All three numerals are read iff they are the numbers of the column. -/
theorem Column.attributes_eq_ok_iff : c.attributes table = .ok a ↔ c.Numbers a := by
  constructor
  · intro h
    obtain ⟨length, hlength, h⟩ := bind_eq_ok_iff.mp h
    obtain ⟨precision, hprecision, h⟩ := bind_eq_ok_iff.mp h
    obtain ⟨scale, hscale, h⟩ := bind_eq_ok_iff.mp h
    cases h
    exact ⟨number_eq_ok_iff.mp hlength, number_eq_ok_iff.mp hprecision, number_eq_ok_iff.mp hscale⟩
  · rintro ⟨hlength, hprecision, hscale⟩
    exact bind_eq_ok_iff.mpr ⟨_, number_eq_ok_iff.mpr hlength, bind_eq_ok_iff.mpr
      ⟨_, number_eq_ok_iff.mpr hprecision, bind_eq_ok_iff.mpr
        ⟨_, number_eq_ok_iff.mpr hscale, rfl⟩⟩⟩

/-- Of several malformed numerals the first one is reported. -/
theorem Column.FirstMalformed.attributes_eq (h : c.FirstMalformed field text) :
    c.attributes table = .error (.malformedNumeric table c.name field text) := by
  obtain ⟨before, after, heq, hbefore, hbad⟩ := h
  -- the numerals before the first malformed one are read
  have hread : ∀ x ∈ before, ∃ i, c.number table x.1 x.2 = .ok i := fun x hx =>
    (hbefore x hx).imp fun i hi => number_eq_ok_iff.mpr hi
  have herror : c.number table field text = _ := number_eq_error hbad
  -- there are three numerals, so at most two of them stand before this one
  match before with
  | [] =>
    obtain ⟨⟨rfl, rfl⟩, -⟩ := by simpa [numerals] using heq
    simp only [Column.attributes, bind, Except.bind, herror]
  | [x] =>
    obtain ⟨rfl, ⟨rfl, rfl⟩, -⟩ := by simpa [numerals] using heq
    obtain ⟨_, hlength⟩ := hread _ (List.mem_singleton_self _)
    simp only [Column.attributes, bind, Except.bind, hlength, herror]
  | [x, y] =>
    obtain ⟨rfl, rfl, ⟨rfl, rfl⟩, -⟩ := by simpa [numerals] using heq
    obtain ⟨_, hlength⟩ := hread _ (List.mem_cons_self ..)
    obtain ⟨_, hprecision⟩ := hread _ (List.mem_cons_of_mem _ (List.mem_cons_self ..))
    simp only [Column.attributes, bind, Except.bind, hlength, hprecision, herror]
  | _ :: _ :: _ :: _ => simp [numerals] at heq

/-- A column has a first numeral that is no integer, or all of its numbers. -/
theorem Column.firstMalformed_or_numbers (c : Column) :
    (∃ field text, c.FirstMalformed field text) ∨ ∃ a, c.Numbers a := by
  -- the numerals are tried in the order in which they are read
  by_cases hlength : ∃ i, Text.WritesInt64 (Text.trim c.length) i
  · by_cases hprecision : ∃ i, Text.WritesInt64 (Text.trim c.precision) i
    · by_cases hscale : ∃ i, Text.WritesInt64 (Text.trim c.scale) i
      · obtain ⟨l, hl⟩ := hlength
        obtain ⟨p, hp⟩ := hprecision
        obtain ⟨s, hs⟩ := hscale
        exact .inr ⟨⟨l, p, s⟩, hl, hp, hs⟩
      · exact .inl ⟨.scale, c.scale, [(.length, c.length), (.precision, c.precision)], [], rfl,
          by simpa using ⟨hlength, hprecision⟩, not_exists.mp hscale⟩
    · exact .inl ⟨.precision, c.precision, [(.length, c.length)], [(.scale, c.scale)], rfl,
        by simpa using hlength, not_exists.mp hprecision⟩
  · exact .inl ⟨.length, c.length, [], [(.precision, c.precision), (.scale, c.scale)], rfl,
      nofun, not_exists.mp hlength⟩

/-! ## Columns -/

/-- For a column with numbers the type is a choice between the targets that apply. -/
theorem Column.resolve_eq_choice (h : c.Numbers a) :
    c.resolve table rules = choice c.name (builtinType c.dataType a)
      ((rules.customFor table c.name (builtinType c.dataType a).origin).map CustomRule.targetType)
      ((rules.planFor (builtinType c.dataType a).origin).map PlanRule.targetType) := by
  unfold Column.resolve
  rw [attributes_eq_ok_iff.mpr h, ← OverrideRules.customTargets_eq,
    ← OverrideRules.planTargets_eq]
  rfl

theorem Column.resolve_eq_ok_iff (h : c.Numbers a) {t : ResolvedType} :
    c.resolve table rules = .ok t ↔
      Chosen (builtinType c.dataType a)
        (rules.customFor table c.name (builtinType c.dataType a).origin)
        (rules.planFor (builtinType c.dataType a).origin) t := by
  rw [resolve_eq_choice h, choice_eq_ok_iff]

/-- **A column whose numerals are not all integers is an error for the first that is none.
Otherwise two rules of one tier that apply are a conflict, and without one the custom rule that
applies is chosen, or else the plan rule, or else the built-in type. The order of the rules, and
rules that do not apply, change nothing.** -/
theorem Column.resolve_spec (c : Column) (table : String) :
    (∀ field text, c.FirstMalformed field text → ∀ rules : OverrideRules,
      c.resolve table rules = .error (.malformedNumeric table c.name field text)) ∧
    ((∃ field text, c.FirstMalformed field text) ∨ ∃ a, c.Numbers a) ∧
    ∀ a, c.Numbers a → ∀ m, builtinType c.dataType a = m → ∀ rules : OverrideRules,
      (c.resolve table rules = .error (.conflictingOverrides c.name m.origin
          ((rules.customFor table c.name m.origin).map CustomRule.targetType)
          ((rules.planFor m.origin).map PlanRule.targetType)) ↔
        rules.Clash table c.name m.origin) ∧
      ((∃ t, c.resolve table rules = .ok t) ↔ ¬ rules.Clash table c.name m.origin) ∧
      (∀ t, c.resolve table rules = .ok t ↔
        Chosen m (rules.customFor table c.name m.origin) (rules.planFor m.origin) t) ∧
      ∀ rules', rules.AlikeFor rules' table c.name m.origin → ∀ t,
        (c.resolve table rules = .ok t ↔ c.resolve table rules' = .ok t) := by
  refine ⟨fun field text h rules => ?_, c.firstMalformed_or_numbers, ?_⟩
  · unfold Column.resolve
    rw [h.attributes_eq]
    rfl
  rintro a h _ rfl rules
  have hsome : (∃ t, c.resolve table rules = .ok t) ↔
      ¬ rules.Clash table c.name (builtinType c.dataType a).origin :=
    (exists_congr fun t => resolve_eq_ok_iff h).trans exists_chosen_iff
  refine ⟨⟨fun herror => ?_, fun hclash => ?_⟩, hsome, fun t => resolve_eq_ok_iff h,
    fun rules' halike t => ?_⟩
  · -- without a clash there would be a type and not a fault
    by_contra hno
    obtain ⟨t, ht⟩ := hsome.mpr hno
    rw [herror] at ht
    cases ht
  · rw [resolve_eq_choice h, choice_eq_error hclash]
  · rw [resolve_eq_ok_iff h, resolve_eq_ok_iff h]
    exact ⟨fun ht => ht.perm halike.customFor halike.planFor,
      fun ht => ht.perm halike.customFor.symm halike.planFor.symm⟩

/-- Two plan rules apart from their order and a rule that does not apply, a clash of two equal
rules, and a malformed numeral that is reported before the clash. -/
theorem Column.resolve_rearranged_rules :
    let c : Column := { name := "ID", dataType := "NUMBER", length := "22", precision := " 10 " }
    let malformed : Column := { c with precision := "ten", scale := "two" }
    let big : PlanRule := ⟨"number( 10 )", " BIGINT "⟩
    let blank : PlanRule := ⟨"NUMBER(10)", " "⟩
    let int : CustomRule := { column := " id", sourceType := "NUMBER(10)", targetType := "INT " }
    let other : CustomRule := { int with column := "NO" }
    c.resolve "T" ⟨[big], [other, int]⟩ = .ok ⟨"NUMBER(10)", "BIGINT", "INT", .custom⟩ ∧
      c.resolve "T" ⟨[blank, big], [int]⟩ = .ok ⟨"NUMBER(10)", "BIGINT", "INT", .custom⟩ ∧
      c.resolve "T" ⟨[big, big], [int]⟩ =
        .error (.conflictingOverrides "ID" "NUMBER(10)" ["INT "] [" BIGINT ", " BIGINT "]) ∧
      malformed.resolve "T" ⟨[big, big], [int]⟩ =
        .error (.malformedNumeric "T" "ID" .precision "ten") := by
  intro c malformed big blank int other
  have hnumbers : c.Numbers ⟨22, 10, 0⟩ :=
    ⟨Text.readInt64?_eq_some_iff.mp (by decide +kernel),
      Text.readInt64?_eq_some_iff.mp (by decide +kernel),
      Text.readInt64?_eq_some_iff.mp (by decide +kernel)⟩
  have hmalformed : malformed.FirstMalformed .precision "ten" := by
    refine ⟨[(.length, "22")], [(.scale, "two")], rfl, fun x hx => ?_, fun i hi => ?_⟩
    · obtain rfl := List.mem_singleton.mp hx
      exact ⟨22, Text.readInt64?_eq_some_iff.mp (by decide +kernel)⟩
    · have hread := Text.readInt64?_eq_some_iff.mpr hi
      rw [show Text.readInt64? (Text.trim "ten") = none by decide +kernel] at hread
      cases hread
  have halike : OverrideRules.AlikeFor ⟨[big], [other, int]⟩ ⟨[blank, big], [int]⟩ "T" "ID"
      "NUMBER(10)" :=
    ⟨⟨[], [other], .swap _ _ _, by decide +kernel⟩, ⟨[blank], [], .swap _ _ _, by decide +kernel⟩⟩
  have hresolve := (c.resolve_spec "T").2.2 _ hnumbers ⟨"NUMBER(10)", "BIGINT"⟩ (by decide +kernel)
  obtain ⟨-, -, hok, halike'⟩ := hresolve ⟨[big], [other, int]⟩
  have hchosen : Chosen ⟨"NUMBER(10)", "BIGINT"⟩ [int] [big]
      ⟨"NUMBER(10)", "BIGINT", Text.trim int.targetType, .custom⟩ := .custom int (Nat.le_refl 1)
  rw [show Text.trim int.targetType = "INT" by decide +kernel] at hchosen
  have hint := (hok ⟨"NUMBER(10)", "BIGINT", "INT", .custom⟩).mpr (by
    rw [show OverrideRules.customFor ⟨[big], [other, int]⟩ "T" c.name "NUMBER(10)" = [int] by
        decide +kernel,
      show OverrideRules.planFor ⟨[big], [other, int]⟩ "NUMBER(10)" = [big] by decide +kernel]
    exact hchosen)
  have hconflict := (hresolve ⟨[big, big], [int]⟩).1.mpr (.inr (by decide +kernel))
  rw [show OverrideRules.customFor ⟨[big, big], [int]⟩ "T" c.name "NUMBER(10)" = [int] by
      decide +kernel,
    show OverrideRules.planFor ⟨[big, big], [int]⟩ "NUMBER(10)" = [big, big] by
      decide +kernel] at hconflict
  exact ⟨hint, (halike' _ halike _).mp hint, hconflict,
    (malformed.resolve_spec "T").1 _ _ hmalformed _⟩

end CatalogDdl
