import CatalogDdl.Proofs.OverrideRules

/-!
# What is wrong with a table

A table can have many defects at once, and a synthesis fails with the first of them. Which
ones a table has is read here from the catalog and the override rules alone, all of them,
in the order in which they are found. What else is asked for (the target, the version of
the server, unique and foreign keys, checks) does not come up in the list.

- `FailsByFirst`: an attempt fails with the first of some defects, or succeeds if there are
  none. Attempts one after the other have the defects of the one and then of the other.
- `Index.defects`, `Column.defects`, `Request.defects`: the defects of an index, a column
  and a table.
- `Index.Acceptable`, `Request.Acceptable`: an index and a table without defects.
- `Request.failsByFirst_synthesize`: a synthesis fails with the first defect.
- `Request.synthesize_rejects`: which tables are rejected, and why.
-/

namespace CatalogDdl

open Ddl

/-! ## The first of several defects -/

section
variable {α β : Type} {x : Except Fault α} {fs gs : List Fault}

/-- An attempt fails with the first of some defects, or succeeds if there are none. -/
def FailsByFirst (x : Except Fault α) : List Fault → Prop
  | [] => ∃ a, x = .ok a
  | f :: _ => x = .error f

/-- An attempt succeeds iff there are no defects. -/
theorem FailsByFirst.ok_iff (h : FailsByFirst x fs) : (∃ a, x = .ok a) ↔ fs = [] := by
  cases fs with
  | nil => exact iff_of_true h rfl
  | cons f fs =>
    have herror : x = .error f := h
    rw [herror]
    exact iff_of_false (fun ⟨_, h⟩ => nomatch h) (List.cons_ne_nil f fs)

/-- It fails with a fault iff that is the first defect. -/
theorem FailsByFirst.error_iff (h : FailsByFirst x fs) {f : Fault} :
    x = .error f ↔ fs.head? = some f := by
  cases fs with
  | nil =>
    obtain ⟨a, rfl⟩ := h
    exact iff_of_false nofun nofun
  | cons g fs =>
    have herror : x = .error g := h
    rw [herror, List.head?_cons, Except.error.injEq, Option.some.injEq]

/-- The defects of the first attempt come before those of the second one. -/
theorem FailsByFirst.bind {k : α → Except Fault β} (hx : FailsByFirst x fs)
    (hk : ∀ a, x = .ok a → FailsByFirst (k a) gs) : FailsByFirst (x >>= k) (fs ++ gs) := by
  cases fs with
  | nil =>
    obtain ⟨a, rfl⟩ := hx
    exact hk a rfl
  | cons f fs =>
    have herror : x = .error f := hx
    rw [herror]
    rfl

/-- What is made of the result of an attempt does not matter. -/
theorem FailsByFirst.bind_pure (hx : FailsByFirst x fs) (g : α → β) :
    FailsByFirst (x >>= fun a => pure (g a)) fs := by
  have h : FailsByFirst (x >>= fun a => pure (g a)) (fs ++ []) := hx.bind fun a _ => ⟨g a, rfl⟩
  rwa [List.append_nil] at h

/-- The defects of a list are those of its elements, in order. -/
theorem FailsByFirst.mapM {k : α → Except Fault β} {defects : α → List Fault}
    (h : ∀ a, FailsByFirst (k a) (defects a)) (xs : List α) :
    FailsByFirst (xs.mapM k) (xs.flatMap defects) := by
  -- the elements are attempted in order, and the first defect ends it
  induction xs with
  | nil => exact ⟨[], rfl⟩
  | cons a xs ih =>
    rw [List.mapM_cons, List.flatMap_cons]
    exact (h a).bind fun b _ => ih.bind_pure fun bs => b :: bs

/-- A defect that is there unless something holds. -/
def Fault.unless (f : Fault) (p : Prop) [Decidable p] : List Fault := if p then [] else [f]

theorem Fault.unless_eq_nil_iff {f : Fault} {p : Prop} [Decidable p] : f.unless p = [] ↔ p := by
  by_cases h : p <;> simp [Fault.unless, h]

theorem Fault.mem_unless_iff {f g : Fault} {p : Prop} [Decidable p] :
    g ∈ f.unless p ↔ ¬ p ∧ g = f := by
  by_cases h : p <;> simp [Fault.unless, h]

end

/-! ## Indexes -/

/-- Whether an index has something to index: a column or an expression that is not blank. -/
def Index.HasPosition (i : Index) : Prop := ∃ s ∈ i.columns ++ i.expressions, Text.trim s ≠ ""

instance (i : Index) : Decidable i.HasPosition :=
  inferInstanceAs (Decidable (∃ s ∈ i.columns ++ i.expressions, Text.trim s ≠ ""))

/-- An index that the look for a uniqueness found, without defects. -/
structure Index.Acceptable (i : Index) (expected : Uniqueness) : Prop where
  uniqueness : i.uniqueness = expected
  position : i.HasPosition
  kind : i.kind.isKnown = true

/-- The defects of an index that the look for a uniqueness found. -/
def Index.defects (i : Index) (table : String) (expected : Uniqueness) : List Fault :=
  (Fault.uniquenessMismatch table i.name expected i.uniqueness).unless (i.uniqueness = expected)
  ++ (Fault.emptyIndex table i.name).unless i.HasPosition
  ++ (Fault.unsupportedIndex table i.name i.kind.text (Text.joinWith "," i.keyTexts)).unless
    (i.kind.isKnown = true)

/-- An index without defects is an acceptable one. -/
theorem Index.defects_eq_nil_iff {i : Index} {table : String} {expected : Uniqueness} :
    i.defects table expected = [] ↔ i.Acceptable expected := by
  rw [Index.defects, List.append_eq_nil_iff, List.append_eq_nil_iff, Fault.unless_eq_nil_iff,
    Fault.unless_eq_nil_iff, Fault.unless_eq_nil_iff]
  exact ⟨fun ⟨⟨huniqueness, hposition⟩, hkind⟩ => ⟨huniqueness, hposition, hkind⟩,
    fun h => ⟨⟨h.uniqueness, h.position⟩, h.kind⟩⟩

/-- A column and an expression in the same place make no position iff both are blank. -/
theorem keyPart?_eq_none_iff {column expression : String} :
    keyPart? column expression = none ↔ Text.trim column = "" ∧ Text.trim expression = "" := by
  rw [Text.trim_eq_empty_iff, Text.trim_eq_empty_iff, keyPart?]
  cases Text.isBlankText expression <;> cases Text.isBlankText column <;> simp

theorem toList_keyPart?_eq_nil_iff {column expression : String} :
    (keyPart? column expression).toList = [] ↔
      Text.trim column = "" ∧ Text.trim expression = "" := by
  rw [Option.toList_eq_nil_iff, keyPart?_eq_none_iff]

/-- Two lists have no positions iff they hold nothing but blank texts. -/
theorem keyPartsOf_eq_nil_iff {columns expressions : List String} :
    keyPartsOf columns expressions = [] ↔
      (∀ c ∈ columns, Text.trim c = "") ∧ ∀ e ∈ expressions, Text.trim e = "" := by
  -- the lists may differ in length; what is missing at the end of one counts as blank
  fun_induction keyPartsOf columns expressions with
  | case1 es =>
    rw [List.filterMap_eq_nil_iff]
    exact ⟨fun h => ⟨nofun, fun e he => (keyPart?_eq_none_iff.mp (h e he)).2⟩,
      fun h e he => keyPart?_eq_none_iff.mpr ⟨Text.trim_empty, h.2 e he⟩⟩
  | case2 c cs ih =>
    rw [List.append_eq_nil_iff, toList_keyPart?_eq_nil_iff, ih, List.forall_mem_cons]
    exact ⟨fun ⟨⟨hc, _⟩, hcs, hnil⟩ => ⟨⟨hc, hcs⟩, hnil⟩,
      fun ⟨⟨hc, hcs⟩, hnil⟩ => ⟨⟨hc, Text.trim_empty⟩, hcs, hnil⟩⟩
  | case3 c cs e es ih =>
    rw [List.append_eq_nil_iff, toList_keyPart?_eq_nil_iff, ih, List.forall_mem_cons,
      List.forall_mem_cons]
    exact and_and_and_comm

/-- An index has no positions iff it has nothing to index. -/
theorem Index.keyParts_isEmpty_iff {i : Index} : i.keyParts.isEmpty = true ↔ ¬ i.HasPosition := by
  rw [List.isEmpty_iff, Index.keyParts, keyPartsOf_eq_nil_iff, ← List.forall_mem_append,
    Index.HasPosition]
  exact ⟨fun h ⟨s, hs, hne⟩ => hne (h s hs), fun h s hs => not_not.mp fun hne => h ⟨s, hs, hne⟩⟩

/-- The statement of an index fails with the first of its defects. -/
theorem Index.failsByFirst_statement (i : Index) (table : String) (t : TargetTable)
    (expected : Uniqueness) :
    FailsByFirst (i.statement table t expected) (i.defects table expected) := by
  unfold Index.statement Index.defects Fault.unless
  -- the three tests are made in this order, and each is a defect of its own
  by_cases huniqueness : i.uniqueness = expected
  · rw [if_neg (not_not_intro huniqueness), if_pos huniqueness]
    by_cases hposition : i.HasPosition
    · rw [if_neg (mt Index.keyParts_isEmpty_iff.mp (not_not_intro hposition)), if_pos hposition]
      cases hkind : i.kind with
      | normal | functionBased | bitmap => exact ⟨_, rfl⟩
      | other kind => rfl
    · rw [if_pos (Index.keyParts_isEmpty_iff.mpr hposition), if_neg hposition]
      rfl
  · rw [if_pos huniqueness, if_neg huniqueness]
    rfl

/-- The defects of an index reach as far as its table. -/
theorem Index.scope_of_mem_defects {i : Index} {table : String} {expected : Uniqueness} {f : Fault}
    (h : f ∈ i.defects table expected) : f.scope = .table := by
  simp only [Index.defects, List.mem_append, Fault.mem_unless_iff] at h
  obtain (⟨-, rfl⟩ | ⟨-, rfl⟩) | ⟨-, rfl⟩ := h <;> rfl

/-! ## Columns -/

/-- Whether a cause is a conflict of rules. -/
def Fault.IsConflict (f : Fault) : Prop :=
  ∃ column sourceType custom plan, f = .conflictingOverrides column sourceType custom plan

/-- A cause that reaches as far as its table is no conflict of rules. -/
theorem Fault.not_isConflict_of_scope {f : Fault} (h : f.scope = .table) : ¬ f.IsConflict := by
  rintro ⟨column, sourceType, custom, plan, rfl⟩
  cases h

/-- The defect of a column is that its type cannot be resolved. -/
def Column.defects (c : Column) (table : String) (rules : OverrideRules) : List Fault :=
  match c.resolve table rules with
  | .ok _ => []
  | .error f => [f]

/-- A type fails to be resolved with the one defect that there is. -/
theorem Column.failsByFirst_resolve (c : Column) (table : String) (rules : OverrideRules) :
    FailsByFirst (c.resolve table rules) (c.defects table rules) := by
  unfold Column.defects
  cases c.resolve table rules with
  | ok t => exact ⟨t, rfl⟩
  | error f => rfl

theorem Column.defects_eq_nil_iff {c : Column} {table : String} {rules : OverrideRules} :
    c.defects table rules = [] ↔ ∃ t, c.resolve table rules = .ok t :=
  (c.failsByFirst_resolve table rules).ok_iff.symm

/-- A type cannot be resolved because of a number or because of the rules. -/
theorem Column.scope_of_mem_defects {c : Column} {table : String} {rules : OverrideRules}
    {f : Fault} (h : f ∈ c.defects table rules) : f.scope = .run ↔ f.IsConflict := by
  unfold Column.defects at h
  -- a malformed number comes before the rules are looked at
  rcases c.firstMalformed_or_numbers with ⟨field, text, hmalformed⟩ | ⟨a, hnumbers⟩
  · unfold Column.resolve at h
    rw [hmalformed.attributes_eq] at h
    obtain rfl := List.mem_singleton.mp h
    exact iff_of_false nofun (Fault.not_isConflict_of_scope rfl)
  · rw [Column.resolve_eq_choice hnumbers] at h
    by_cases hclash : rules.Clash table c.name (builtinType c.dataType a).origin
    · rw [choice_eq_error hclash] at h
      obtain rfl := List.mem_singleton.mp h
      exact iff_of_true rfl ⟨_, _, _, _, rfl⟩
    · obtain ⟨t, ht⟩ := exists_chosen_iff.mpr hclash
      rw [choice_eq_ok_iff.mpr ht] at h
      cases h

/-! ## Tables -/

namespace Ddl.Request

variable (r : Request)

/-- The defects of a table, in the order in which they are found. -/
def defects : List Fault :=
  (Fault.emptyTable r.sourceSchema r.table.name).unless (r.table.columns ≠ [])
  ++ ((Fault.ambiguousTableComment r.sourceSchema r.table.name r.table.comments).unless
      (r.table.comments.length ≤ 1)
  ++ (r.table.columns.flatMap (·.defects r.table.name r.rules)
  ++ ((Fault.ambiguousPrimaryKey r.sourceSchema r.table.name
        (r.table.primaryKeys.map shownKey)).unless (r.table.primaryKeys.length ≤ 1)
  ++ (r.table.uniqueIndexes.flatMap (·.defects r.table.name .unique)
  ++ r.table.normalIndexes.flatMap (·.defects r.table.name .nonunique)))))

/-- A table without defects. -/
structure Acceptable : Prop where
  columns : r.table.columns ≠ []
  comments : r.table.comments.length ≤ 1
  types : ∀ c ∈ r.table.columns, ∃ t, c.resolve r.table.name r.rules = .ok t
  primaryKeys : r.table.primaryKeys.length ≤ 1
  unique : ∀ i ∈ r.table.uniqueIndexes, i.Acceptable .unique
  nonunique : ∀ i ∈ r.table.normalIndexes, i.Acceptable .nonunique

/-- A table without defects is an acceptable one. -/
theorem defects_eq_nil_iff : r.defects = [] ↔ r.Acceptable := by
  simp only [defects, List.append_eq_nil_iff, Fault.unless_eq_nil_iff, List.flatMap_eq_nil_iff,
    Column.defects_eq_nil_iff, Index.defects_eq_nil_iff]
  exact ⟨fun ⟨hcolumns, hcomments, htypes, hkeys, hunique, hnonunique⟩ =>
      ⟨hcolumns, hcomments, htypes, hkeys, hunique, hnonunique⟩,
    fun h => ⟨h.columns, h.comments, h.types, h.primaryKeys, h.unique, h.nonunique⟩⟩

/-- Of all defects of a table only conflicts of rules reach further than the table. -/
theorem scope_of_mem_defects {f : Fault} (h : f ∈ r.defects) : f.scope = .run ↔ f.IsConflict := by
  -- every defect but that of a column is one of the table by its kind
  have htable : f.scope = .table → (f.scope = .run ↔ f.IsConflict) := fun htable =>
    iff_of_false (fun hrun => by rw [htable] at hrun; cases hrun)
      (Fault.not_isConflict_of_scope htable)
  simp only [defects, List.mem_append, Fault.mem_unless_iff, List.mem_flatMap] at h
  obtain ⟨-, rfl⟩ | ⟨-, rfl⟩ | ⟨c, -, h⟩ | ⟨-, rfl⟩ | ⟨i, -, h⟩ | ⟨i, -, h⟩ := h
  · exact htable rfl
  · exact htable rfl
  · exact Column.scope_of_mem_defects h
  · exact htable rfl
  · exact htable (Index.scope_of_mem_defects h)
  · exact htable (Index.scope_of_mem_defects h)

/-! ### One step of a synthesis -/

theorem failsByFirst_requireColumns : FailsByFirst r.requireColumns
    ((Fault.emptyTable r.sourceSchema r.table.name).unless (r.table.columns ≠ [])) := by
  unfold requireColumns
  cases r.table.columns with
  | nil => rfl
  | cons c cs => exact ⟨(), rfl⟩

theorem failsByFirst_comment : FailsByFirst r.comment
    ((Fault.ambiguousTableComment r.sourceSchema r.table.name r.table.comments).unless
      (r.table.comments.length ≤ 1)) := by
  unfold comment
  match r.table.comments with
  | [] | [c] => exact ⟨_, rfl⟩
  | _ :: _ :: _ => rfl

/-- The clauses of the columns fail like the types of the columns. -/
theorem failsByFirst_columns : FailsByFirst (r.table.columns.mapM r.columnClause)
    (r.table.columns.flatMap (·.defects r.table.name r.rules)) :=
  .mapM (fun c => (c.failsByFirst_resolve r.table.name r.rules).bind_pure _) _

theorem failsByFirst_primaryKey : FailsByFirst r.primaryKey
    ((Fault.ambiguousPrimaryKey r.sourceSchema r.table.name
      (r.table.primaryKeys.map shownKey)).unless (r.table.primaryKeys.length ≤ 1)) := by
  unfold primaryKey
  match r.table.primaryKeys with
  | [] | [k] => exact ⟨_, rfl⟩
  | _ :: _ :: _ => rfl

/-- The statements of indexes that were found for a uniqueness fail like each of them. -/
theorem failsByFirst_indexStatements (expected : Uniqueness) (indexes : List Index) :
    FailsByFirst (r.indexStatements expected indexes)
      (indexes.flatMap (·.defects r.table.name expected)) :=
  .mapM (fun i => i.failsByFirst_statement r.table.name r.target expected) indexes

/-! ### All steps of a synthesis -/

/-- A synthesis fails with the first defect of its table. -/
theorem failsByFirst_synthesize : FailsByFirst r.synthesize r.defects :=
  r.failsByFirst_requireColumns.bind fun _ _ =>
    r.failsByFirst_comment.bind fun _ _ =>
      r.failsByFirst_columns.bind fun _ _ =>
        r.failsByFirst_primaryKey.bind fun _ _ =>
          (r.failsByFirst_indexStatements .unique r.table.uniqueIndexes).bind fun _ _ =>
            (r.failsByFirst_indexStatements .nonunique r.table.normalIndexes).bind_pure _

/-- **A table has a bundle iff it has no defects, and fails with the first one otherwise. The
fault concerns the run only if it is a conflict of rules. What is asked for besides, and keys
and checks other than the primary key, change nothing about this.** -/
theorem synthesize_rejects (r : Request) :
    ((∃ b, r.synthesize = .ok b) ↔ r.Acceptable) ∧
    (∀ f, r.synthesize = .error f ↔ r.defects.head? = some f) ∧
    (∀ f, r.synthesize = .error f → (f.scope = .run ↔ f.IsConflict)) ∧
    ∀ targetSchema targetTable tableOption version uniqueKeys foreignKeys checks f,
      ({ r with targetSchema, targetTable, tableOption, version,
                table := { r.table with uniqueKeys, foreignKeys, checks } } : Request).synthesize
          = .error f ↔ r.synthesize = .error f := by
  refine ⟨r.failsByFirst_synthesize.ok_iff.trans r.defects_eq_nil_iff,
    fun f => r.failsByFirst_synthesize.error_iff, fun f h => ?_,
    fun targetSchema targetTable tableOption version uniqueKeys foreignKeys checks f => ?_⟩
  · have hfirst := r.failsByFirst_synthesize.error_iff.mp h
    exact r.scope_of_mem_defects (List.mem_of_head? hfirst)
  · -- the list of defects does not read what is changed
    rw [(failsByFirst_synthesize _).error_iff, r.failsByFirst_synthesize.error_iff]
    rfl

/-- A table with five defects fails with the conflict of rules, which comes first. -/
theorem synthesize_many_defects :
    let rule : PlanRule := ⟨"NUMBER(10)", "BIGINT"⟩
    let index : Index := ⟨"UX", .nonunique, .other "DOMAIN", [" "], []⟩
    let r : Request := { orders with
      rules := ⟨[rule, rule], []⟩
      table := { ordersTable with
        primaryKeys := [⟨"A", ["ID"]⟩, ⟨"B", ["NO"]⟩], uniqueIndexes := [index] } }
    let f : Fault := .conflictingOverrides "ID" "NUMBER(10)" [] ["BIGINT", "BIGINT"]
    r.defects = [f, .ambiguousPrimaryKey "MARVIN" "ORDERS" ["A(ID)", "B(NO)"],
        .uniquenessMismatch "ORDERS" "UX" .unique .nonunique, .emptyIndex "ORDERS" "UX",
        .unsupportedIndex "ORDERS" "UX" "DOMAIN" ""] ∧
      r.synthesize = .error f ∧ ¬ r.Acceptable ∧ f.scope = .run := by
  intro rule index r f
  obtain ⟨hok, herror, hscope, -⟩ := r.synthesize_rejects
  have hfault : r.synthesize = .error f := (herror f).mpr (by decide +kernel)
  refine ⟨by decide +kernel, hfault, fun h => ?_, (hscope f hfault).mpr ⟨_, _, _, _, rfl⟩⟩
  obtain ⟨b, hb⟩ := hok.mpr h
  rw [hfault] at hb
  cases hb

end Ddl.Request

end CatalogDdl
