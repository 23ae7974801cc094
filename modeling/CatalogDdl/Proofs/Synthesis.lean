import CatalogDdl.Ddl.Synthesis
import Mathlib.Data.List.Forall2

/-!
# The two halves of a synthesis

A synthesis first works out everything that can fail, and then gives every
statement its script. Only the second half reads the version of the server, and
it cannot fail. Facts about where statements go are therefore facts about the
second half alone.

- `Parts`, `Request.parts`: what the first half works out.
- `Request.place`: the second half, a bundle for every outcome of the first.
- `Request.synthesize_eq`: a synthesis is the one after the other.
- `Index.sql`, `Index.written`: the statement of an index, and the same with the
  warning that comes with it. Unlike `Index.statement` they always have a value,
  so that lists of them are `List.map`s.
- `Request.parts_indexes`: the first half succeeds only if every index is of a
  known kind, and then it has the written form of each, in order.
- `Request.toReview`: the objects that have to be reviewed, kind by kind.
- `Request.synthesize_primary`, `Request.synthesize_groups`,
  `Request.synthesize_warnings`: what is where in the bundle of a table.
-/

namespace CatalogDdl

/-- Two steps succeed one after the other iff the first one does and the second
one does with its result. -/
theorem bind_eq_ok_iff {α β ε : Type} {x : Except ε α} {f : α → Except ε β} {b : β} :
    x >>= f = .ok b ↔ ∃ a, x = .ok a ∧ f a = .ok b := by
  cases x with
  | error e =>
    constructor
    · intro h
      cases h
    · rintro ⟨a, ha, -⟩
      cases ha
  | ok a =>
    constructor
    · intro h
      exact ⟨a, rfl, h⟩
    · rintro ⟨a', ha', h⟩
      cases ha'
      exact h

/-- Going through a list succeeds iff every element of it does, and the result
has the results of the elements, in order. -/
theorem mapM_eq_ok_iff {α β ε : Type} {f : α → Except ε β} :
    ∀ {xs : List α} {ys : List β},
      xs.mapM f = .ok ys ↔ List.Forall₂ (fun x y => f x = .ok y) xs ys
  | [], ys => by
    rw [List.mapM_nil]
    show Except.ok [] = Except.ok ys ↔ _
    rw [List.forall₂_nil_left_iff, Except.ok.injEq, eq_comm]
  | x :: xs, ys => by
    rw [List.mapM_cons, bind_eq_ok_iff]
    constructor
    · rintro ⟨y, hx, h⟩
      obtain ⟨ys', hxs, hys⟩ := bind_eq_ok_iff.mp h
      cases hys
      exact .cons hx (mapM_eq_ok_iff.mp hxs)
    · intro h
      cases h with
      | cons hx hxs => exact ⟨_, hx, bind_eq_ok_iff.mpr ⟨_, mapM_eq_ok_iff.mpr hxs, rfl⟩⟩

/-- What a member of the list gives is among the results. -/
theorem mem_of_mapM_eq_ok {α β ε : Type} {f : α → Except ε β} {xs : List α} {ys : List β} {x : α}
    {y : β} (h : xs.mapM f = .ok ys) (hx : x ∈ xs) (hy : f x = .ok y) : y ∈ ys := by
  have hall := mapM_eq_ok_iff.mp h
  clear h
  induction hall with
  | nil => cases hx
  | cons hfirst _ ih =>
    rcases List.mem_cons.mp hx with rfl | hx
    · rw [hy] at hfirst
      cases hfirst
      exact List.mem_cons_self ..
    · exact List.mem_cons_of_mem _ (ih hx)

/-- A `filterMap` that keeps what passes a test is a `map` of a `filter`. -/
theorem filterMap_eq_map_filter {α β : Type} {g : α → Option β} {p : α → Bool} {f : α → β}
    (h : ∀ a, g a = if p a then some (f a) else none) (l : List α) :
    l.filterMap g = (l.filter p).map f := by
  induction l with
  | nil => rfl
  | cons a l ih =>
    cases hp : p a with
    | false => simp [h a, hp, ih]
    | true => simp [h a, hp, ih]

/-! ## The statement of an index -/

open Ddl

/-- Whether the statement of an index of a kind has to be reviewed. -/
def IndexKind.needsReview : IndexKind → Bool
  | .functionBased => true
  | .bitmap => true
  | _ => false

/-- The CREATE INDEX statement of an index. -/
def Index.sql (i : Index) (t : TargetTable) : String :=
  match i.kind with
  | .functionBased =>
    createIndex (uniqueWord i.uniqueness) i t (Text.joinWith "," (i.keyParts.map renderKeyPart))
  | .bitmap => createIndex (uniqueWord i.uniqueness ++ "BITMAP ") i t (quoteNames i.columns)
  | _ => createIndex (uniqueWord i.uniqueness) i t (quoteNames i.columns)

/-- The warning about an index that has to be reviewed. -/
def Index.warning (i : Index) : Warning :=
  match i.kind with
  | .bitmap => ⟨.bitmapIndex, i.name, "columns: " ++ Text.joinWith ", " i.columns⟩
  | _ => ⟨.functionBasedIndex, i.name, "expressions: " ++ Text.joinWith ", " i.keyTexts⟩

/-- The statement of an index, with its warning if it has to be reviewed. -/
def Index.written (i : Index) (t : TargetTable) : IndexStatement :=
  if i.kind.needsReview then .review (i.sql t) i.warning else .portable (i.sql t)

/-- An index has a statement only if it is of the uniqueness that was looked for
and of a known kind, and then the statement is the written one. -/
theorem Index.statement_eq_ok {i : Index} {table : String} {t : TargetTable}
    {expected : Uniqueness} {s : IndexStatement} (h : i.statement table t expected = .ok s) :
    i.uniqueness = expected ∧ i.kind.isKnown = true ∧ s = i.written t := by
  unfold Index.statement at h
  split at h
  · cases h
  · rename_i hu
    have hexp : i.uniqueness = expected := Decidable.of_not_not hu
    split at h
    · cases h
    · cases hk : i.kind with
      | other kind => rw [hk] at h; cases h
      | normal | functionBased | bitmap =>
        rw [hk] at h
        cases h
        refine ⟨hexp, rfl, ?_⟩
        simp [Index.written, Index.sql, Index.warning, IndexKind.needsReview, hk, hexp]

theorem filterMap_portable_written (t : TargetTable) (is : List Index) :
    (is.map (·.written t)).filterMap IndexStatement.portable?
      = (is.filter fun i => !i.kind.needsReview).map (·.sql t) := by
  rw [List.filterMap_map]
  refine filterMap_eq_map_filter (fun i => ?_) is
  cases h : i.kind.needsReview <;> simp [Index.written, IndexStatement.portable?, h]

theorem filterMap_review_written (t : TargetTable) (is : List Index) :
    (is.map (·.written t)).filterMap IndexStatement.review?
      = (is.filter fun i => i.kind.needsReview).map (·.sql t) := by
  rw [List.filterMap_map]
  refine filterMap_eq_map_filter (fun i => ?_) is
  cases h : i.kind.needsReview <;> simp [Index.written, IndexStatement.review?, h]

theorem filterMap_warning_written (t : TargetTable) (is : List Index) :
    (is.map (·.written t)).filterMap IndexStatement.warning?
      = (is.filter fun i => i.kind.needsReview).map Index.warning := by
  rw [List.filterMap_map]
  refine filterMap_eq_map_filter (fun i => ?_) is
  cases h : i.kind.needsReview <;> simp [Index.written, IndexStatement.warning?, h]

/-! ## Groups -/

namespace Ddl

/-- The order of the groups of a bundle. -/
def groupOrder : List GroupKind :=
  [.checkConstraints, .foreignKeys, .unhandledDeleteRules, .indexes]

/-- The statements of the group of some statements are those statements. -/
@[simp] theorem flatMap_groupOf (kind : GroupKind) (ss : List String) :
    (groupOf kind ss).flatMap Group.statements = ss := by
  unfold groupOf
  split
  · rename_i h
    exact (List.isEmpty_iff.mp h).symm
  · simp

end Ddl

/-! ## The halves -/

/-- The indexes of a table: the unique ones, then the others. -/
def Table.indexes (t : Table) : List Index := t.uniqueIndexes ++ t.normalIndexes

/-- The indexes whose statements can be applied as they are. -/
def Table.portableIndexes (t : Table) : List Index :=
  t.indexes.filter fun i => !i.kind.needsReview

/-- The indexes whose statements have to be reviewed. -/
def Table.reviewedIndexes (t : Table) : List Index :=
  t.indexes.filter fun i => i.kind.needsReview

namespace Ddl

/-- What a synthesis works out before it gives any statement a script. -/
structure Parts where
  comment : String
  /-- The clauses of the columns. -/
  columns : List String
  /-- The clause of the primary key. -/
  primaryKey : Option String
  indexes : List IndexStatement

namespace Request

variable (r : Request)

/-- The first half of a synthesis: everything that can fail. -/
def parts : Except Fault Parts := do
  r.requireColumns
  let comment ← r.comment
  let columns ← r.table.columns.mapM r.columnClause
  let primaryKey ← r.primaryKey
  let unique ← r.indexStatements .unique r.table.uniqueIndexes
  let normal ← r.indexStatements .nonunique r.table.normalIndexes
  pure ⟨comment, columns, primaryKey, unique ++ normal⟩

/-- The second half of a synthesis: every statement gets its script. -/
def place (p : Parts) : Bundle where
  source := displayTable r.sourceSchema r.table.name
  target := displayTable (Text.lower r.targetSchema) (Text.lower r.targetTable)
  createTable := r.createTable (p.columns ++ p.primaryKey.toList) p.comment
  primary := r.primaryStatements p.indexes
  groups := r.reviewGroups p.indexes
  warnings := r.warnings p.indexes

/-- The same request for a server with another version. -/
def forVersion (raw : String) : Request := { r with version := .ofText raw }

/-- The first half does not read the version. -/
theorem parts_forVersion (raw : String) : (r.forVersion raw).parts = r.parts := rfl

/-- A synthesis is its two halves, one after the other. -/
theorem synthesize_eq : r.synthesize = r.parts.map r.place := by
  -- a step that fails ends both sides with its fault
  unfold synthesize parts
  cases r.requireColumns with
  | error f => rfl
  | ok _ =>
    cases r.comment with
    | error f => rfl
    | ok comment =>
      cases r.table.columns.mapM r.columnClause with
      | error f => rfl
      | ok columns =>
        cases r.primaryKey with
        | error f => rfl
        | ok primaryKey =>
          cases r.indexStatements .unique r.table.uniqueIndexes with
          | error f => rfl
          | ok unique =>
            cases r.indexStatements .nonunique r.table.normalIndexes with
            | error f => rfl
            | ok normal => rfl

variable {r}

/-- A synthesis that succeeds places what its first half worked out. -/
theorem synthesize_eq_ok {b : Bundle} (h : r.synthesize = .ok b) :
    ∃ p, r.parts = .ok p ∧ b = r.place p := by
  rw [synthesize_eq] at h
  cases hp : r.parts with
  | error f => rw [hp] at h; cases h
  | ok p =>
    rw [hp] at h
    cases h
    exact ⟨p, rfl, rfl⟩

/-- The statements that one look for indexes finds are the written ones. -/
theorem indexStatements_eq_ok {expected : Uniqueness} {is : List Index}
    {ss : List IndexStatement} (h : r.indexStatements expected is = .ok ss) :
    ss = is.map (·.written r.target) ∧ ∀ i ∈ is, i.kind.isKnown = true := by
  -- statement by statement, along the list of indexes
  have hall := mapM_eq_ok_iff.mp h
  clear h
  induction hall with
  | nil => exact ⟨rfl, fun i hi => (nomatch hi)⟩
  | cons hi _ ih =>
    obtain ⟨-, hknown, rfl⟩ := Index.statement_eq_ok hi
    obtain ⟨rfl, hrest⟩ := ih
    exact ⟨rfl, List.forall_mem_cons.mpr ⟨hknown, hrest⟩⟩

/-- The first half succeeds only if each of its steps does. -/
theorem parts_eq_ok {p : Parts} (h : r.parts = .ok p) :
    r.requireColumns = .ok () ∧ r.comment = .ok p.comment ∧
      r.table.columns.mapM r.columnClause = .ok p.columns ∧ r.primaryKey = .ok p.primaryKey ∧
      ∃ unique normal, r.indexStatements .unique r.table.uniqueIndexes = .ok unique ∧
        r.indexStatements .nonunique r.table.normalIndexes = .ok normal ∧
        p.indexes = unique ++ normal := by
  obtain ⟨_, hcolumns, h⟩ := bind_eq_ok_iff.mp h
  obtain ⟨comment, hcomment, h⟩ := bind_eq_ok_iff.mp h
  obtain ⟨columns, hclauses, h⟩ := bind_eq_ok_iff.mp h
  obtain ⟨primaryKey, hkey, h⟩ := bind_eq_ok_iff.mp h
  obtain ⟨unique, hunique, h⟩ := bind_eq_ok_iff.mp h
  obtain ⟨normal, hnormal, h⟩ := bind_eq_ok_iff.mp h
  cases h
  exact ⟨hcolumns, hcomment, hclauses, hkey, unique, normal, hunique, hnormal, rfl⟩

/-- **Nothing happens to an index in the first half**: if it succeeds, every
index is of a known kind, and what it worked out is the written form of each. -/
theorem parts_indexes {p : Parts} (h : r.parts = .ok p) :
    p.indexes = r.table.indexes.map (·.written r.target) ∧
      ∀ i ∈ r.table.indexes, i.kind.isKnown = true := by
  obtain ⟨-, -, -, -, unique, normal, hunique, hnormal, hp⟩ := parts_eq_ok h
  obtain ⟨rfl, hu⟩ := indexStatements_eq_ok hunique
  obtain ⟨rfl, hn⟩ := indexStatements_eq_ok hnormal
  refine ⟨?_, fun i hi => ?_⟩
  · rw [hp, Table.indexes, List.map_append]
  · rcases List.mem_append.mp hi with hi | hi
    · exact hu i hi
    · exact hn i hi

/-! ## The bundle of a table -/

/-- The statements of the checks, without the names of the checks. -/
theorem map_sql_checkStatements :
    r.checkStatements.map Statement.sql = r.table.checks.filterMap (·.statement? r.target) := by
  rw [checkStatements, List.map_filterMap]
  refine congrArg (List.filterMap · r.table.checks) (funext fun c => ?_)
  cases c.statement? r.target <;> rfl

variable (r) in
/-- What of each kind has to be reviewed: the objects and their statements. -/
def toReview : GroupKind → List Statement
  | .checkConstraints => if r.reviewsChecks then r.checkStatements else []
  | .foreignKeys =>
    (if r.reviewsForeignKeys then r.handledKeys else []).map fun k => ⟨k.name, k.statement r.target⟩
  | .unhandledDeleteRules => r.unhandledKeys.map fun k => ⟨k.name, k.statement r.target⟩
  | .indexes => r.table.reviewedIndexes.map fun i => ⟨i.name, i.sql r.target⟩

/-- The primary statements of a table: unique keys, portable indexes, then what
the version leaves there. -/
theorem synthesize_primary {b : Bundle} (h : r.synthesize = .ok b) :
    b.primary = r.uniqueKeyStatements ++ r.table.portableIndexes.map (·.sql r.target)
      ++ (if r.reviewsChecks then [] else r.checkStatements.map Statement.sql)
      ++ (if r.reviewsForeignKeys then [] else r.keyStatements r.handledKeys) := by
  obtain ⟨p, hp, rfl⟩ := synthesize_eq_ok h
  show r.primaryStatements p.indexes = _
  rw [primaryStatements, (parts_indexes hp).1, filterMap_portable_written]
  rfl

/-- The groups of a table: one for each kind of which there is something to
review, in a fixed order. -/
theorem synthesize_groups {b : Bundle} (h : r.synthesize = .ok b) :
    b.groups =
      groupOrder.flatMap fun kind => groupOf kind ((r.toReview kind).map Statement.sql) := by
  obtain ⟨p, hp, rfl⟩ := synthesize_eq_ok h
  show r.reviewGroups p.indexes = _
  rw [reviewGroups, (parts_indexes hp).1, filterMap_review_written]
  simp only [groupOrder, List.flatMap_cons, List.flatMap_nil, List.append_nil, List.append_assoc,
    toReview, List.map_map]
  cases r.reviewsChecks <;> cases r.reviewsForeignKeys <;> rfl

/-- The warnings of a table: one for everything that is sent to review. -/
theorem synthesize_warnings {b : Bundle} (h : r.synthesize = .ok b) :
    b.warnings = r.table.reviewedIndexes.map Index.warning
      ++ r.unhandledKeys.map unhandledWarning
      ++ (if r.reviewsChecks then r.checkStatements.map r.checkWarning else [])
      ++ (if r.reviewsForeignKeys then r.handledKeys.map r.foreignKeyWarning else []) := by
  obtain ⟨p, hp, rfl⟩ := synthesize_eq_ok h
  show r.warnings p.indexes = _
  rw [warnings, (parts_indexes hp).1, filterMap_warning_written]
  rfl

/-! ## A table with a statement of every kind -/

/-- A table with a unique key, foreign keys with and without a counterpart, a check
of which something remains and one of which nothing does, and an index of every
known kind. -/
def ordersTable : Table where
  name := "ORDERS"
  columns := [{ name := "ID", dataType := "NUMBER", nullable := "N", precision := "10" }]
  primaryKeys := [⟨"PK_ORDERS", ["ID"]⟩]
  uniqueKeys := [⟨"UK_ID", ["ID"]⟩]
  foreignKeys := [⟨"FK_A", ["ID"], "MARVIN", "A", ["ID"], "CASCADE"⟩,
    ⟨"FK_B", ["ID"], "MARVIN", "B", ["ID"], "SET DEFAULT"⟩]
  checks := [⟨"CK_ID", "ID IS NOT NULL AND ID > 0"⟩, ⟨"CK_NULL", "ID IS NOT NULL"⟩]
  uniqueIndexes := [⟨"UX_ID", .unique, .functionBased, [], ["ABS(\"ID\")"]⟩]
  normalIndexes := [⟨"IX_ID", .nonunique, .normal, ["ID"], []⟩,
    ⟨"BX_ID", .nonunique, .bitmap, ["ID"], []⟩]

/-- The request for that table, for a server that calls itself TiDB. -/
def orders : Request :=
  ⟨"MARVIN", "steven", "ORDERS", "ENGINE=InnoDB", ordersTable, ⟨[], []⟩,
    .ofText "5.7.25-TiDB-v5.0.1"⟩

end Request

end Ddl

end CatalogDdl
