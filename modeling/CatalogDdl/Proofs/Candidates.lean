import CatalogDdl.Proofs.Synthesis

/-!
# What can be reviewed

For each reason there are objects of a table that may have to be reviewed. Which ones
they are is read here from the catalog itself: from the text of a delete rule and
from the kind of an index. The version of the server only decides whether they are
reviewed, all of them or none.

- `handledRules`: the delete rules that have a counterpart.
- `ForeignKey.bareStatement`: the statement of a foreign key without any ON DELETE.
- `Table.indexesOf`: the indexes of given kinds.
- `Table.candidates`: the objects that may have to be reviewed, reason by reason, with
  their statements.
- `Request.reviews`: whether they are reviewed. `Request.toReview_eq` says that this is
  what a synthesis does with them.
-/

namespace CatalogDdl

open Ddl

/-! ## Delete rules -/

namespace Ddl

/-- The delete rules that have a counterpart, in upper case. No rule at all is NO ACTION. -/
def handledRules : List String := ["", "NO ACTION", "CASCADE", "SET NULL"]

/-- Blanks around a delete rule and its case do not matter. -/
theorem isHandled_ofText (s : String) :
    (DeleteRule.ofText s).isHandled = decide (Text.upper (Text.trim s) ∈ handledRules) := by
  unfold DeleteRule.ofText handledRules
  generalize Text.upper (Text.trim s) = name
  simp only [List.mem_cons, List.not_mem_nil, or_false]
  -- the four rules with a counterpart are told apart in the order in which the text is compared
  by_cases hnone : name = "" ∨ name = "NO ACTION"
  · rcases hnone with rfl | rfl
    · rfl
    · rfl
  · rw [not_or] at hnone
    obtain ⟨hempty, hnoAction⟩ := hnone
    by_cases hcascade : name = "CASCADE"
    · subst hcascade
      rfl
    · by_cases hnull : name = "SET NULL"
      · subst hnull
        rfl
      · simp [hempty, hnoAction, hcascade, hnull, DeleteRule.isHandled]

/-- A rule without a counterpart has no clause. -/
theorem DeleteRule.clause_eq_empty {rule : DeleteRule} (h : rule.isHandled = false) :
    rule.clause = "" := by
  cases rule with
  | noAction | cascade | setNull => cases h
  | unhandled name => rfl

end Ddl

/-- Whether the delete rule of a foreign key is one of those with a counterpart. -/
def ForeignKey.isHandled (k : ForeignKey) : Bool :=
  decide (Text.upper (Text.trim k.deleteRule) ∈ handledRules)

/-- The statement that adds a foreign key without an ON DELETE clause. -/
def ForeignKey.bareStatement (k : ForeignKey) (t : TargetTable) : String :=
  t.add ("CONSTRAINT " ++ quoteName k.name ++ " FOREIGN KEY(" ++ quoteNames k.columns
    ++ ") REFERENCES " ++ k.reference ++ "(" ++ quoteNames k.tableColumns ++ ")")

/-- A foreign key whose rule has no counterpart is added without one. -/
theorem ForeignKey.statement_eq_bareStatement {k : ForeignKey} (h : k.rule.isHandled = false)
    (t : TargetTable) : k.statement t = k.bareStatement t := by
  rw [ForeignKey.statement, DeleteRule.clause_eq_empty h, String.append_empty]
  rfl

/-! ## Kinds of indexes -/

/-- For a known kind, a statement needs no review iff the kind is the normal one. -/
theorem IndexKind.needsReview_eq {kind : IndexKind} (h : kind.isKnown = true) :
    kind.needsReview = decide (kind ≠ .normal) := by
  cases kind with
  | normal | functionBased | bitmap => rfl
  | other name => cases h

/-- The indexes of a table that are of one of some kinds. -/
def Table.indexesOf (t : Table) (kinds : List IndexKind) : List Index :=
  t.indexes.filter fun i => decide (i.kind ∈ kinds)

/-- The indexes that need no review are the normal ones, if all kinds are known. -/
theorem Table.portableIndexes_eq {t : Table} (h : ∀ i ∈ t.indexes, i.kind.isKnown = true) :
    t.portableIndexes = t.indexesOf [.normal] := by
  refine List.filter_congr fun i hi => ?_
  rw [IndexKind.needsReview_eq (h i hi)]
  simp

/-- Those that are reviewed are function-based or bitmaps; no other kind has a statement. -/
theorem Table.reviewedIndexes_eq (t : Table) :
    t.reviewedIndexes = t.indexesOf [.functionBased, .bitmap] := by
  refine List.filter_congr fun i _ => ?_
  cases i.kind <;> rfl

/-! ## Candidates -/

/-- The objects of a table that may have to be reviewed for a reason, each with its
statement, in the order of the catalog: checks of which something remains, foreign
keys whose delete rule has a counterpart, the other foreign keys without ON DELETE,
and indexes that are function-based or bitmaps. -/
def Table.candidates (t : Table) (target : TargetTable) : GroupKind → List Statement
  | .checkConstraints =>
    t.checks.filterMap fun c => (c.statement? target).map fun s => ⟨c.name, s⟩
  | .foreignKeys => (t.foreignKeys.filter (·.isHandled)).map fun k => ⟨k.name, k.statement target⟩
  | .unhandledDeleteRules =>
    (t.foreignKeys.filter (!·.isHandled)).map fun k => ⟨k.name, k.bareStatement target⟩
  | .indexes =>
    (t.indexesOf [.functionBased, .bitmap]).map fun i => ⟨i.name, i.sql target⟩

/-- The statements of the objects that may have to be reviewed for a reason. -/
def Table.candidateSql (t : Table) (target : TargetTable) (kind : GroupKind) : List String :=
  (t.candidates target kind).map Statement.sql

namespace Ddl.Request

variable {r : Request}

variable (r) in
/-- Whether the objects that can be reviewed for a reason are reviewed. -/
def reviews : GroupKind → Bool
  | .checkConstraints => r.reviewsChecks
  | .foreignKeys => r.reviewsForeignKeys
  | .unhandledDeleteRules => true
  | .indexes => true

/-- The foreign keys with a counterpart, read off the catalog. -/
theorem handledKeys_eq : r.handledKeys = r.table.foreignKeys.filter (·.isHandled) :=
  List.filter_congr fun k _ => isHandled_ofText k.deleteRule

theorem unhandledKeys_eq : r.unhandledKeys = r.table.foreignKeys.filter (!·.isHandled) :=
  List.filter_congr fun k _ => congrArg (!·) (isHandled_ofText k.deleteRule)

/-- **All or none**: what has to be reviewed for a reason are the objects that can be,
if they are reviewed at all. -/
theorem toReview_eq (kind : GroupKind) :
    r.toReview kind = if r.reviews kind then r.table.candidates r.target kind else [] := by
  cases kind with
  | checkConstraints => rfl
  | foreignKeys =>
    rw [toReview, reviews, handledKeys_eq]
    cases r.reviewsForeignKeys <;> rfl
  | unhandledDeleteRules =>
    rw [toReview, unhandledKeys_eq]
    refine List.map_congr_left fun k hk => ?_
    -- a foreign key that the catalog calls unhandled has an unhandled rule
    rw [← unhandledKeys_eq] at hk
    have hrule : k.rule.isHandled = false := by
      simpa using List.of_mem_filter hk
    rw [ForeignKey.statement_eq_bareStatement hrule]
  | indexes =>
    rw [toReview, Table.reviewedIndexes_eq]
    rfl

theorem sql_handledKeys :
    r.keyStatements r.handledKeys = r.table.candidateSql r.target .foreignKeys := by
  rw [Table.candidateSql, Table.candidates, List.map_map, handledKeys_eq]
  rfl

end Ddl.Request

end CatalogDdl
