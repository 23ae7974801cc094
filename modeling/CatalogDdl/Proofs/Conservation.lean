import CatalogDdl.Proofs.Synthesis
import Mathlib.Algebra.Order.Group.Multiset

/-!
# Conservation of catalog objects

Every unique key, index and foreign key of a table, and every check of which
something remains, has exactly one statement in the bundle of the table. Which
script a statement is in depends on the version of the server, on delete rules
and on index kinds; that it is in one of them, and in one only, does not.

- `Table.statements`: the statements that the catalog asks for, object by object.
- `Bundle.statements`: the statements of a bundle, wherever they are written.
- `SameContent`: two results that differ at most in where statements are.
- `synthesize_conserves`: the first two are the same multiset, whatever the
  version; hence two versions give the same content.
-/

namespace CatalogDdl

open Ddl

/-- The statements that the catalog asks for besides CREATE TABLE, object by
object: unique keys, indexes, foreign keys, and checks of which something remains. -/
def Table.statements (t : Table) (target : TargetTable) : Multiset String :=
  (t.uniqueKeys.map (·.uniqueStatement target) : List String)
    + (t.uniqueIndexes.map (·.sql target) : List String)
    + (t.normalIndexes.map (·.sql target) : List String)
    + (t.foreignKeys.map (·.statement target) : List String)
    + (t.checks.filterMap (·.statement? target) : List String)

namespace Ddl

/-- The statements of a bundle besides CREATE TABLE, wherever they are written. -/
def Bundle.statements (b : Bundle) : Multiset String :=
  (b.primary : Multiset String) + (b.groups.flatMap Group.statements : List String)

/-- Two results of a synthesis differ at most in the scripts of the statements:
they are the same fault, or bundles with the same CREATE TABLE and the same
statements. -/
def SameContent : Except Fault Bundle → Except Fault Bundle → Prop
  | .ok b, .ok c => b.createTable = c.createTable ∧ b.statements = c.statements
  | .error f, .error g => f = g
  | _, _ => False

/-- A list divided by a test has, image by image, the elements of the whole. -/
theorem map_filter_add_map_filter_not {α β : Type} (p : α → Bool) (f : α → β) (l : List α) :
    (((l.filter p).map f : List β) : Multiset β) + ((l.filter fun a => !p a).map f : List β)
      = (l.map f : List β) := by
  rw [Multiset.coe_add, ← List.map_append]
  exact Multiset.coe_eq_coe.mpr ((List.filter_append_perm p l).map f)

/-- A statement that is in one of two places, depending on a test, is there once. -/
theorem ite_add_ite_not {α : Type} (c : Bool) (l : List α) :
    ((if c then [] else l : List α) : Multiset α) + (if c then l else [] : List α) = l := by
  cases c with
  | false => exact add_zero _
  | true => exact zero_add _

namespace Request

variable {r : Request}

/-- The indexes of the two scripts are all the indexes. -/
theorem portable_add_reviewed :
    ((r.table.portableIndexes.map (·.sql r.target) : List String) : Multiset String)
        + (r.table.reviewedIndexes.map (·.sql r.target) : List String)
      = (r.table.uniqueIndexes.map (·.sql r.target) : List String)
        + (r.table.normalIndexes.map (·.sql r.target) : List String) := by
  rw [add_comm, Table.reviewedIndexes, Table.portableIndexes, map_filter_add_map_filter_not,
    Table.indexes, List.map_append, Multiset.coe_add]

/-- The foreign keys with and without a counterpart are all the foreign keys. -/
theorem handled_add_unhandled :
    ((r.keyStatements r.handledKeys : List String) : Multiset String)
        + (r.keyStatements r.unhandledKeys : List String)
      = (r.table.foreignKeys.map (·.statement r.target) : List String) :=
  map_filter_add_map_filter_not _ _ _

/-- A bundle has the statements that the catalog asks for. -/
theorem statements_eq {b : Bundle} (h : r.synthesize = .ok b) :
    b.statements = r.table.statements r.target := by
  have hgroups : b.groups.flatMap Group.statements
      = (if r.reviewsChecks then r.checkStatements.map Statement.sql else [])
        ++ (if r.reviewsForeignKeys then r.keyStatements r.handledKeys else [])
        ++ r.keyStatements r.unhandledKeys
        ++ r.table.reviewedIndexes.map (·.sql r.target) := by
    rw [synthesize_groups h, List.flatMap_assoc]
    simp only [flatMap_groupOf, groupOrder, List.flatMap_cons, List.flatMap_nil, List.append_nil,
      List.append_assoc, toReview, List.map_map]
    cases r.reviewsChecks <;> cases r.reviewsForeignKeys <;> rfl
  -- indexes and foreign keys are divided by their kind, checks and foreign keys by the version
  have hindexes := portable_add_reviewed (r := r)
  have hkeys := handled_add_unhandled (r := r)
  have hchecks := ite_add_ite_not r.reviewsChecks (r.checkStatements.map Statement.sql)
  have hhandled := ite_add_ite_not r.reviewsForeignKeys (r.keyStatements r.handledKeys)
  unfold Bundle.statements Table.statements
  rw [synthesize_primary h, hgroups, add_assoc (Multiset.ofList _) (Multiset.ofList _)
    (Multiset.ofList _), ← hindexes, ← hkeys, ← map_sql_checkStatements, ← hchecks, ← hhandled]
  simp only [← Multiset.coe_add]
  unfold uniqueKeyStatements
  ac_rfl

/-- Two versions of one request have the same content. -/
theorem sameContent_forVersion (v w : String) :
    SameContent (r.forVersion v).synthesize (r.forVersion w).synthesize := by
  cases hv : (r.forVersion v).synthesize with
  | error f =>
    -- the first half is the same for both versions, and only it fails
    have hw : (r.forVersion w).synthesize = .error f := by
      rw [synthesize_eq, parts_forVersion] at hv ⊢
      cases hp : r.parts with
      | ok p => rw [hp] at hv; cases hv
      | error g => rw [hp] at hv; cases hv; rfl
    rw [hw]
    rfl
  | ok b =>
    obtain ⟨p, hp, rfl⟩ := synthesize_eq_ok hv
    have hw : (r.forVersion w).synthesize = .ok ((r.forVersion w).place p) := by
      rw [synthesize_eq, parts_forVersion, ← parts_forVersion r v, hp]
      rfl
    rw [hw]
    exact ⟨rfl, (statements_eq hv).trans (statements_eq hw).symm⟩

/-- **Conservation of catalog objects**: if a table can be synthesized, its bundle
has one statement for each unique key, index and foreign key and for each check of
which something remains, and no other. Consequently the version decides no more
than where statements are: any two versions give the same fault, or the same
CREATE TABLE and the same statements. -/
theorem synthesize_conserves (r : Request) :
    (∀ b, r.synthesize = .ok b → b.statements = r.table.statements r.target) ∧
      ∀ v w : String, SameContent (r.forVersion v).synthesize (r.forVersion w).synthesize :=
  ⟨fun _ h => statements_eq h, sameContent_forVersion⟩

/-- The orders table has seven statements, each of them once, under every version. -/
theorem orders_conserves :
    ∃ b, orders.synthesize = .ok b ∧ b.statements = ordersTable.statements ⟨"steven", "ORDERS"⟩ ∧
      b.statements.card = 7 ∧
      SameContent (orders.forVersion "8.0.28").synthesize
        (orders.forVersion "5.7.36").synthesize := by
  obtain ⟨b, hb⟩ : ∃ b, orders.synthesize = .ok b := ⟨_, rfl⟩
  have hconserves := synthesize_conserves orders
  have hstatements := hconserves.1 b hb
  refine ⟨b, hb, hstatements, ?_, hconserves.2 "8.0.28" "5.7.36"⟩
  rw [hstatements]
  decide +kernel

end Request

end Ddl

end CatalogDdl
