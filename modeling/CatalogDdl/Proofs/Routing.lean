import CatalogDdl.Proofs.Candidates
import CatalogDdl.Proofs.Groups
import CatalogDdl.Proofs.VersionOrder

/-!
# Routing by version

Which script a statement is written to depends on three things: what the version
text of the server says, the delete rule of a foreign key, and the kind of an
index. Unique keys and normal indexes are always applied; what `Table.candidates` has
for a reason is reviewed, or else applied as well.

- `NamesTiDB`: the server calls itself TiDB.
- `Enforces`: the version in front of the first hyphen is above 8.0.15.
- `AddsConstraint`: a statement that adds a foreign key or a check.
- `Routed`: where everything is, for all versions.
- `synthesize_routed`: every bundle is routed like that.
-/

namespace CatalogDdl

open Ddl

namespace Ddl

/-! ## Statements that add foreign keys and checks -/

/-- A statement that adds a named constraint to a table. Every foreign key and
every check is added by such a statement; unique keys and indexes are not. -/
def AddsConstraint (t : TargetTable) (s : String) : Prop :=
  ∃ clause, s = t.add ("CONSTRAINT " ++ clause)

/-- What is added to a table can be read off the statement. -/
theorem TargetTable.add_inj (t : TargetTable) {a b : String} (h : t.add a = t.add b) : a = b :=
  String.append_right_inj _ |>.mp h

theorem not_addsConstraint_uniqueStatement (t : TargetTable) (k : Key) :
    ¬ AddsConstraint t (k.uniqueStatement t) := by
  rintro ⟨clause, h⟩
  have hchars := congrArg String.toList (t.add_inj h)
  simp [String.toList_append] at hchars

theorem not_addsConstraint_createIndex (t : TargetTable) (words positions : String) (i : Index) :
    ¬ AddsConstraint t (createIndex words i t positions) := by
  rintro ⟨clause, h⟩
  unfold createIndex TargetTable.add at h
  have hchars := congrArg String.toList h
  simp [String.toList_append] at hchars

theorem not_addsConstraint_indexSql (t : TargetTable) (i : Index) :
    ¬ AddsConstraint t (i.sql t) := by
  unfold Index.sql
  cases i.kind <;> exact not_addsConstraint_createIndex t _ _ i

theorem addsConstraint_foreignKey (t : TargetTable) (k : ForeignKey) :
    AddsConstraint t (k.statement t) := by
  unfold AddsConstraint ForeignKey.statement
  simp only [String.append_assoc]
  exact ⟨_, rfl⟩

theorem addsConstraint_check {t : TargetTable} {c : Check} {s : String}
    (h : c.statement? t = some s) : AddsConstraint t s := by
  obtain ⟨p, -, rfl⟩ := Option.map_eq_some_iff.mp h
  simp only [String.append_assoc]
  exact ⟨_, rfl⟩

end Ddl

namespace Table

/-- The statements that are in the primary script under every version: those of
unique keys and of normal indexes. -/
def settledSql (t : Table) (target : TargetTable) : List String :=
  t.uniqueKeys.map (·.uniqueStatement target) ++ (t.indexesOf [.normal]).map (·.sql target)

/-- Nothing that every version leaves in the primary script adds a foreign key or a check. -/
theorem not_addsConstraint_of_mem_settledSql {t : Table} {target : TargetTable} {s : String}
    (h : s ∈ t.settledSql target) : ¬ AddsConstraint target s := by
  rcases List.mem_append.mp h with hkey | hindex
  · obtain ⟨k, -, rfl⟩ := List.mem_map.mp hkey
    exact not_addsConstraint_uniqueStatement target k
  · obtain ⟨i, -, rfl⟩ := List.mem_map.mp hindex
    exact not_addsConstraint_indexSql target i

end Table

namespace Ddl

/-- A version text names TiDB. -/
def NamesTiDB (raw : String) : Prop := "TiDB".toList <:+: raw.toList

/-- The version in front of the first hyphen of a version text is above 8.0.15. -/
def Enforces (raw : String) : Prop := Above (versionComponent raw) (continued [8, 0, 15])

/-- A bundle has every statement of a table where the version text of the server,
the delete rules and the kinds of the indexes want it. -/
structure Routed (t : Table) (target : TargetTable) (raw : String) (b : Bundle) : Prop where
  /-- On TiDB all foreign keys and checks are reviewed. -/
  tidb : NamesTiDB raw →
    b.primary = t.settledSql target ∧
      b.reviewed .foreignKeys = t.candidateSql target .foreignKeys ∧
      b.reviewed .checkConstraints = t.candidateSql target .checkConstraints
  /-- On TiDB nothing in the primary script adds a foreign key or a check. -/
  tidb_primary : NamesTiDB raw →
    (∀ k : ForeignKey, k.statement target ∉ b.primary) ∧
      ∀ (c : Check) (s : String), c.statement? target = some s → s ∉ b.primary
  /-- A server that enforces checks has them, and the foreign keys, applied. -/
  enforcing : ¬ NamesTiDB raw → Enforces raw →
    b.primary = t.settledSql target ++ t.candidateSql target .checkConstraints
        ++ t.candidateSql target .foreignKeys ∧
      b.reviewed .foreignKeys = [] ∧
      b.reviewed .checkConstraints = []
  /-- A server that ignores checks has them reviewed, and the foreign keys applied. -/
  ignoring : ¬ NamesTiDB raw → ¬ Enforces raw →
    b.primary = t.settledSql target ++ t.candidateSql target .foreignKeys ∧
      b.reviewed .foreignKeys = [] ∧
      b.reviewed .checkConstraints = t.candidateSql target .checkConstraints
  /-- A foreign key with any other delete rule is reviewed, and does not have one. -/
  unhandled : b.reviewed .unhandledDeleteRules = t.candidateSql target .unhandledDeleteRules
  /-- An index that is not a normal one is reviewed. -/
  indexes : b.reviewed .indexes = t.candidateSql target .indexes
  /-- The groups are in a fixed order. -/
  order : (b.groups.map Group.kind).Sublist groupOrder
  /-- No reason has two groups. -/
  once : (b.groups.map Group.kind).Nodup
  /-- A group has something to review. -/
  nonempty : ∀ g ∈ b.groups, g.statements ≠ []

namespace Request

variable {r : Request} {raw : String}

/-! ## What the version decides -/

/-- Foreign keys are reviewed for TiDB. -/
theorem reviews_foreignKeys_iff (r : Request) (raw : String) :
    (r.forVersion raw).reviews .foreignKeys = true ↔ NamesTiDB raw := by
  unfold NamesTiDB
  rw [← ServerVersion.isTiDB_iff]
  show (((ServerVersion.ofText raw).placement.foreignKeys == .compatibility) = true) ↔ _
  unfold ServerVersion.placement
  cases (ServerVersion.ofText raw).isTiDB with
  | true => exact iff_of_true rfl rfl
  | false => cases (ServerVersion.ofText raw).enforcesChecks <;> exact iff_of_false nofun nofun

/-- Checks are reviewed for TiDB and for a server that ignores them. -/
theorem reviews_checkConstraints_iff (r : Request) (raw : String) :
    (r.forVersion raw).reviews .checkConstraints = true ↔ NamesTiDB raw ∨ ¬ Enforces raw := by
  unfold NamesTiDB Enforces
  rw [← ServerVersion.isTiDB_iff, ← ServerVersion.enforcesChecks_iff]
  show (((ServerVersion.ofText raw).placement.checks == .compatibility) = true) ↔ _
  unfold ServerVersion.placement
  cases (ServerVersion.ofText raw).isTiDB with
  | true => exact iff_of_true rfl (.inl rfl)
  | false =>
    cases (ServerVersion.ofText raw).enforcesChecks with
    | true => exact iff_of_false nofun (by simp)
    | false => exact iff_of_true rfl (.inr nofun)

/-! ## What is where -/

variable {b : Bundle}

/-- The primary script of a table: what is settled, and the candidates that are not reviewed. -/
theorem primary_eq (h : r.synthesize = .ok b) :
    b.primary = r.table.settledSql r.target
      ++ (if r.reviews .checkConstraints then []
        else r.table.candidateSql r.target .checkConstraints)
      ++ (if r.reviews .foreignKeys then [] else r.table.candidateSql r.target .foreignKeys) := by
  obtain ⟨p, hp, -⟩ := synthesize_eq_ok h
  rw [synthesize_primary h, Table.portableIndexes_eq (parts_indexes hp).2, sql_handledKeys]
  rfl

/-- What is reviewed for a reason are all candidates or none. -/
theorem reviewed_eq_candidateSql (h : r.synthesize = .ok b) (kind : GroupKind) :
    b.reviewed kind = if r.reviews kind then r.table.candidateSql r.target kind else [] := by
  rw [reviewed_eq h, toReview_eq]
  cases r.reviews kind <;> rfl

/-- **Routing by version**: whatever the version text of the server, every bundle
has every statement where that text, the delete rules and the kinds of the indexes
want it, and its groups are in order. -/
theorem synthesize_routed (h : (r.forVersion raw).synthesize = .ok b) :
    Routed r.table r.target raw b := by
  have hkeys := reviews_foreignKeys_iff r raw
  have hchecks := reviews_checkConstraints_iff r raw
  have hprimary := primary_eq h
  have hreviewedKeys := reviewed_eq_candidateSql h .foreignKeys
  have hreviewedChecks := reviewed_eq_candidateSql h .checkConstraints
  -- on TiDB everything that the version decides on is reviewed
  have hsettled : NamesTiDB raw → b.primary = r.table.settledSql r.target := by
    intro ht
    rw [hprimary, hkeys.mpr ht, hchecks.mpr (.inl ht)]
    exact (List.append_nil _).trans (List.append_nil _)
  -- on another server the foreign keys are not
  have happlied : ¬ NamesTiDB raw → (r.forVersion raw).reviews .foreignKeys = false := fun ht =>
    Bool.eq_false_iff.mpr (mt hkeys.mp ht)
  refine
    { tidb := fun ht => ?_
      tidb_primary := fun ht => ?_
      enforcing := fun ht he => ?_
      ignoring := fun ht he => ?_
      unhandled := reviewed_eq_candidateSql h .unhandledDeleteRules
      indexes := reviewed_eq_candidateSql h .indexes
      order := groups_sublist h
      once := (groups_sublist h).nodup (by decide)
      nonempty := groups_nonempty h }
  · rw [hkeys.mpr ht] at hreviewedKeys
    rw [hchecks.mpr (.inl ht)] at hreviewedChecks
    exact ⟨hsettled ht, hreviewedKeys, hreviewedChecks⟩
  · rw [hsettled ht]
    refine ⟨fun k hk => ?_, fun c s hs hmem => ?_⟩
    · exact Table.not_addsConstraint_of_mem_settledSql hk (addsConstraint_foreignKey r.target k)
    · exact Table.not_addsConstraint_of_mem_settledSql hmem (addsConstraint_check hs)
  · have hkept : (r.forVersion raw).reviews .checkConstraints = false :=
      Bool.eq_false_iff.mpr fun h => (hchecks.mp h).elim ht (not_not_intro he)
    rw [happlied ht] at hprimary hreviewedKeys
    rw [hkept] at hprimary hreviewedChecks
    exact ⟨hprimary, hreviewedKeys, hreviewedChecks⟩
  · rw [happlied ht] at hprimary hreviewedKeys
    rw [hchecks.mpr (.inr he)] at hprimary hreviewedChecks
    refine ⟨?_, hreviewedKeys, hreviewedChecks⟩
    rw [hprimary]
    exact congrArg (· ++ r.table.candidateSql r.target .foreignKeys) (List.append_nil _)

/-- The orders table on two servers: TiDB leaves two statements in the primary
script, and a server that enforces checks leaves four. -/
theorem orders_routed :
    ∃ b c, (orders.forVersion "5.7.25-TiDB-v5.0.1").synthesize = .ok b ∧
      (orders.forVersion "8.0.28").synthesize = .ok c ∧
      Routed ordersTable ⟨"steven", "ORDERS"⟩ "5.7.25-TiDB-v5.0.1" b ∧
      Routed ordersTable ⟨"steven", "ORDERS"⟩ "8.0.28" c ∧
      b.primary.length = 2 ∧ c.primary.length = 4 := by
  obtain ⟨b, hb⟩ : ∃ b, (orders.forVersion "5.7.25-TiDB-v5.0.1").synthesize = .ok b := ⟨_, rfl⟩
  obtain ⟨c, hc⟩ : ∃ c, (orders.forVersion "8.0.28").synthesize = .ok c := ⟨_, rfl⟩
  have hrb := synthesize_routed hb
  have hrc := synthesize_routed hc
  refine ⟨b, c, hb, hc, hrb, hrc, ?_, ?_⟩
  · have htidb : NamesTiDB "5.7.25-TiDB-v5.0.1" := by
      unfold NamesTiDB
      decide +kernel
    rw [(hrb.tidb htidb).1]
    decide +kernel
  · have hother : ¬ NamesTiDB "8.0.28" := by
      unfold NamesTiDB
      decide +kernel
    have habove : Enforces "8.0.28" := ⟨2, by decide +kernel, by decide +kernel⟩
    rw [(hrc.enforcing hother habove).1]
    decide +kernel

end Request

end Ddl

end CatalogDdl
