import CatalogDdl.CommandLine.Program
import CatalogDdl.Proofs.AnySchedule
import CatalogDdl.Proofs.LetterCase

/-!
# Listed tables and the tables that are found

A snapshot lists the names of its tables as they are, but looks a name up without regard
to case and takes the first table that has it. So a listed name leads back to its own
table unless a table before it has the same name in another case. If the names are apart
in this respect, then whoever goes through the listed names goes through the tables: an
inspection, and a run over those that are selected.

- `Snapshot.NamesApart`: no two tables have the same name up to case.
- `Snapshot.table_getElem_iff`: which listed names lead back to their tables.
- `Job.listedTables_iff`: an inspection shows all tables iff their names are apart.
- `Job.selectedTables`, `Job.ownTask`: the selected tables, and the work on one of them.
- `Job.listed_lookedUp`: a run works on the selected tables themselves, each of them once.
-/

namespace CatalogDdl

namespace Snapshot

/-- No two tables have the same name up to the case of letters. -/
def NamesApart (s : Snapshot) : Prop :=
  s.tables.Pairwise fun t u => Text.equalsIgnoringCase t.name u.name = false

variable {s : Snapshot} {schema : String}

/-- A name leads to the first table that has it up to case. -/
theorem table_eq_ok_iff (hschema : Text.equalsIgnoringCase s.schema schema = true)
    {name : String} {t : Table} :
    s.table schema name = .ok t ↔
      s.tables.find? (fun u => Text.equalsIgnoringCase u.name name) = some t := by
  unfold table checkSchema
  rw [if_pos hschema]
  cases h : s.tables.find? fun u => Text.equalsIgnoringCase u.name name with
  | none =>
    constructor
    · intro hthrow
      cases hthrow
    · exact nofun
  | some u =>
    constructor
    · intro hu
      exact congrArg some (Except.ok.inj hu)
    · intro hu
      exact congrArg Except.ok (Option.some.inj hu)

/-- A listed name leads back to its table iff no table before it has that name up to case. -/
theorem table_getElem_iff (hschema : Text.equalsIgnoringCase s.schema schema = true)
    (hnames : (s.tables.map Table.name).Nodup) {i : Nat} (hi : i < s.tables.length) :
    s.table schema s.tables[i].name = .ok s.tables[i] ↔
      ∀ k (hk : k < i), Text.equalsIgnoringCase s.tables[k].name s.tables[i].name = false := by
  have hself : Text.equalsIgnoringCase s.tables[i].name s.tables[i].name = true :=
    Text.equalsIgnoringCase_iff.mpr rfl
  rw [table_eq_ok_iff hschema, List.find?_eq_some_iff_getElem]
  constructor
  · rintro ⟨-, n, hn, hfound, hbefore⟩ k hk
    -- the names are different texts, so the table stands in one place only
    have hapart := List.pairwise_iff_getElem.mp (List.pairwise_map.mp hnames)
    have hplace : n = i := by
      rcases Nat.lt_trichotomy n i with hlt | heq | hgt
      · exact absurd (congrArg Table.name hfound) (hapart n i hn hi hlt)
      · exact heq
      · exact absurd (congrArg Table.name hfound).symm (hapart i n hi hn hgt)
    subst hplace
    simpa using hbefore k hk
  · intro hbefore
    refine ⟨hself, i, hi, rfl, fun k hk => ?_⟩
    rw [hbefore k hk]
    rfl

theorem namesApart_iff : s.NamesApart ↔
    ∀ i (hi : i < s.tables.length) k (hk : k < i),
      Text.equalsIgnoringCase s.tables[k].name s.tables[i].name = false := by
  unfold NamesApart
  rw [List.pairwise_iff_getElem]
  constructor
  · intro h i hi k hk
    exact h k i (Nat.lt_trans hk hi) hi hk
  · intro h k i _ hi hk
    exact h i hi k hk

theorem NamesApart.nodup (h : s.NamesApart) : (s.tables.map Table.name).Nodup := by
  refine List.pairwise_map.mpr (h.imp ?_)
  intro t u hapart hname
  rw [hname, Text.equalsIgnoringCase_iff.mpr rfl] at hapart
  cases hapart

/-- Every listed name leads back to its table iff the names are apart. -/
theorem forall_table_iff (hschema : Text.equalsIgnoringCase s.schema schema = true)
    (hnames : (s.tables.map Table.name).Nodup) :
    (∀ t ∈ s.tables, s.table schema t.name = .ok t) ↔ s.NamesApart := by
  rw [namesApart_iff, List.forall_mem_iff_getElem]
  exact forall₂_congr fun i hi => table_getElem_iff hschema hnames hi

/-- If names are apart, a table is found by its name. -/
theorem NamesApart.table_of_mem (h : s.NamesApart)
    (hschema : Text.equalsIgnoringCase s.schema schema = true) {t : Table} (ht : t ∈ s.tables) :
    s.table schema t.name = .ok t :=
  (forall_table_iff hschema h.nodup).mpr h t ht

end Snapshot

namespace Job

variable {j : Job}

/-- The selected tables themselves. -/
def selectedTables (j : Job) : List Table :=
  j.snapshot.tables.filter fun t =>
    isIncluded j.settings.includeTables t.name && !isExcluded j.settings.excludeTables t.name

theorem map_name_selectedTables (j : Job) : j.selectedTables.map Table.name = j.selected := by
  unfold selected selectTables selectedTables
  rw [List.filter_map]
  rfl

/-- The task for a table that works on this table and no other. -/
def ownTask (j : Job) (position : Nat) (t : Table) : Task :=
  ⟨position, t.name, (j.request t).synthesize⟩

variable (hschema : Text.equalsIgnoringCase j.snapshot.schema j.settings.sourceSchema = true)

include hschema

/-- If names are apart, the bundle for a name is that of the table. -/
theorem bundle_of_mem (h : j.snapshot.NamesApart) {t : Table} (ht : t ∈ j.snapshot.tables) :
    j.bundle t.name = (j.request t).synthesize := by
  unfold bundle
  rw [h.table_of_mem hschema ht]
  rfl

/-- An inspection shows all tables as they are iff their names are apart. -/
theorem listedTables_iff (hnames : (j.snapshot.tables.map Table.name).Nodup) :
    j.listedTables = .ok j.snapshot.tables ↔ j.snapshot.NamesApart := by
  have hlisted : j.listedTables =
      j.snapshot.tables.mapM fun t => j.snapshot.table j.settings.sourceSchema t.name := by
    unfold listedTables Snapshot.tableNames Snapshot.checkSchema
    rw [if_pos hschema]
    exact List.mapM_map ..
  rw [hlisted, mapM_eq_ok_iff, List.forall₂_same, Snapshot.forall_table_iff hschema hnames]

/-- If names are apart, the tasks for the names of tables work on these tables. -/
theorem tasks_eq (h : j.snapshot.NamesApart) {tables : List Table}
    (htables : ∀ t ∈ tables, t ∈ j.snapshot.tables) :
    j.rules.tasks (tables.map Table.name) = tables.mapIdx j.ownTask := by
  unfold PoolRules.tasks
  refine List.ext_getElem (by simp) fun i hi hi' => ?_
  have hlength : i < tables.length := by simpa using hi'
  have hwork : j.rules.work tables[i].name = (j.request tables[i]).synthesize :=
    bundle_of_mem hschema h (htables _ (List.getElem_mem hlength))
  simp only [List.getElem_mapIdx, List.getElem_map, ownTask, hwork]

/-- If names are apart, every schedule of a run with a mailbox starts the selected tables in
their order, each once and with what the snapshot says about it, and all of them unless one of
them stops the run. -/
theorem started_eq (h : j.snapshot.NamesApart) (hroom : j.rules.HasRoom)
    (schedule : Pool.Schedule) :
    ∃ done rest, done ++ rest = j.selectedTables ∧
      (j.finalPool schedule j.selected).started = done.mapIdx j.ownTask ∧
      (rest = [] ∨ ∃ task ∈ done.mapIdx j.ownTask, j.rules.stops task = true) := by
  obtain ⟨names, others, hnames, hstarted, -, hleft⟩ :=
    Pool.run_written (r := j.rules) hroom.one_le_threads schedule j.selected
  rw [← map_name_selectedTables] at hnames
  obtain ⟨done, rest, hdone, rfl, rfl⟩ := List.map_eq_append_iff.mp hnames.symm
  have hmem : ∀ t ∈ done, t ∈ j.snapshot.tables := by
    intro t ht
    have hselected : t ∈ j.selectedTables := hdone ▸ List.mem_append_left rest ht
    exact List.mem_of_mem_filter hselected
  rw [tasks_eq hschema h hmem] at hstarted hleft
  exact ⟨done, rest, hdone.symm, hstarted, hleft.imp_left List.map_eq_nil_iff.mp⟩

omit hschema

end Job

/-- A snapshot of two tables whose names differ in case only. -/
def Snapshot.twins : Snapshot :=
  ⟨"MARVIN", "8.0.28",
    [{ name := "ORDERS", comments := ["first"] }, { name := "Orders", comments := ["second"] }]⟩

end CatalogDdl
