import CatalogDdl.Proofs.OutputFiles
import CatalogDdl.Proofs.PoolRun
import CatalogDdl.Proofs.Synthesis

/-!
# A run does its tables one by one

What a run leaves behind and what it reports can be said without a schedule: do the
selected tables one after the other, and put what comes of each into the scripts and
into the summary. This is so for every schedule and every number of threads that there
is a mailbox for, as long as no table stops the run.

- `Job.selected`, `Job.converted`, `Job.failures`, `Job.logEntry`: what comes of the
  selected tables, one by one.
- `Job.OneByOne`: the report and the files of a run that did its tables one by one.
- `Job.bundlesOf`, `Job.failuresOf`: what comes of any tables, one by one.
- `PoolRules.filterMap_tasks`, `Job.scripts_of_tables`: tasks that were done in a pool,
  said table by table.
- `Job.run_end`, `Job.run_breaksOff`: what a run with a mailbox leaves behind, and one without.
- `Job.run_oneByOne`: every run with a mailbox does its tables one by one.
-/

namespace CatalogDdl

open Ddl (Bundle)

/-! ## One by one -/

namespace Job

/-- The selected tables of the snapshot. -/
def selected (j : Job) : List String :=
  selectTables j.settings.includeTables j.settings.excludeTables (j.snapshot.tables.map Table.name)

/-- The bundles of the selected tables that have one. -/
def converted (j : Job) : List Bundle := j.selected.filterMap fun name => (j.bundle name).toOption

/-- The selected tables that have none, and why. -/
def failures (j : Job) : List Failure :=
  j.selected.filterMap fun name =>
    match j.bundle name with
    | .ok _ => none
    | .error f => some ⟨name, f.message⟩

/-- What the log says about a table in a position: the counts of its bundle, or why it
has none. -/
def logEntry (j : Job) (position : Nat) (name : String) : String :=
  "[" ++ toString position ++ "] " ++
    match j.bundle name with
    | .ok b =>
      b.source ++ " -> " ++ b.target ++ ": ok, primary=" ++ toString (b.primary.length + 1)
        ++ ", compatibility=" ++ toString b.reviewCount
        ++ ", warnings=" ++ toString b.warnings.length ++ "\n"
    | .error f => name ++ ": failed, " ++ f.message ++ "\n"

/-- The report and the files of a run that did its tables one by one. -/
structure OneByOne (j : Job) (s : Summary) (t : FileTree) : Prop where
  /-- The primary script has the block of every converted table. -/
  primary : t.readText? j.outputs.primary =
    some (String.join (j.converted.map fun b => b.primarySql ++ "\n"))
  /-- The compatibility script has the block of every table with something to review. -/
  compatibility : t.readText? j.outputs.compatibility =
    some (String.join ((j.converted.filter fun b => b.compatibilitySql ≠ "").map
      fun b => b.compatibilitySql ++ "\n"))
  /-- The log has an entry for every selected table. -/
  log : t.readText? j.outputs.log = some (String.join (j.selected.mapIdx j.logEntry))
  tables : s.tables = j.selected.length
  succeeded : s.succeeded = j.converted.length
  failed : s.failed = j.failures
  warnings : s.warnings = (j.converted.flatMap Ddl.Bundle.warnings).length
  skipped : s.skipped = 0
  outputs : s.outputs = some j.outputs
  /-- Every selected table is a success or a failure. -/
  total : s.tables = s.succeeded + s.failed.length

end Job

/-! ## Tasks, table by table -/

namespace PoolRules

variable {r : PoolRules} {tables : List String}

/-- A task with a fault has it from its table, which is one of the tables. -/
theorem work_eq_error {t : Task} (h : t ∈ r.tasks tables) {f : Fault} (hf : t.fault? = some f) :
    t.table ∈ tables ∧ r.work t.table = .error f := by
  obtain ⟨i, hi, rfl⟩ := List.mem_mapIdx.mp h
  refine ⟨List.getElem_mem hi, ?_⟩
  unfold Task.fault? at hf
  split at hf
  · cases hf
  · rename_i g hresult
    cases hf
    exact hresult

/-- What is read off tasks can be read off their tables. -/
theorem filterMap_tasks {α : Type} {g : Task → Option α} {f : String → Option α}
    (h : ∀ i name, g ⟨i, name, r.work name⟩ = f name) (tables : List String) :
    (r.tasks tables).filterMap g = tables.filterMap f := by
  have hfst : tables.zipIdx.map Prod.fst = tables := List.zipIdx_map_fst 0 tables
  unfold tasks
  rw [List.mapIdx_eq_zipIdx_map, List.filterMap_map]
  conv_rhs => rw [← hfst, List.filterMap_map]
  exact congrArg (List.filterMap · tables.zipIdx) (funext fun x => h x.2 x.1)

end PoolRules

namespace Job

variable {j : Job}

/-- The bundles of those of some tables that have one. -/
def bundlesOf (j : Job) (names : List String) : List Bundle :=
  names.filterMap fun name => (j.bundle name).toOption

/-- Those of some tables that have none, and why. -/
def failuresOf (j : Job) (names : List String) : List Failure :=
  names.filterMap fun name =>
    match j.bundle name with
    | .ok _ => none
    | .error f => some ⟨name, f.message⟩

theorem bundles_of_tables (j : Job) (names : List String) :
    (j.rules.tasks names).filterMap Task.bundle? = j.bundlesOf names :=
  PoolRules.filterMap_tasks (fun _ _ => rfl) names

theorem failures_of_tables (j : Job) (names : List String) :
    (j.rules.tasks names).filterMap Task.failure? = j.failuresOf names := by
  refine PoolRules.filterMap_tasks (fun i name => ?_) names
  show Option.map _ (match j.bundle name with | .ok _ => none | .error f => some f) = _
  cases j.bundle name <;> rfl

/-- The scripts of tasks, table by table. -/
theorem scripts_of_tables (j : Job) (names : List String) :
    entriesOf ((j.rules.tasks names).map Task.outcome) =
      ⟨String.join ((j.bundlesOf names).map fun b => b.primarySql ++ "\n"),
        String.join (((j.bundlesOf names).filter fun b => b.compatibilitySql ≠ "").map
          fun b => b.compatibilitySql ++ "\n"),
        String.join (names.mapIdx j.logEntry)⟩ := by
  have hrenders := entriesOf_renders ((j.rules.tasks names).map Task.outcome)
  have hbundles : ((j.rules.tasks names).map Task.outcome).filterMap (fun o => o.result.toOption)
      = j.bundlesOf names := by
    rw [List.filterMap_map]
    refine PoolRules.filterMap_tasks (fun i name => ?_) names
    show ((j.bundle name).mapError Fault.message).toOption = (j.bundle name).toOption
    cases j.bundle name <;> rfl
  refine hrenders.unique ⟨?_, ?_, ?_⟩
  · rw [hbundles]
  · rw [hbundles]
  · -- an entry has the position and the name of its task
    unfold PoolRules.tasks
    refine congrArg String.join (List.ext_getElem (by simp) fun i hi hi' => ?_)
    have hwork : j.rules.work = j.bundle := rfl
    simp only [List.getElem_map, List.getElem_mapIdx, Task.outcome, logEntry, hwork]
    cases j.bundle _ <;> rfl

theorem filterMap_bundle?_tasks (j : Job) :
    (j.rules.tasks j.selected).filterMap Task.bundle? = j.converted :=
  j.bundles_of_tables j.selected

theorem filterMap_failure?_tasks (j : Job) :
    (j.rules.tasks j.selected).filterMap Task.failure? = j.failures :=
  j.failures_of_tables j.selected

/-- The scripts of all tasks, table by table. -/
theorem scripts_eq (j : Job) :
    entriesOf ((j.rules.tasks j.selected).map Task.outcome) =
      ⟨String.join (j.converted.map fun b => b.primarySql ++ "\n"),
        String.join ((j.converted.filter fun b => b.compatibilitySql ≠ "").map
          fun b => b.compatibilitySql ++ "\n"),
        String.join (j.selected.mapIdx j.logEntry)⟩ :=
  j.scripts_of_tables j.selected

/-- Every table has a bundle or a reason why not. -/
theorem length_tables (j : Job) (names : List String) :
    names.length = (j.bundlesOf names).length + (j.failuresOf names).length := by
  unfold bundlesOf failuresOf
  induction names with
  | nil => rfl
  | cons name names ih =>
    rw [List.filterMap_cons, List.filterMap_cons]
    cases h : j.bundle name with
    | ok b =>
      show _ = (b :: List.filterMap _ names).length + (List.filterMap _ names).length
      rw [List.length_cons, List.length_cons, ih]
      omega
    | error f =>
      show _ = (List.filterMap _ names).length + (_ :: List.filterMap _ names).length
      rw [List.length_cons, List.length_cons, ih]
      omega

/-- Every selected table has a bundle or a reason why not. -/
theorem length_selected (j : Job) :
    j.selected.length = j.converted.length + j.failures.length :=
  j.length_tables j.selected

/-! ## Runs -/

/-- A snapshot of the schema is asked for the tables that it has. -/
theorem selection_eq (hschema :
    Text.equalsIgnoringCase j.snapshot.schema j.settings.sourceSchema = true) :
    j.selection = .ok j.selected := by
  unfold selection Snapshot.tableNames Snapshot.checkSchema
  rw [if_pos hschema]
  rfl

/-- No task stops the run: none has a fault of the run, and none has any fault if the
run fails fast. -/
theorem stops_eq_false
    (hlocal : ∀ name ∈ j.selected, ∀ f, j.bundle name = .error f → f.scope ≠ .run)
    (hpatient : j.settings.failFast = true → ∀ name ∈ j.selected, ∀ f, j.bundle name ≠ .error f) :
    ∀ t ∈ j.rules.tasks j.selected, j.rules.stops t = false := by
  intro t ht
  rw [PoolRules.stops]
  cases hfault : t.fault? with
  | none => rfl
  | some f =>
    obtain ⟨hname, hbundle⟩ := PoolRules.work_eq_error ht hfault
    have hscope : (f.scope == .run) = false := beq_false_of_ne (hlocal t.table hname f hbundle)
    have hslow : j.settings.failFast = false :=
      Bool.eq_false_iff.mpr fun h => hpatient h t.table hname f hbundle
    show (j.settings.failFast || f.scope == .run) = false
    rw [hslow, hscope]
    rfl

/-- If all tables were done, none of their faults is one of the run. -/
theorem runFault?_eq_none {p : Pool} (hstarted : p.started = j.rules.tasks j.selected)
    (hlocal : ∀ name ∈ j.selected, ∀ f, j.bundle name = .error f → f.scope ≠ .run) :
    p.runFault? = none := by
  unfold Pool.runFault?
  rw [hstarted, List.find?_eq_none]
  intro f hf hrun
  obtain ⟨t, ht, hfault⟩ := List.mem_filterMap.mp hf
  obtain ⟨hname, hbundle⟩ := PoolRules.work_eq_error ht hfault
  exact hlocal t.table hname f hbundle (beq_iff_eq.mp hrun)

/-- A pool that has done all selected tables reports them one by one, and files that hold
their scripts do too. -/
theorem oneByOne_of_pool {p : Pool} {u : FileTree}
    (hstarted : p.started = j.rules.tasks j.selected)
    (hhold : j.outputs.Hold u
      ⟨String.join (j.converted.map fun b => b.primarySql ++ "\n"),
        String.join ((j.converted.filter fun b => b.compatibilitySql ≠ "").map
          fun b => b.compatibilitySql ++ "\n"),
        String.join (j.selected.mapIdx j.logEntry)⟩) :
    j.OneByOne (p.summary j.selected.length (some j.outputs)) u := by
  have hbundles : p.bundles = j.converted := by
    rw [Pool.bundles, hstarted, filterMap_bundle?_tasks]
  have hfailures : p.started.filterMap Task.failure? = j.failures := by
    rw [hstarted, filterMap_failure?_tasks]
  refine
    { primary := hhold.primary
      compatibility := hhold.compatibility
      log := hhold.log
      tables := rfl
      succeeded := congrArg List.length hbundles
      failed := hfailures
      warnings := ?_
      skipped := ?_
      outputs := rfl
      total := ?_ }
  · show (List.flatMap _ p.bundles).length = _
    rw [hbundles]
  · show j.selected.length - p.started.length = 0
    rw [hstarted, PoolRules.tasks, List.length_mapIdx, Nat.sub_self]
  · show j.selected.length = p.bundles.length + (p.started.filterMap Task.failure?).length
    rw [hbundles, hfailures, length_selected]

section
variable {t : FileTree} (hwrites : j.settings.dryRun = false)
  (hschema : Text.equalsIgnoringCase j.snapshot.schema j.settings.sourceSchema = true)
  (hfiles : j.CanWrite t) (hapart : j.ScriptsApart t)
include hwrites hschema hfiles hapart

/-- What is left of a run when its pool has come to its end: the files hold the scripts of
the pool, and the run fails with the fault of the pool or reports it. -/
theorem run_end (hroom : j.rules.HasRoom) (schedule : Pool.Schedule) :
    ∃ u, j.outputs.Hold u (j.finalPool schedule j.selected).scripts ∧
      (∀ f, (j.finalPool schedule j.selected).runFault? = some f →
        Fails (Job.run schedule j) t f u) ∧
      ((j.finalPool schedule j.selected).runFault? = none →
        Gives (Job.run schedule j) t
          ((j.finalPool schedule j.selected).summary j.selected.length (some j.outputs)) u) := by
  obtain ⟨u, a, b, c, hcreate, hready, -⟩ := hfiles.create hapart hwrites
  obtain ⟨v, hwrite, hhold⟩ := hready.write (j.finalPool schedule j.selected).scripts
  have hselection := Gives.liftExcept (selection_eq hschema) t
  have hmailbox := Gives.liftExcept (PoolRules.checkRoom_eq_ok hroom) u
  -- the tree is the one with the empty files until it is the one with the written ones
  refine ⟨v, hhold, ?_, ?_⟩
  · intro f hfault
    refine Fails.bind hselection (Fails.bind hcreate (Fails.bind hmailbox (Fails.bind hwrite ?_)))
    simp only [hfault]
    exact Fails.throw f v
  · intro hfault
    refine hselection.bind (hcreate.bind (hmailbox.bind (hwrite.bind ?_)))
    simp only [hfault]
    exact Gives.pure _ v

/-- A run without a mailbox breaks off when it has made its files, and leaves them empty. -/
theorem run_breaksOff (hroom : ¬ j.rules.HasRoom) (schedule : Pool.Schedule) :
    ∃ u, Fails (Job.run schedule j) t .noMailbox u ∧ j.outputs.Hold u {} := by
  obtain ⟨u, a, b, c, hcreate, -, hempty⟩ := hfiles.create hapart hwrites
  have hmailbox := Fails.liftExcept (PoolRules.checkRoom_eq_error hroom) u
  refine ⟨u, ?_, hempty⟩
  exact Fails.bind (Gives.liftExcept (selection_eq hschema) t)
    (Fails.bind hcreate (hmailbox.bind_left _))

end

/-- **A run does its tables one by one**, whatever the schedule and the number of
threads: for a snapshot of the schema, if no selected table stops the run and the
output files can be written, the run succeeds, and its report and its files are those
of the selected tables done one after the other. This is so as long as there is a
mailbox for that many threads; without one the run breaks off, and all that it leaves
behind are empty files. -/
theorem run_oneByOne (schedule : Pool.Schedule) {j : Job} {t : FileTree}
    (hthreads : 1 ≤ j.settings.threads)
    (hwrites : j.settings.dryRun = false)
    (hschema : Text.equalsIgnoringCase j.snapshot.schema j.settings.sourceSchema = true)
    (hlocal : ∀ name ∈ j.selected, ∀ f, j.bundle name = .error f → f.scope ≠ .run)
    (hpatient : j.settings.failFast = true → ∀ name ∈ j.selected, ∀ f, j.bundle name ≠ .error f)
    (hfiles : j.CanWrite t) (hapart : j.ScriptsApart t) :
    (2 * j.settings.threads ≤ PoolRules.roomLimit →
        ∃ s u, Gives (Job.run schedule j) t s u ∧ j.OneByOne s u) ∧
      (PoolRules.roomLimit < 2 * j.settings.threads →
        ∃ u, Fails (Job.run schedule j) t .noMailbox u ∧ j.outputs.Hold u {}) := by
  constructor
  · intro hlimit
    have hroom : j.rules.HasRoom := ⟨Nat.mul_pos Nat.two_pos hthreads, hlimit⟩
    obtain ⟨hstarted, hscripts⟩ := Pool.run_all (r := j.rules) hthreads j.selected
      (stops_eq_false hlocal hpatient) schedule
    obtain ⟨u, hhold, -, hgives⟩ := run_end hwrites hschema hfiles hapart hroom schedule
    -- the schedule is gone from here on
    have hall : (j.finalPool schedule j.selected).scripts = _ := hscripts.trans j.scripts_eq
    rw [hall] at hhold
    exact ⟨_, u, hgives (runFault?_eq_none hstarted hlocal), oneByOne_of_pool hstarted hhold⟩
  · intro hlimit
    have hroom : ¬ j.rules.HasRoom := fun h => Nat.not_le_of_lt hlimit h.2
    exact run_breaksOff hwrites hschema hfiles hapart hroom schedule

/-- A job for two tables, one of which has no columns. -/
def ordersJob : Job where
  settings := { sourceSchema := "marvin", outputDir := "out", threads := 2 }
  snapshot := ⟨"MARVIN", "8.0.28", [Ddl.Request.ordersTable, { name := "EMPTY" }]⟩

/-- None of its tables stops the run. -/
theorem ordersJob_local :
    ∀ name ∈ ordersJob.selected, ∀ f, ordersJob.bundle name = .error f → f.scope ≠ .run := by
  have hscopes : ∀ name ∈ ordersJob.selected,
      (match ordersJob.bundle name with
        | .ok _ => true
        | .error f => f.scope != .run) = true := by
    decide +kernel
  intro name hname f hf
  have hscope := hscopes name hname
  rw [hf] at hscope
  exact bne_iff_ne.mp hscope

/-- In an empty tree of files one of its tables succeeds and the other one fails. -/
theorem ordersJob_oneByOne :
    ∃ s u, Gives (Job.run Pool.eager ordersJob) {} s u ∧ ordersJob.OneByOne s u ∧
      s.succeeded = 1 ∧ s.failed.length = 1 := by
  obtain ⟨hone, -⟩ := run_oneByOne Pool.eager (j := ordersJob) (by decide) rfl
    (by decide +kernel) ordersJob_local nofun (canWrite_empty rfl rfl) (scriptsApart_empty rfl rfl)
  obtain ⟨s, u, hrun, hone⟩ := hone (by decide)
  refine ⟨s, u, hrun, hone, ?_, ?_⟩
  · rw [hone.succeeded]
    decide +kernel
  · rw [hone.failed]
    decide +kernel

/-- The same job with more threads than there is a mailbox for. -/
def crowdedJob : Job where
  settings := { ordersJob.settings with threads := 1152921504606846976 }
  snapshot := ordersJob.snapshot

/-- None of its tables stops the run either, and its files can be written into an empty tree.
But it breaks off under every schedule, and its files stay empty. -/
theorem crowdedJob_breaksOff :
    1 ≤ crowdedJob.settings.threads ∧ crowdedJob.settings.dryRun = false ∧
      crowdedJob.settings.failFast = false ∧
      Text.equalsIgnoringCase crowdedJob.snapshot.schema crowdedJob.settings.sourceSchema = true ∧
      (∀ name ∈ crowdedJob.selected, ∀ f, crowdedJob.bundle name = .error f → f.scope ≠ .run) ∧
      crowdedJob.CanWrite {} ∧ crowdedJob.ScriptsApart {} ∧
      ∀ schedule, ∃ u, Fails (Job.run schedule crowdedJob) {} .noMailbox u ∧
        crowdedJob.outputs.Hold u {} ∧ ∀ s v, ¬ Gives (Job.run schedule crowdedJob) {} s v := by
  have hfiles : crowdedJob.CanWrite {} := canWrite_empty rfl rfl
  have hapart : crowdedJob.ScriptsApart {} := scriptsApart_empty rfl rfl
  have hschema : Text.equalsIgnoringCase crowdedJob.snapshot.schema
      crowdedJob.settings.sourceSchema = true := by
    decide +kernel
  refine ⟨by decide, rfl, rfl, hschema, ordersJob_local, hfiles, hapart, fun schedule => ?_⟩
  obtain ⟨u, hfails, hempty⟩ := run_breaksOff (j := crowdedJob) rfl hschema hfiles hapart
    (by decide) schedule
  exact ⟨u, hfails, hempty, fun s v hgives => hfails.not_gives hgives⟩

end Job

end CatalogDdl
