import CatalogDdl.Proofs.AnySchedule
import CatalogDdl.Proofs.ArrivalOrder

/-!
# One table after the other

With a single thread a table is started only when the one before it is finished. The
pool knows then whether that table stops the run, because a task says so before it
gives its place to another one. So the tables that are done are those up to the first
one that stops the run, with that table itself, whatever the schedule: the writer gets
their outcomes and no other ones, and the report counts the others as skipped.

- `PoolRules.ends`, `PoolRules.lastPosition`, `PoolRules.reached`: which tables stop a
  run, and which ones it reaches.
- `Pool.InTurn`: what holds of a pool with one thread. `Pool.InTurn.apply` is the step,
  `Pool.InTurn.run` the run.
- `Pool.run_reached`: the tables that are started, and what comes to the writer.
- `Job.Written`, `Job.Reports`: the files and the report of a run up to a position.
- `Job.run_earlyStop`: every run with one thread is like that.
-/

namespace CatalogDdl

open Ddl (Bundle)

/-! ## The tables that are reached -/

namespace PoolRules

/-- Whether what comes of a table stops the start of further tables: a fault of the run,
or any fault if the run fails fast. -/
def ends (r : PoolRules) (table : String) : Bool :=
  match r.work table with
  | .ok _ => false
  | .error f => r.failFast || f.scope == .run

/-- The position of the first table that stops the start of further ones, or of the last
table if none does. -/
def lastPosition (r : PoolRules) (tables : List String) : Nat :=
  min (tables.findIdx r.ends) (tables.length - 1)

/-- The tables up to that position. -/
def reached (r : PoolRules) (tables : List String) : List String :=
  tables.take (r.lastPosition tables + 1)

variable {r : PoolRules}

theorem stops_task (r : PoolRules) (position : Nat) (table : String) :
    r.stops ⟨position, table, r.work table⟩ = r.ends table := by
  unfold stops ends Task.fault?
  cases r.work table <;> rfl

/-- The tables of tasks are those they were made for. -/
theorem map_table_tasks (r : PoolRules) (tables : List String) :
    (r.tasks tables).map Task.table = tables := by
  refine List.ext_getElem ?_ fun i hi hi' => ?_
  · simp [tasks]
  · simp [tasks]

/-- The last of the reached tables. -/
theorem lastPosition_concat {earlier rest : List String} {last : String}
    (hearlier : ∀ table ∈ earlier, r.ends table = false)
    (hlast : rest = [] ∨ r.ends last = true) :
    r.lastPosition (earlier ++ last :: rest) = earlier.length := by
  have hskip : (earlier ++ last :: rest).findIdx r.ends
      = earlier.length + (last :: rest).findIdx r.ends := by
    rw [List.findIdx_append, if_neg, Nat.add_comm]
    rw [List.findIdx_lt_length]
    rintro ⟨table, htable, hends⟩
    rw [hearlier table htable] at hends
    cases hends
  have hlength : (earlier ++ last :: rest).length = earlier.length + (rest.length + 1) :=
    List.length_append
  rw [lastPosition, hskip, hlength]
  rcases hlast with rfl | hends
  · rw [List.length_nil]
    omega
  · have hzero : (last :: rest).findIdx r.ends = 0 := by
      rw [List.findIdx_cons, hends]
      rfl
    omega

/-- There is a table that a run reaches last: none before it stops the run, and it does
or is the last one. -/
theorem exists_last {tables : List String} (h : tables ≠ []) :
    ∃ earlier last rest, tables = earlier ++ last :: rest ∧
      (∀ table ∈ earlier, r.ends table = false) ∧ (rest = [] ∨ r.ends last = true) := by
  induction tables with
  | nil => exact absurd rfl h
  | cons table tables ih =>
    by_cases hends : r.ends table = true
    · exact ⟨[], table, tables, rfl, nofun, .inr hends⟩
    · by_cases hrest : tables = []
      · exact ⟨[], table, tables, rfl, nofun, .inl hrest⟩
      · obtain ⟨earlier, last, rest, rfl, hearlier, hlast⟩ := ih hrest
        refine ⟨table :: earlier, last, rest, rfl, ?_, hlast⟩
        intro other hother
        rcases List.mem_cons.mp hother with rfl | hother
        · exact Bool.eq_false_iff.mpr hends
        · exact hearlier other hother

/-- Tables of which only the last one may stop the run, and which are all tables if it
does not, are those that are reached. -/
theorem reached_append {names rest : List String}
    (hearlier : ∀ table ∈ names.dropLast, r.ends table = false)
    (hlast : rest = [] ∨ ∃ table, names.getLast? = some table ∧ r.ends table = true) :
    r.reached (names ++ rest) = names := by
  rcases List.eq_nil_or_concat' names with rfl | ⟨earlier, last, rfl⟩
  · rcases hlast with rfl | ⟨table, hnone, -⟩
    · rfl
    · cases hnone
  · rw [List.dropLast_concat] at hearlier
    rw [List.getLast?_concat] at hlast
    have hends : rest = [] ∨ r.ends last = true := by
      refine hlast.imp_right ?_
      rintro ⟨table, hsome, htable⟩
      cases hsome
      exact htable
    rw [reached, List.append_assoc, List.singleton_append, lastPosition_concat hearlier hends]
    rw [List.take_length_add_append]
    rfl

end PoolRules

/-! ## A pool with one thread -/

namespace Pool

/-- What holds of a pool with one thread. -/
structure InTurn (r : PoolRules) (p : Pool) : Prop where
  /-- Of the tasks that were started only the last one may stop the run. -/
  earlier : ∀ t ∈ p.started.dropLast, r.stops t = false
  /-- Either nothing is in work, and the pool knows whether the last task stops the run, or
  the last task is still in work. -/
  last : (p.running = [] ∧ p.stopped = p.started.getLast?.any r.stops) ∨
    ∃ t, p.running = [t] ∧ p.started.getLast? = some t ∧ p.stopped = false

variable {r : PoolRules} {tables : List String} {p : Pool}

/-- A table is started only if there is one, if nothing stopped the run, and if a thread is
free. -/
theorem of_start_mem_moves (h : Move.start ∈ p.moves r) :
    p.waiting ≠ [] ∧ p.stopped = false ∧ p.running.length < r.threads := by
  simp only [moves, List.mem_append] at h
  rcases h with ((h | h) | h) | h
  · split at h
    · cases h
    · simp at h
  · split at h
    · simp at h
    · cases h
  · simp at h
  · split at h
    · cases h
    · rename_i hfree
      simp only [Bool.or_eq_true, not_or, Bool.not_eq_true, List.isEmpty_eq_false_iff,
        decide_eq_false_iff_not, Nat.not_le] at hfree
      exact ⟨hfree.1.2, hfree.1.1, hfree.2⟩

namespace InTurn

/-- With one thread, tasks are started one after the other. -/
theorem apply (hthreads : r.threads = 1) (h : InTurn r p) {m : Move} (hm : m ∈ p.moves r) :
    InTurn r (p.apply r m) := by
  cases m with
  | start =>
    obtain ⟨hwaiting, hgoing, hfree⟩ := of_start_mem_moves hm
    -- nothing is in work, and none of the tasks that were started stops the run
    obtain ⟨-, hknown⟩ | ⟨t, hbusy, -, -⟩ := h.last
    · show InTurn r (p.start r)
      unfold Pool.start
      split
      · exact h
      · rename_i table rest _
        refine ⟨fun t ht => ?_, .inr ⟨⟨p.started.length, table, r.work table⟩, ?_, ?_, hgoing⟩⟩
        · rw [List.dropLast_concat] at ht
          rcases List.eq_nil_or_concat' p.started with hnil | ⟨earlier, last, hstarted⟩
          · rw [hnil] at ht
            cases ht
          · have hearlier := h.earlier
            rw [hgoing, hstarted, List.getLast?_concat] at hknown
            rw [hstarted, List.dropLast_concat] at hearlier
            rw [hstarted] at ht
            rcases List.mem_append.mp ht with ht | ht
            · exact hearlier t ht
            · rw [List.mem_singleton.mp ht]
              exact hknown.symm
        · have hidle : p.running = [] := by
            rw [hthreads] at hfree
            exact List.length_eq_zero_iff.mp (Nat.lt_one_iff.mp hfree)
          rw [hidle]
          rfl
        · exact List.getLast?_concat ..
    · rw [hbusy, hthreads] at hfree
      exact absurd hfree (Nat.lt_irrefl 1)
  | finish index =>
    show InTurn r (p.finish r index)
    unfold Pool.finish
    split
    · exact h
    · rename_i task htask
      obtain ⟨hidle, -⟩ | ⟨t, hbusy, hlast, hgoing⟩ := h.last
      · rw [hidle] at htask
        cases htask
      · -- it is the only task in work, and it says whether it stops the run
        rw [hbusy] at htask
        obtain ⟨rfl, rfl⟩ : index = 0 ∧ t = task := by
          simpa using List.getElem?_eq_some_iff.mp htask
        refine ⟨h.earlier, .inl ⟨?_, ?_⟩⟩
        · show p.running.eraseIdx 0 = []
          rw [hbusy]
          rfl
        · show (p.stopped || r.stops t) = p.started.getLast?.any r.stops
          rw [hgoing, hlast]
          rfl
  | post index =>
    show InTurn r (p.post index)
    unfold Pool.post
    split
    · exact h
    · exact ⟨h.earlier, h.last⟩
  | write =>
    show InTurn r p.write
    unfold Pool.write
    split
    · exact h
    · exact ⟨h.earlier, h.last⟩

/-- Every schedule keeps tasks one after the other. -/
theorem run (hthreads : r.threads = 1) (h : InTurn r p) (s : Schedule) :
    InTurn r (Pool.run r s p) := by
  fun_induction Pool.run r s p with
  | case1 p hmoves => exact h
  | case2 p m ms hmoves hlt ih => exact ih (h.apply hthreads (hmoves ▸ choose_mem (s p) m ms))

end InTurn

/-- **With one thread the reached tables are done**, whatever the schedule: these are the
tables that are started, their outcomes are what comes to the writer, and their scripts
are what it writes. -/
theorem run_reached (hthreads : r.threads = 1) (s : Schedule) (tables : List String) :
    (run r s { waiting := tables }).started = r.tasks (r.reached tables) ∧
      (run r s { waiting := tables }).scripts =
        entriesOf ((r.tasks (r.reached tables)).map Task.outcome) ∧
      ∃ came : List Outcome, came.Perm ((r.tasks (r.reached tables)).map Task.outcome) ∧
        (run r s { waiting := tables }).writer = Writer.receiveAll {} came := by
  have hsound := (Sound.new r tables).run s
  have hnew : InTurn r { waiting := tables } := ⟨fun _ ht => (nomatch ht), .inl ⟨rfl, rfl⟩⟩
  have hturn := hnew.run hthreads s
  obtain ⟨hidle, hleft⟩ :=
    idle_of_moves_eq_nil (Nat.le_of_eq hthreads.symm) (run_ended r s { waiting := tables })
  generalize run r s { waiting := tables } = p at hsound hturn hidle hleft ⊢
  obtain ⟨names, hnames, hstarted⟩ := hsound.begun
  have hends : ∀ t ∈ p.started, r.stops t = r.ends t.table := by
    rw [hstarted]
    intro t ht
    obtain ⟨i, hi, rfl⟩ := List.mem_mapIdx.mp ht
    exact r.stops_task i names[i]
  have htable : p.started.map Task.table = names := by
    rw [hstarted, r.map_table_tasks]
  -- the tables that were started are the reached ones
  have hreached : r.reached tables = names := by
    rw [← hnames]
    refine PoolRules.reached_append ?_ ?_
    · intro table hmem
      rw [← htable, ← List.map_dropLast] at hmem
      obtain ⟨t, ht, rfl⟩ := List.mem_map.mp hmem
      rw [← hends t (List.dropLast_subset _ ht)]
      exact hturn.earlier t ht
    · obtain ⟨-, hknown⟩ | ⟨-, -, -, hgoing⟩ := hturn.last
      · refine hleft.imp_right fun hstopped => ?_
        obtain ⟨t, hlast, hstops⟩ := (Option.any_eq_true ..).mp (hknown.symm.trans hstopped)
        refine ⟨t.table, ?_, ?_⟩
        · rw [← htable, List.getLast?_map, hlast]
          rfl
        · rw [← hends t (List.mem_of_getLast? hlast)]
          exact hstops
      · rw [hgoing] at hleft
        exact .inl (hleft.resolve_right Bool.false_ne_true)
  rw [hreached]
  have hscripts := hsound.scripts_eq hidle
  rw [hstarted] at hscripts
  obtain ⟨done, came, hholds, hflow⟩ := hsound.flow
  rw [hidle, zero_add, hstarted] at hflow
  exact ⟨hstarted, hscripts, came, Multiset.coe_eq_coe.mp hflow, hholds.eq_receiveAll⟩

end Pool

/-! ## Runs -/

namespace Job

variable {j : Job}

/-- The files hold what comes of some tables, one by one. -/
structure Written (j : Job) (names : List String) (t : FileTree) : Prop where
  primary : t.readText? j.outputs.primary =
    some (String.join ((j.bundlesOf names).map fun b => b.primarySql ++ "\n"))
  compatibility : t.readText? j.outputs.compatibility =
    some (String.join (((j.bundlesOf names).filter fun b => b.compatibilitySql ≠ "").map
      fun b => b.compatibilitySql ++ "\n"))
  log : t.readText? j.outputs.log = some (String.join (names.mapIdx j.logEntry))

/-- The report of a run that did the selected tables up to a position. -/
structure Reports (j : Job) (position : Nat) (s : Summary) : Prop where
  tables : s.tables = j.selected.length
  succeeded : s.succeeded = (j.bundlesOf (j.selected.take (position + 1))).length
  failed : s.failed = j.failuresOf (j.selected.take (position + 1))
  warnings : s.warnings =
    ((j.bundlesOf (j.selected.take (position + 1))).flatMap Ddl.Bundle.warnings).length
  skipped : s.skipped = j.selected.length - 1 - position
  outputs : s.outputs = some j.outputs
  /-- Every selected table is a success, a failure or skipped. -/
  total : s.tables = s.succeeded + s.failed.length + s.skipped
  /-- The run is a success if all selected tables are. -/
  success : s.isSuccess = true ↔ s.succeeded = s.tables

/-- The position of the last selected table that a run with one thread starts. -/
def lastPosition (j : Job) : Nat := j.rules.lastPosition j.selected

/-- A summary in which every table is counted says success if no table is missing. -/
theorem isSuccess_iff {s : Summary} (h : s.tables = s.succeeded + s.failed.length + s.skipped) :
    s.isSuccess = true ↔ s.succeeded = s.tables := by
  rw [Summary.isSuccess, Bool.and_eq_true, List.isEmpty_iff, beq_iff_eq, h,
    ← List.length_eq_zero_iff]
  omega

/-- The summary of a pool that started the selected tables up to a position reports them. -/
theorem summary_reports {p : Pool} {position : Nat}
    (hstarted : p.started = j.rules.tasks (j.selected.take (position + 1)))
    (hlt : position < j.selected.length) :
    j.Reports position (p.summary j.selected.length (some j.outputs)) := by
  have hbundles : p.bundles = j.bundlesOf (j.selected.take (position + 1)) := by
    rw [Pool.bundles, hstarted, bundles_of_tables]
  have hfailures : p.started.filterMap Task.failure? =
      j.failuresOf (j.selected.take (position + 1)) := by
    rw [hstarted, failures_of_tables]
  have hcount : p.started.length = position + 1 := by
    rw [hstarted, PoolRules.tasks, List.length_mapIdx, List.length_take, Nat.min_eq_left hlt]
  have htotal : j.selected.length =
      p.bundles.length + (p.started.filterMap Task.failure?).length +
        (j.selected.length - p.started.length) := by
    have hsplit := j.length_tables (j.selected.take (position + 1))
    rw [List.length_take, Nat.min_eq_left hlt] at hsplit
    rw [hbundles, hfailures, hcount]
    omega
  refine
    { tables := rfl
      succeeded := congrArg List.length hbundles
      failed := hfailures
      warnings := ?_
      skipped := ?_
      outputs := rfl
      total := htotal
      success := isSuccess_iff htotal }
  · show (List.flatMap _ p.bundles).length = _
    rw [hbundles]
  · show j.selected.length - p.started.length = _
    rw [hcount]
    omega

/-- Why a table has no bundle, if it has none. -/
def fault? (j : Job) (name : String) : Option Fault :=
  match j.bundle name with
  | .ok _ => none
  | .error f => some f

theorem fault?_eq_some_iff {name : String} {f : Fault} :
    j.fault? name = some f ↔ j.bundle name = .error f := by
  unfold fault?
  cases j.bundle name with
  | ok b => exact ⟨nofun, nofun⟩
  | error g =>
    exact ⟨fun h => congrArg _ (Option.some.inj h), fun h => congrArg _ (Except.error.inj h)⟩

/-- A table that does not stop the run has no fault of the run. -/
theorem scope_ne_run {name : String} {f : Fault} (hends : j.rules.ends name = false)
    (hf : j.fault? name = some f) : f.scope ≠ .run := by
  have hwork : j.rules.work name = .error f := fault?_eq_some_iff.mp hf
  rw [PoolRules.ends, hwork] at hends
  exact ne_of_beq_false (Bool.or_eq_false_iff.mp hends).2

/-- If only the last one of the tables may stop the run, the fault of the run is that of
the last table. -/
theorem runFault?_concat {p : Pool} {earlier : List String} {last : String}
    (hstarted : p.started = j.rules.tasks (earlier ++ [last]))
    (hearlier : ∀ table ∈ earlier, j.rules.ends table = false) :
    p.runFault? = (j.fault? last).filter fun f => f.scope == .run := by
  have hfaults : p.started.filterMap Task.fault? = (earlier ++ [last]).filterMap j.fault? := by
    rw [hstarted]
    exact PoolRules.filterMap_tasks (fun _ _ => rfl) _
  have hnone : (earlier.filterMap j.fault?).find? (fun f => f.scope == .run) = none := by
    rw [List.find?_eq_none]
    intro f hf hscope
    obtain ⟨name, hname, hfault⟩ := List.mem_filterMap.mp hf
    exact scope_ne_run (hearlier name hname) hfault (beq_iff_eq.mp hscope)
  rw [Pool.runFault?, hfaults, List.filterMap_append, List.find?_append, hnone, Option.none_or]
  cases h : j.fault? last with
  | none => simp [h]
  | some f => simp [h, Option.filter]

/-- **A run with one thread stops early**, whatever the schedule: for a snapshot of the
schema, if the output files can be written, the tables up to the first one that stops
the run are done, and that table is done itself. The outcomes of these tables come to
the writer, and the files hold what comes of them. If the last of them has a fault of
the run, the run fails with it; else the run succeeds, and it reports the other selected
tables as skipped. -/
theorem run_earlyStop (schedule : Pool.Schedule) {j : Job} {t : FileTree}
    (hthreads : j.settings.threads = 1)
    (hwrites : j.settings.dryRun = false)
    (hschema : Text.equalsIgnoringCase j.snapshot.schema j.settings.sourceSchema = true)
    (htables : j.selected ≠ [])
    (hfiles : j.CanWrite t) (hapart : j.ScriptsApart t) :
    (∃ came : List Outcome,
      came.Perm ((j.rules.tasks (j.selected.take (j.lastPosition + 1))).map Task.outcome) ∧
        (j.finalPool schedule j.selected).writer = Writer.receiveAll {} came) ∧
      ∃ name u, j.selected[j.lastPosition]? = some name ∧
        j.Written (j.selected.take (j.lastPosition + 1)) u ∧
        (∀ f, j.bundle name = .error f → f.scope = .run → Fails (Job.run schedule j) t f u) ∧
        ((∀ f, j.bundle name = .error f → f.scope ≠ .run) →
          ∃ s, Gives (Job.run schedule j) t s u ∧ j.Reports j.lastPosition s) := by
  obtain ⟨hstarted, hscripts, hcame⟩ := Pool.run_reached (r := j.rules) hthreads schedule j.selected
  refine ⟨hcame, ?_⟩
  have hroom : j.rules.HasRoom := PoolRules.hasRoom_of_one hthreads
  obtain ⟨v, hhold, hfails, hgives⟩ := run_end hwrites hschema hfiles hapart hroom schedule
  -- the schedule is gone from here on
  have hall : (j.finalPool schedule j.selected).scripts = _ :=
    hscripts.trans (j.scripts_of_tables _)
  rw [hall] at hhold
  obtain ⟨earlier, last, rest, hselected, hearlier, hlast⟩ := PoolRules.exists_last htables
  have hposition : j.lastPosition = earlier.length := by
    rw [lastPosition, hselected]
    exact PoolRules.lastPosition_concat hearlier hlast
  have hreached : j.rules.reached j.selected = earlier ++ [last] := by
    rw [PoolRules.reached, show j.rules.lastPosition j.selected = earlier.length from hposition,
      hselected, List.take_length_add_append]
    rfl
  have hfault : (j.finalPool schedule j.selected).runFault?
      = (j.fault? last).filter fun f => f.scope == .run :=
    runFault?_concat (hstarted.trans (congrArg _ hreached)) hearlier
  refine ⟨last, v, ?_, ⟨hhold.primary, hhold.compatibility, hhold.log⟩, ?_, ?_⟩
  · rw [hposition, hselected]
    simp
  · intro f hf hscope
    refine hfails f ?_
    rw [hfault, fault?_eq_some_iff.mpr hf]
    simp [Option.filter, hscope]
  · intro hlocal
    have hnone : (j.finalPool schedule j.selected).runFault? = none := by
      rw [hfault, Option.filter_eq_none_iff]
      intro f hf hscope
      exact hlocal f (fault?_eq_some_iff.mp hf) (beq_iff_eq.mp hscope)
    have hlt : j.lastPosition < j.selected.length := by
      rw [hposition, hselected, List.length_append, List.length_cons]
      omega
    exact ⟨_, hgives hnone, summary_reports hstarted hlt⟩

/-- A job for three tables that fails fast. The second one has no columns. -/
def hastyJob : Job where
  settings := { sourceSchema := "marvin", outputDir := "out", threads := 1, failFast := true }
  snapshot := ⟨"MARVIN", "8.0.28",
    [Ddl.Request.ordersTable, { name := "EMPTY" }, { name := "AUDIT" }]⟩

/-- In an empty tree of files it does the first two tables, and the third one is skipped. -/
theorem hastyJob_earlyStop :
    ∃ s u, Gives (Job.run Pool.eager hastyJob) {} s u ∧ hastyJob.Written ["ORDERS", "EMPTY"] u ∧
      s.succeeded = 1 ∧ s.failed.length = 1 ∧ s.skipped = 1 := by
  have hposition : hastyJob.lastPosition = 1 := by decide +kernel
  have hreached : hastyJob.selected.take 2 = ["ORDERS", "EMPTY"] := by decide +kernel
  have hscope : hastyJob.bundle "EMPTY" = .error (.emptyTable "marvin" "EMPTY") := by
    decide +kernel
  obtain ⟨-, name, u, hname, hwritten, -, hlocal⟩ := run_earlyStop Pool.eager (j := hastyJob)
    rfl rfl (by decide +kernel) (by decide +kernel) (canWrite_empty rfl rfl)
    (scriptsApart_empty rfl rfl)
  rw [hposition] at hname hwritten hlocal
  rw [hreached] at hwritten
  obtain rfl : "EMPTY" = name := Option.some.inj (Eq.trans (by decide +kernel) hname)
  obtain ⟨s, hrun, hreport⟩ := hlocal (by
    rw [hscope]
    rintro f hf
    cases hf
    decide)
  refine ⟨s, u, hrun, hwritten, ?_, ?_, ?_⟩
  · rw [hreport.succeeded]
    decide +kernel
  · rw [hreport.failed]
    decide +kernel
  · rw [hreport.skipped]
    decide +kernel

end Job

end CatalogDdl
