import CatalogDdl.Proofs.EarlyStop

/-!
# Runs that leave no trace

A run makes its output files when it knows which tables to convert, and not before.
Everything up to there only reads: the settings are checked, and the snapshot is loaded
and asked for its tables. So a run that is rejected for its settings or for its snapshot
leaves the files as they are, and so does a dry run, which makes no files at all.

A dry run tells what the real run would report. With one thread both do the same tables,
whatever their schedules, and once the output files have been made they can be written.

- `onTree`: what comes of a program on a tree of files, and the tree that it leaves.
- `OnlyReads`: a program leaves every tree as it is. It is followed through a program
  step by step.
- `FileTree.snapshot?`: the snapshot in a file. It is what is loaded, if it is there.
- `Settings.Rejected`: the settings or the snapshot are of no use for a run.
- `Settings.CanCreate`: the output files can be made.
- `Pool.report`: what a pool reports at its end. It depends on the started tables only.
- `Settings.run_dry`: rejected runs and dry runs leave no trace, and a dry run reports
  what the real run does.
-/

namespace CatalogDdl

/-! ## Programs that only read -/

/-- What comes of a program on a tree of files, and the tree that it leaves behind. -/
def onTree {α : Type} (x : ExceptT Fault (StateM FileTree) α) (t : FileTree) :
    Except Fault α × FileTree :=
  x.run.run t

/-- A program leaves every tree of files as it is. -/
def OnlyReads {α : Type} (x : ExceptT Fault (StateM FileTree) α) : Prop :=
  ∀ t, (onTree x t).2 = t

variable {α β : Type} {t u : FileTree}

/-- A program goes on from the result and the tree of its first step. -/
theorem Gives.onTree_bind {x : ExceptT Fault (StateM FileTree) α}
    {f : α → ExceptT Fault (StateM FileTree) β} {a : α} (h : Gives x t a u) :
    onTree (x >>= f) t = onTree (f a) u := by
  unfold Gives at h
  unfold onTree
  rw [ExceptT.run_bind, StateT.run_bind, h]
  rfl

/-- A program ends with the fault of its first step. -/
theorem Fails.onTree_bind {x : ExceptT Fault (StateM FileTree) α} {fault : Fault}
    (h : Fails x t fault u) (f : α → ExceptT Fault (StateM FileTree) β) :
    onTree (x >>= f) t = (.error fault, u) := by
  unfold Fails at h
  unfold onTree
  rw [ExceptT.run_bind, StateT.run_bind, h]
  rfl

namespace OnlyReads

theorem pure (a : α) : OnlyReads (Pure.pure a) := fun _ => rfl

theorem throw (fault : Fault) :
    OnlyReads (MonadExcept.throw fault : ExceptT Fault (StateM FileTree) α) := fun _ => rfl

/-- A program that only reads succeeds or fails, on the tree that it is given. -/
theorem gives_or_fails {x : ExceptT Fault (StateM FileTree) α} (h : OnlyReads x) (t : FileTree) :
    (∃ a, Gives x t a t) ∨ ∃ fault, Fails x t fault t := by
  have hsame := h t
  cases hx : onTree x t with
  | mk result u =>
    rw [hx] at hsame
    obtain rfl : u = t := hsame
    cases result with
    | ok a => exact .inl ⟨a, hx⟩
    | error fault => exact .inr ⟨fault, hx⟩

/-- Programs that only read can be put one after the other. -/
theorem bind {x : ExceptT Fault (StateM FileTree) α} {f : α → ExceptT Fault (StateM FileTree) β}
    (hx : OnlyReads x) (hf : ∀ a, OnlyReads (f a)) : OnlyReads (x >>= f) := by
  intro t
  rcases hx.gives_or_fails t with ⟨a, ha⟩ | ⟨fault, hfault⟩
  · rw [ha.onTree_bind]
    exact hf a t
  · rw [hfault.onTree_bind]

end OnlyReads

/-! ## Up to the tables -/

/-- The snapshot in a file, if there is one. -/
def FileTree.snapshot? (t : FileTree) (path : String) : Option Snapshot :=
  (t.readText? path).bind fun text => (Snapshot.ofText text).toOption

/-- Checking the settings only looks whether the snapshot is there. -/
theorem Settings.validate_onlyReads (s : Settings) :
    OnlyReads (s.validate : ExceptT Fault (StateM FileTree) Unit) := by
  unfold validate
  refine OnlyReads.bind (fun _ => rfl) fun found => ?_
  cases s.firstInvalid? found with
  | none => exact OnlyReads.pure ()
  | some cause => exact OnlyReads.throw _

namespace Snapshot

variable {path : String}

/-- What is read from a file before a snapshot is made of it. -/
theorem gives_readText? {text? : Option String} (h : t.readText? path = text?) :
    Gives (liftM (FileSystem.readText? path : StateM FileTree (Option String))) t text? t :=
  Gives.lift (congrArg (·, t) h)

/-- The snapshot in a file is the one that is loaded. -/
theorem load_of_snapshot? {s : Snapshot} (h : t.snapshot? path = some s) :
    Gives (Snapshot.load path) t s t := by
  obtain ⟨text, htext, hs⟩ := Option.bind_eq_some_iff.mp h
  unfold Snapshot.load
  refine (gives_readText? htext).bind ?_
  cases hparsed : Snapshot.ofText text with
  | error fault =>
    rw [hparsed] at hs
    cases hs
  | ok snapshot =>
    rw [hparsed] at hs
    cases hs
    simp only [hparsed]
    exact Gives.pure _ t

/-- Without a snapshot in the file nothing is loaded. -/
theorem load_fails (h : t.snapshot? path = none) :
    ∃ fault, Fails (Snapshot.load path) t fault t := by
  unfold Snapshot.load
  cases htext : t.readText? path with
  | none => exact ⟨_, Fails.bind (gives_readText? htext) (Fails.throw _ t)⟩
  | some text =>
    refine ⟨.catalog (.unreadable path), Fails.bind (gives_readText? htext) ?_⟩
    cases hparsed : Snapshot.ofText text with
    | error fault =>
      simp only [hparsed]
      exact Fails.throw _ t
    | ok snapshot =>
      rw [FileTree.snapshot?, htext, Option.bind_some, hparsed] at h
      cases h

theorem load_onlyReads (path : String) : OnlyReads (Snapshot.load path) := by
  intro t
  cases h : t.snapshot? path with
  | none =>
    obtain ⟨fault, hfails⟩ := load_fails h
    exact congrArg Prod.snd hfails
  | some s => exact congrArg Prod.snd (load_of_snapshot? h)

end Snapshot

/-- A run from the settings alone is a run of a job, once the settings are checked and the
snapshot is loaded. -/
theorem Settings.onTree_run (schedule : Pool.Schedule) (s : Settings) {snapshot : Snapshot}
    (hvalid : Gives s.validate t () t) (hload : t.snapshot? s.catalogFile = some snapshot) :
    onTree (Settings.run schedule s) t = onTree (Job.run schedule ⟨s, snapshot⟩) t := by
  unfold Settings.run
  rw [hvalid.onTree_bind, (Snapshot.load_of_snapshot? hload).onTree_bind]

/-- The settings or the snapshot are of no use for a run: the settings make no sense, there is
no snapshot in the file that they name, or it is one of another schema. -/
inductive Settings.Rejected (s : Settings) (t : FileTree) : Prop where
  | invalid {fault : Fault} {u : FileTree} (h : Fails s.validate t fault u)
  | unreadable (h : t.snapshot? s.catalogFile = none)
  | otherSchema {snapshot : Snapshot} (h : t.snapshot? s.catalogFile = some snapshot)
    (hschema : Text.equalsIgnoringCase snapshot.schema s.sourceSchema = false)

/-- A rejected run fails, and it leaves the files as they are. -/
theorem Settings.Rejected.run_fails {s : Settings} (h : s.Rejected t)
    (schedule : Pool.Schedule) : ∃ fault, Fails (Settings.run schedule s) t fault t := by
  rcases s.validate_onlyReads.gives_or_fails t with hvalid | ⟨fault, hinvalid⟩
  · obtain ⟨⟨⟩, hvalid⟩ := hvalid
    cases h with
    | invalid hinvalid =>
      unfold Gives at hvalid
      unfold Fails at hinvalid
      rw [hvalid] at hinvalid
      cases hinvalid
    | unreadable hnone =>
      obtain ⟨fault, hload⟩ := Snapshot.load_fails hnone
      refine ⟨fault, ?_⟩
      show onTree (Settings.run schedule s) t = _
      unfold Settings.run
      rw [hvalid.onTree_bind, hload.onTree_bind]
    | @otherSchema snapshot hload hschema =>
      -- the settings are right and the snapshot is there, so it is the selection that fails
      have hselection : (Job.mk s snapshot).selection
          = .error (.catalog (.otherSchema snapshot.schema s.sourceSchema)) := by
        unfold Job.selection Snapshot.tableNames Snapshot.checkSchema
        rw [hschema]
        rfl
      refine ⟨.catalog (.otherSchema snapshot.schema s.sourceSchema), ?_⟩
      show onTree (Settings.run schedule s) t = _
      rw [s.onTree_run schedule hvalid hload]
      unfold Job.run
      rw [hselection]
      rfl
  · exact ⟨fault, hinvalid.onTree_bind _⟩

/-! ## Runs over the tables -/

/-- A summary without the output files. -/
def Summary.withoutOutputs (s : Summary) : Summary := { s with outputs := none }

/-- What a pool reports at its end. -/
def Pool.report (p : Pool) (tables : Nat) (outputs : Option Outputs) : Except Fault Summary :=
  match p.runFault? with
  | some fault => .error fault
  | none => .ok (p.summary tables outputs)

/-- A report depends on the started tables and not on what became of them afterwards. -/
theorem Pool.report_congr {p q : Pool} (h : p.started = q.started) (tables : Nat)
    (outputs : Option Outputs) : p.report tables outputs = q.report tables outputs := by
  unfold report runFault? summary bundles
  rw [h]

theorem Pool.map_report (p : Pool) (tables : Nat) (outputs : Option Outputs) :
    (p.report tables outputs).map Summary.withoutOutputs = p.report tables none := by
  unfold report
  cases p.runFault? <;> rfl

namespace Job

variable {j : Job}

/-- The end of a run is its report. -/
theorem onTree_end (p : Pool) (tables : Nat) (outputs : Option Outputs) (t : FileTree) :
    onTree (match p.runFault? with
      | some fault => throw fault
      | none => Pure.pure (p.summary tables outputs) : ExceptT Fault (StateM FileTree) Summary) t =
      (p.report tables outputs, t) := by
  unfold Pool.report
  cases p.runFault? <;> rfl

/-- A dry run makes no files and writes none. -/
theorem onTree_run_dry (schedule : Pool.Schedule) (hdry : j.settings.dryRun = true)
    (t : FileTree) :
    onTree (Job.run schedule j) t =
      (j.selection >>= fun tables => j.rules.checkRoom >>= fun _ =>
        (j.finalPool schedule tables).report tables.length none, t) := by
  unfold Job.run
  cases hselection : j.selection with
  | error fault => rfl
  | ok tables =>
    have hcreate : (j.createOutputs : ExceptT Fault (StateM FileTree) _) = Pure.pure none := by
      unfold createOutputs
      rw [if_pos hdry]
    rw [(Gives.liftExcept rfl t).onTree_bind, hcreate, (Gives.pure none t).onTree_bind]
    cases hroom : j.rules.checkRoom with
    | error fault => exact (Fails.liftExcept rfl t).onTree_bind _
    | ok _ =>
      rw [(Gives.liftExcept rfl t).onTree_bind]
      exact onTree_end _ _ _ t

end Job

/-- **A dry run leaves no trace.** -/
theorem Settings.run_onlyReads (schedule : Pool.Schedule) {s : Settings} (hdry : s.dryRun = true) :
    OnlyReads (Settings.run schedule s) := by
  unfold Settings.run
  refine s.validate_onlyReads.bind fun _ => (Snapshot.load_onlyReads _).bind fun snapshot => ?_
  intro t
  exact congrArg Prod.snd (Job.onTree_run_dry (j := ⟨s, snapshot⟩) schedule hdry t)

/-! ## Runs that make files -/

/-- A file can be made where one can be put, and in no other case. -/
theorem FileTree.exists_of_createFile {path : String} (h : t.createFile path = (u, true)) :
    ∃ l, t.Writable path l ∧ u = t.put l (.file "") := by
  unfold createFile at h
  split at h
  · cases h
  · rename_i l hl
    split at h
    · cases h
    · rename_i hfree
      cases h
      exact ⟨l, ⟨hl, Bool.eq_false_iff.mpr hfree⟩, rfl⟩

/-- The output files can be made, one after the other. -/
def Settings.CanCreate (s : Settings) (t : FileTree) : Prop :=
  ∃ u v w x, t.createDirs s.outputDir = (u, true) ∧
    u.createFile (Outputs.of s.outputDir s.sourceSchema).primary = (v, true) ∧
    v.createFile (Outputs.of s.outputDir s.sourceSchema).compatibility = (w, true) ∧
    w.createFile (Outputs.of s.outputDir s.sourceSchema).log = (x, true)

namespace Job

variable {j : Job}

/-- Output files that can be made can be written afterwards. -/
theorem exists_written (hwrites : j.settings.dryRun = false) (hfiles : j.settings.CanCreate t) :
    ∃ u, Gives j.createOutputs t (some j.outputs) u ∧
      ∀ scripts, ∃ v, Gives (writeOutputs scripts (some j.outputs)) u () v := by
  obtain ⟨u, v, w, x, hdirs, hprimary, hcompatibility, hlog⟩ := hfiles
  obtain ⟨a, ha, rfl⟩ := FileTree.exists_of_createFile hprimary
  obtain ⟨b, hb, rfl⟩ := FileTree.exists_of_createFile hcompatibility
  obtain ⟨c, hc, rfl⟩ := FileTree.exists_of_createFile hlog
  refine ⟨_, gives_createOutputs hwrites hdirs ha hb hc, fun scripts => ?_⟩
  -- no file that is put anywhere is in the way of another one
  have ha' := ((ha.put ha.free "").put hb.free "").put hc.free ""
  have hb' := ((hb.put hb.free "").put hc.free "").put ha'.free scripts.primary
  have hc' := ((hc.put hc.free "").put ha'.free scripts.primary).put hb'.free scripts.compatibility
  exact ⟨_, Outputs.gives_writeOutputs ha' hb' hc'⟩

/-- A run that can make its files reports what its pool reports, if there is a mailbox. -/
theorem onTree_run (schedule : Pool.Schedule) (hwrites : j.settings.dryRun = false)
    (hfiles : j.settings.CanCreate t) :
    (onTree (Job.run schedule j) t).1 = j.selection >>= fun tables =>
      j.rules.checkRoom >>= fun _ =>
        (j.finalPool schedule tables).report tables.length (some j.outputs) := by
  obtain ⟨u, hcreate, hwrite⟩ := exists_written hwrites hfiles
  unfold Job.run
  cases hselection : j.selection with
  | error fault => rfl
  | ok tables =>
    rw [(Gives.liftExcept rfl t).onTree_bind, hcreate.onTree_bind]
    cases hroom : j.rules.checkRoom with
    | error fault => exact congrArg Prod.fst ((Fails.liftExcept rfl u).onTree_bind _)
    | ok _ =>
      obtain ⟨v, hv⟩ := hwrite (j.finalPool schedule tables).scripts
      rw [(Gives.liftExcept rfl u).onTree_bind, hv.onTree_bind]
      exact congrArg Prod.fst (onTree_end _ _ _ v)

end Job

/-- With one thread the report of a run does not depend on its schedule. -/
theorem Job.report_eq (schedule schedule' : Pool.Schedule) {j : Job}
    (hthreads : j.settings.threads = 1) (tables : List String) (outputs : Option Outputs) :
    (j.finalPool schedule tables).report tables.length outputs =
      (j.finalPool schedule' tables).report tables.length outputs := by
  have hstarted := (Pool.run_reached (r := j.rules) hthreads schedule tables).1
  have hstarted' := (Pool.run_reached (r := j.rules) hthreads schedule' tables).1
  exact Pool.report_congr (hstarted.trans hstarted'.symm) _ _

/-- What happens before a run comes to its tables is the same for a dry run. -/
theorem Settings.run_start (s : Settings) (t : FileTree) :
    (∃ fault, ∀ b schedule, onTree (Settings.run schedule { s with dryRun := b }) t =
        (.error fault, t)) ∨
      ∃ snapshot, ∀ b schedule, onTree (Settings.run schedule { s with dryRun := b }) t =
        onTree (Job.run schedule ⟨{ s with dryRun := b }, snapshot⟩) t := by
  rcases s.validate_onlyReads.gives_or_fails t with ⟨⟨⟩, hvalid⟩ | ⟨fault, hinvalid⟩
  · cases hload : t.snapshot? s.catalogFile with
    | none =>
      obtain ⟨fault, hfails⟩ := Snapshot.load_fails hload
      refine .inl ⟨fault, fun b schedule => ?_⟩
      have hvalid' : Gives { s with dryRun := b }.validate t () t := hvalid
      exact hvalid'.onTree_bind.trans (hfails.onTree_bind _)
    | some snapshot =>
      exact .inr ⟨snapshot, fun b schedule =>
        Settings.onTree_run schedule { s with dryRun := b } hvalid hload⟩
  · refine .inl ⟨fault, fun b schedule => ?_⟩
    have hinvalid' : Fails { s with dryRun := b }.validate t fault t := hinvalid
    exact hinvalid'.onTree_bind _

/-- **A dry run reports what the real run does**, up to the output files. -/
theorem Settings.run_predicted (schedule schedule' : Pool.Schedule) {s : Settings}
    (hthreads : s.threads = 1) (hfiles : s.CanCreate t) :
    (onTree (Settings.run schedule { s with dryRun := true }) t).1 =
      (onTree (Settings.run schedule' { s with dryRun := false }) t).1.map
        Summary.withoutOutputs := by
  rcases s.run_start t with ⟨fault, hfails⟩ | ⟨snapshot, hrun⟩
  · rw [hfails, hfails]
    rfl
  · rw [hrun, hrun, Job.onTree_run_dry schedule rfl, Job.onTree_run schedule' rfl hfiles]
    -- both jobs select the same tables and do the same with each of them
    generalize hj : Job.mk { s with dryRun := false } snapshot = j
    have hsame : (Job.mk { s with dryRun := true } snapshot).selection = j.selection := hj ▸ rfl
    have hpool : ∀ tables,
        (Job.mk { s with dryRun := true } snapshot).finalPool schedule tables =
          j.finalPool schedule tables := fun _ => hj ▸ rfl
    have hrules : (Job.mk { s with dryRun := true } snapshot).rules.checkRoom =
        j.rules.checkRoom := hj ▸ rfl
    have hthreads' : j.settings.threads = 1 := hj ▸ hthreads
    have hroom := PoolRules.checkRoom_eq_ok (PoolRules.hasRoom_of_one (r := j.rules) hthreads')
    simp only [hsame, hpool, hrules, hroom]
    cases j.selection with
    | error fault => rfl
    | ok tables =>
      show (j.finalPool schedule tables).report tables.length none =
        ((j.finalPool schedule' tables).report tables.length (some j.outputs)).map _
      rw [Pool.map_report]
      exact Job.report_eq schedule schedule' hthreads' tables none

/-- **Runs that leave no trace**: a run that is rejected for its settings or its snapshot leaves
the files as they are, and so does a dry run. If the output files can be made, a dry run with
one thread fails like the real run, or both succeed and report the same, the output files
apart. -/
theorem Settings.run_dry (schedule schedule' : Pool.Schedule) (s : Settings) (t : FileTree) :
    (s.Rejected t → ∃ fault, Fails (Settings.run schedule s) t fault t) ∧
      (s.dryRun = true → (onTree (Settings.run schedule s) t).2 = t) ∧
      (s.threads = 1 → s.CanCreate t →
        (onTree (Settings.run schedule { s with dryRun := true }) t).1 =
          (onTree (Settings.run schedule' { s with dryRun := false }) t).1.map
            Summary.withoutOutputs) := by
  refine ⟨?_, ?_, ?_⟩
  · intro hrejected
    exact hrejected.run_fails schedule
  · intro hdry
    exact Settings.run_onlyReads schedule hdry t
  · intro hthreads hfiles
    exact Settings.run_predicted schedule schedule' hthreads hfiles

/-- Settings for a run that fails fast, with one thread. -/
def nightlySettings : Settings :=
  { catalogFile := "catalog.json", sourceSchema := "marvin", outputDir := "out", threads := 1,
    failFast := true }

/-- A tree of files with a snapshot of two tables, the first of which has no columns. -/
def nightlyTree : FileTree where
  entries := [(["catalog.json"], .file
    ("\x7b\"schema\":\"MARVIN\",\"target_version\":\"8.0.28\",\"tables\":["
      ++ "\x7b\"table_name\":\"EMPTY\"\x7d,\x7b\"table_name\":\"AUDIT\"\x7d]\x7d"))]

/-- A dry run says that the first table fails and the second one is skipped, and so does the
real run. Where there is no snapshot nothing happens. -/
theorem nightlyRun_dry :
    (onTree (Settings.run Pool.eager { nightlySettings with dryRun := true }) nightlyTree).2 =
        nightlyTree ∧
      (∃ s, (onTree (Settings.run Pool.eager { nightlySettings with dryRun := false })
          nightlyTree).1 = .ok s ∧
        s.withoutOutputs =
          ⟨2, 0, [⟨"EMPTY", "oracle schema [marvin] table [EMPTY] has no columns"⟩], 1, 0, none⟩) ∧
      ∃ fault, Fails (Settings.run Pool.eager nightlySettings) {} fault {} := by
  have hcreate : nightlySettings.CanCreate nightlyTree := ⟨_, _, _, _, rfl, rfl, rfl, rfl⟩
  have hnone : ({} : FileTree).snapshot? "catalog.json" = none := rfl
  have hdry : (onTree (Settings.run Pool.eager { nightlySettings with dryRun := true })
      nightlyTree).1 = .ok
        ⟨2, 0, [⟨"EMPTY", "oracle schema [marvin] table [EMPTY] has no columns"⟩], 1, 0, none⟩ := by
    decide +kernel
  obtain ⟨-, htree, -⟩ :=
    Settings.run_dry Pool.eager Pool.eager { nightlySettings with dryRun := true } nightlyTree
  obtain ⟨-, -, hsame⟩ := Settings.run_dry Pool.eager Pool.eager nightlySettings nightlyTree
  obtain ⟨hrejected, -, -⟩ := Settings.run_dry Pool.eager Pool.eager nightlySettings {}
  refine ⟨htree rfl, ?_, hrejected (.unreadable hnone)⟩
  have hreal := hsame rfl hcreate
  rw [hdry] at hreal
  cases hresult : (onTree (Settings.run Pool.eager { nightlySettings with dryRun := false })
      nightlyTree).1 with
  | error fault =>
    rw [hresult] at hreal
    cases hreal
  | ok s =>
    rw [hresult] at hreal
    exact ⟨s, rfl, (Except.ok.inj hreal).symm⟩

end CatalogDdl
