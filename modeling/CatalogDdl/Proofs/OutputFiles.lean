import CatalogDdl.Proofs.OutputPaths
import CatalogDdl.Run.Job

/-!
# Making and writing the output files

A run makes its three files before it starts a table, and writes them when all tables
are done. Both succeed if the paths of the files lead to three locations where files
can be put; and then each file has its own script in it, whatever it had before.

- `Gives`: a program on a tree of files succeeds, with a result and a tree that it
  leaves behind. It is followed through a program step by step.
- `Fails`: a program fails, with a fault and a tree that it leaves behind.
- `Outputs.Ready`: the output files are at three locations, none of which has a
  directory. Putting files there or elsewhere keeps them ready.
- `Job.CanWrite`: the output files of a job can be made and written.
- `Job.ScriptsApart`: its two scripts are different files. This is so for every schema without
  a slash in its name.
- `Job.CanWrite.create`, `Outputs.Ready.write`: the files are made, and they are written.
-/

namespace CatalogDdl

/-! ## Programs on a tree of files -/

/-- A program succeeds on a tree with a result, and leaves a tree behind. -/
def Gives {α : Type} (x : ExceptT Fault (StateM FileTree) α) (t : FileTree) (a : α)
    (u : FileTree) : Prop := x.run.run t = (.ok a, u)

namespace Gives

variable {α β : Type} {t u v : FileTree}

theorem pure (a : α) (t : FileTree) : Gives (Pure.pure a) t a t := rfl

/-- A program goes on with the result and the tree of its first step. -/
theorem bind {x : ExceptT Fault (StateM FileTree) α} {f : α → ExceptT Fault (StateM FileTree) β}
    {a : α} {b : β} (hx : Gives x t a u) (hf : Gives (f a) u b v) : Gives (x >>= f) t b v := by
  unfold Gives at hx hf ⊢
  rw [ExceptT.run_bind, StateT.run_bind, hx]
  exact hf

/-- What does not look at files leaves them as they are. -/
theorem liftExcept {x : Except Fault α} {a : α} (h : x = .ok a) (t : FileTree) :
    Gives (liftExcept x) t a t := by
  subst h
  rfl

theorem lift {operation : StateM FileTree α} {a : α} (h : operation.run t = (a, u)) :
    Gives (liftM operation) t a u := by
  unfold Gives
  rw [ExceptT.run_liftM, StateT.run_map, h]
  rfl

/-- An operation on files that succeeds is no obstacle. -/
theorem demand {operation : StateM FileTree Bool} (h : operation.run t = (true, u)) :
    Gives (Job.demand operation) t () u :=
  (lift h).bind (pure () u)

variable {path : String} {l : Location}

theorem createDirs (h : t.createDirs path = (u, true)) :
    Gives (Job.demand (FileSystem.createDirs path)) t () u := by
  refine demand ?_
  show ((t.createDirs path).2, (t.createDirs path).1) = _
  rw [h]

theorem writeText (h : t.Writable path l) (text : String) :
    Gives (Job.demand (FileSystem.writeText path text)) t () (t.put l (.file text)) := by
  refine demand ?_
  show ((t.writeText path text).2, (t.writeText path text).1) = _
  rw [h.writeText_eq]

/-- Making an empty file is giving it the empty text. -/
theorem createFile (h : t.Writable path l) :
    Gives (Job.demand (FileSystem.createFile path)) t () (t.put l (.file "")) :=
  writeText h ""

end Gives

/-- A program fails on a tree with a fault, and leaves a tree behind. -/
def Fails {α : Type} (x : ExceptT Fault (StateM FileTree) α) (t : FileTree) (f : Fault)
    (u : FileTree) : Prop := x.run.run t = (.error f, u)

namespace Fails

variable {α β : Type} {t u v : FileTree} {fault : Fault}

theorem throw (fault : Fault) (t : FileTree) :
    Fails (MonadExcept.throw fault : ExceptT Fault (StateM FileTree) α) t fault t := rfl

/-- A program fails if it fails after its first step. -/
theorem bind {x : ExceptT Fault (StateM FileTree) α} {f : α → ExceptT Fault (StateM FileTree) β}
    {a : α} (hx : Gives x t a u) (hf : Fails (f a) u fault v) : Fails (x >>= f) t fault v := by
  unfold Gives at hx
  unfold Fails at hf ⊢
  rw [ExceptT.run_bind, StateT.run_bind, hx]
  exact hf

/-- What does not look at files fails where it stands. -/
theorem liftExcept {x : Except Fault α} (h : x = .error fault) (t : FileTree) :
    Fails (liftExcept x) t fault t := by
  subst h
  rfl

/-- What would come after a failure does not happen. -/
theorem bind_left {x : ExceptT Fault (StateM FileTree) α} (h : Fails x t fault u)
    (f : α → ExceptT Fault (StateM FileTree) β) : Fails (x >>= f) t fault u := by
  unfold Fails at h ⊢
  rw [ExceptT.run_bind, StateT.run_bind, h]
  rfl

/-- A program that fails does not succeed. -/
theorem not_gives {x : ExceptT Fault (StateM FileTree) α} {a : α} (h : Fails x t fault u) :
    ¬ Gives x t a v := by
  unfold Gives
  rw [h]
  exact nofun

end Fails

/-! ## The files of a run -/

namespace Outputs

/-- The output files are at three locations, none of which has a directory. -/
structure Ready (o : Outputs) (t : FileTree) (a b c : Location) : Prop where
  primary : t.Writable o.primary a
  compatibility : t.Writable o.compatibility b
  log : t.Writable o.log c
  scripts_apart : a ≠ b
  primary_apart : a ≠ c
  compatibility_apart : b ≠ c

/-- The output files hold scripts. -/
structure Hold (o : Outputs) (t : FileTree) (s : Scripts) : Prop where
  primary : t.readText? o.primary = some s.primary
  compatibility : t.readText? o.compatibility = some s.compatibility
  log : t.readText? o.log = some s.log

variable {o : Outputs} {t : FileTree} {a b c : Location}

/-- The files are written one after the other. -/
theorem gives_writeOutputs {s : Scripts} (ha : t.Writable o.primary a)
    (hb : (t.put a (.file s.primary)).Writable o.compatibility b)
    (hc : ((t.put a (.file s.primary)).put b (.file s.compatibility)).Writable o.log c) :
    Gives (Job.writeOutputs s (some o)) t ()
      (((t.put a (.file s.primary)).put b (.file s.compatibility)).put c (.file s.log)) :=
  (Gives.writeText ha s.primary).bind <| (Gives.writeText hb s.compatibility).bind <|
    Gives.writeText hc s.log

namespace Ready

/-- They stay ready when a file is put somewhere. -/
theorem put (h : o.Ready t a b c) {l : Location} (hl : t.isDirectory l = false) (text : String) :
    o.Ready (t.put l (.file text)) a b c :=
  { h with
    primary := h.primary.put hl text
    compatibility := h.compatibility.put hl text
    log := h.log.put hl text }

/-- They stay ready while the scripts are put into their files. -/
theorem put_scripts (h : o.Ready t a b c) (s : Scripts) :
    o.Ready (t.put a (.file s.primary)) a b c ∧
      o.Ready ((t.put a (.file s.primary)).put b (.file s.compatibility)) a b c := by
  have hprimary := h.put h.primary.free s.primary
  exact ⟨hprimary, hprimary.put hprimary.compatibility.free s.compatibility⟩

/-- What is put into the files one after the other is read, file by file. -/
theorem hold (h : o.Ready t a b c) (s : Scripts) :
    o.Hold (((t.put a (.file s.primary)).put b (.file s.compatibility)).put c (.file s.log)) s := by
  obtain ⟨h₁, h₂⟩ := h.put_scripts s
  refine ⟨?_, ?_, ?_⟩
  · -- the texts that are written later are written elsewhere
    rw [h₂.primary.readText?_put_other h₂.log.free h.primary_apart,
      h₁.primary.readText?_put_other h₁.compatibility.free h.scripts_apart]
    exact h.primary.readText?_put_self s.primary
  · rw [h₂.compatibility.readText?_put_other h₂.log.free h.compatibility_apart]
    exact h₁.compatibility.readText?_put_self s.compatibility
  · exact h₂.log.readText?_put_self s.log

/-- Files that are ready are written. -/
theorem write (h : o.Ready t a b c) (s : Scripts) :
    ∃ u, Gives (Job.writeOutputs s (some o)) t () u ∧ o.Hold u s := by
  obtain ⟨h₁, h₂⟩ := h.put_scripts s
  exact ⟨_, gives_writeOutputs h.primary h₁.compatibility h₂.log, h.hold s⟩

end Ready

end Outputs

namespace Job

variable {j : Job} {t : FileTree}

/-- The output files of a job can be made and written: its directory can be made, and
then the paths of the files lead to locations where files can be put. -/
def CanWrite (j : Job) (t : FileTree) : Prop :=
  ∃ u a b c, t.createDirs j.settings.outputDir = (u, true) ∧
    u.Writable j.outputs.primary a ∧
    u.Writable j.outputs.compatibility b ∧
    u.Writable j.outputs.log c

/-- The two scripts of a job are different files: once its directory has been made, their
paths lead to different locations. -/
def ScriptsApart (j : Job) (t : FileTree) : Prop :=
  (t.createDirs j.settings.outputDir).1.locate? j.outputs.primary ≠
    (t.createDirs j.settings.outputDir).1.locate? j.outputs.compatibility

/-- For a schema without a slash in its name the scripts are always different files. -/
theorem scriptsApart_of_schema (hschema : '/' ∉ j.settings.sourceSchema.toList)
    (hfiles : j.CanWrite t) : j.ScriptsApart t := by
  obtain ⟨u, a, b, c, hdirs, hprimary, hcompatibility, -⟩ := hfiles
  have hapart : a ≠ b := Outputs.scripts_apart hschema hprimary.leads hcompatibility.leads
  unfold ScriptsApart
  rw [hdirs, hprimary.leads, hcompatibility.leads]
  exact fun h => hapart (Option.some.inj h)

/-- The files are made one after the other. -/
theorem gives_createOutputs {u : FileTree} {a b c : Location} (hdry : j.settings.dryRun = false)
    (hdirs : t.createDirs j.settings.outputDir = (u, true))
    (ha : u.Writable j.outputs.primary a)
    (hb : (u.put a (.file "")).Writable j.outputs.compatibility b)
    (hc : ((u.put a (.file "")).put b (.file "")).Writable j.outputs.log c) :
    Gives j.createOutputs t (some j.outputs)
      (((u.put a (.file "")).put b (.file "")).put c (.file "")) := by
  unfold createOutputs
  rw [hdry]
  exact (Gives.createDirs hdirs).bind <| (Gives.createFile ha).bind <|
    (Gives.createFile hb).bind <| (Gives.createFile hc).bind <| Gives.pure _ _

/-- A run makes its files, and then they are empty and ready. -/
theorem CanWrite.create (h : j.CanWrite t) (hapart : j.ScriptsApart t)
    (hdry : j.settings.dryRun = false) :
    ∃ u a b c, Gives j.createOutputs t (some j.outputs) u ∧ j.outputs.Ready u a b c ∧
      j.outputs.Hold u {} := by
  obtain ⟨u, a, b, c, hdirs, hprimary, hcompatibility, hlog⟩ := h
  unfold ScriptsApart at hapart
  rw [hdirs, hprimary.leads, hcompatibility.leads] at hapart
  -- the log ends in another extension than the scripts, so it is another file for every schema
  obtain ⟨pre, hpre⟩ := Path.exists_join_eq_append j.settings.outputDir
    ("reverse_" ++ j.settings.sourceSchema) ".sql"
  obtain ⟨pre', hpre'⟩ := Path.exists_join_eq_append j.settings.outputDir
    ("compatibility_" ++ j.settings.sourceSchema) ".sql"
  have hready : j.outputs.Ready u a b c :=
    { primary := hprimary
      compatibility := hcompatibility
      log := hlog
      scripts_apart := fun hab => hapart (congrArg some hab)
      primary_apart := Outputs.log_apart hpre hprimary.leads hlog.leads
      compatibility_apart := Outputs.log_apart hpre' hcompatibility.leads hlog.leads }
  obtain ⟨h₁, h₂⟩ := hready.put_scripts {}
  have h₃ := h₂.put h₂.log.free ""
  exact ⟨_, a, b, c, gives_createOutputs hdry hdirs hready.primary h₁.compatibility h₂.log, h₃,
    hready.hold {}⟩

/-- The files of a run for a schema can be written into an empty tree. -/
theorem canWrite_empty (hdir : j.settings.outputDir = "out")
    (hschema : j.settings.sourceSchema = "marvin") : j.CanWrite {} := by
  have houtputs : j.outputs = Outputs.of "out" "marvin" := by
    rw [outputs, hdir, hschema]
  unfold CanWrite
  rw [hdir, houtputs]
  exact ⟨{ entries := [(["out"], .directory)] }, ["reverse_marvin.sql", "out"],
    ["compatibility_marvin.sql", "out"], ["reverse_marvin.log", "out"], by decide +kernel,
    ⟨by decide +kernel, by decide⟩, ⟨by decide +kernel, by decide⟩, ⟨by decide +kernel, by decide⟩⟩

/-- Its scripts are different files there. -/
theorem scriptsApart_empty (hdir : j.settings.outputDir = "out")
    (hschema : j.settings.sourceSchema = "marvin") : j.ScriptsApart {} := by
  refine scriptsApart_of_schema ?_ (canWrite_empty hdir hschema)
  rw [hschema]
  decide

end Job

end CatalogDdl
