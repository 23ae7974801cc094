import CatalogDdl.Proofs.WriterOrder
import CatalogDdl.Run.Summary
import Mathlib.Algebra.Order.Group.Multiset

/-!
# Every schedule writes the same

A schedule decides in which order the tables in work are finished, in which order
their outcomes get into the mailbox, and when the writer takes one. It does not
decide what the outcomes are, and it cannot lose one: an outcome of a started table
is in work, waits for the mailbox, is in the mailbox, or has come to the writer.
At the end of a schedule all of them have come, and the writer has put them in the
order in which their tables were started, which is the order of the selection.

- `PoolRules.tasks`: what comes of some tables, one by one.
- `Pool.onTheWay`: the outcomes that have not come to the writer.
- `Pool.Sound`: what holds of a pool under every schedule. `Pool.Sound.apply` is the
  step and `Pool.Sound.run` the run.
- `Pool.exists_schedule`: there is a schedule for every order of moves.
- `Pool.run_ended`: at the end of a schedule nothing more is possible, so with at
  least one thread nothing is in work or on its way.
- `Pool.run_written`: the scripts at the end are those of the started tables.
- `Pool.run_all`: if nothing stops a run, all tables are started.
-/

namespace CatalogDdl

open Ddl (Bundle)

/-- What comes of some tables, one by one. -/
def PoolRules.tasks (r : PoolRules) (tables : List String) : List Task :=
  tables.mapIdx fun i table => ⟨i, table, r.work table⟩

/-- The positions of tasks are those of their tables. -/
theorem PoolRules.map_position_tasks (r : PoolRules) (tables : List String) :
    ((r.tasks tables).map Task.outcome).map (·.position) = List.range tables.length := by
  refine List.ext_getElem ?_ fun i hi hi' => ?_
  · simp [PoolRules.tasks]
  · simp [PoolRules.tasks, Task.outcome]

/-- The tasks of the first tables are the first tasks. -/
theorem PoolRules.tasks_append (r : PoolRules) (names rest : List String) :
    ∃ others, r.tasks (names ++ rest) = r.tasks names ++ others := by
  unfold PoolRules.tasks
  rw [List.mapIdx_append]
  exact ⟨_, rfl⟩

/-- A list is what one of its places holds, and what the other places hold. -/
theorem coe_eq_cons_eraseIdx {α : Type} {l : List α} {i : Nat} {a : α} (h : l[i]? = some a) :
    (l : Multiset α) = a ::ₘ (l.eraseIdx i : List α) := by
  obtain ⟨hi, rfl⟩ := List.getElem?_eq_some_iff.mp h
  exact (Multiset.coe_eq_coe.mpr (List.getElem_cons_eraseIdx_perm hi)).symm

namespace Pool

/-- The outcomes that have not come to the writer. -/
def onTheWay (p : Pool) : Multiset Outcome :=
  (p.running : Multiset Task).map Task.outcome + (p.posting : Multiset Outcome) + p.mailbox

/-- What holds of a pool for some tables under every schedule. -/
structure Sound (r : PoolRules) (tables : List String) (p : Pool) : Prop where
  /-- Tables are started in their order, and a task is what comes of its table. -/
  begun : ∃ names, names ++ p.waiting = tables ∧ p.started = r.tasks names
  /-- What is in work was started. -/
  working : ∀ t ∈ p.running, t ∈ p.started
  /-- No outcome is lost, and none is there twice. -/
  flow : ∃ done received, p.writer.Holds done received ∧
    p.onTheWay + received = (p.started.map Task.outcome : List Outcome)
  /-- Only a task can stop the start of tables. -/
  reason : p.stopped = true → ∃ t ∈ p.started, r.stops t = true

variable {r : PoolRules} {tables : List String} {p : Pool}

namespace Sound

/-- A pool with nothing started. -/
theorem new (r : PoolRules) (tables : List String) : Sound r tables { waiting := tables } where
  begun := ⟨[], rfl, rfl⟩
  working := fun _ ht => (nomatch ht)
  flow := ⟨[], [], .new, rfl⟩
  reason := nofun

/-- No two started tables have the same position. -/
theorem positions_nodup (h : Sound r tables p) :
    ((p.started.map Task.outcome).map (·.position)).Nodup := by
  obtain ⟨names, -, hstarted⟩ := h.begun
  rw [hstarted, r.map_position_tasks]
  exact List.nodup_range

/-- The next table is started with the next position. -/
theorem start (h : Sound r tables p) : Sound r tables (p.start r) := by
  obtain ⟨names, hnames, hstarted⟩ := h.begun
  obtain ⟨done, received, hholds, hflow⟩ := h.flow
  unfold Pool.start
  cases hwaiting : p.waiting with
  | nil => exact h
  | cons table rest =>
    refine
      { begun := ⟨names ++ [table], ?_, ?_⟩
        working := ?_
        flow := ⟨done, received, hholds, ?_⟩
        reason := ?_ }
    · -- the table moves from those that wait to those that were started
      rw [← hnames, hwaiting, List.append_assoc]
      rfl
    · rw [PoolRules.tasks, List.mapIdx_concat]
      simp [hstarted, PoolRules.tasks]
    · intro t ht
      rcases List.mem_append.mp ht with ht | ht
      · exact List.mem_append_left _ (h.working t ht)
      · exact List.mem_append_right _ ht
    · rw [List.map_append, ← Multiset.coe_add, ← hflow]
      unfold onTheWay
      rw [← Multiset.coe_add, Multiset.map_add]
      simp only [Multiset.map_coe, List.map_cons, List.map_nil]
      ac_rfl
    · intro hstopped
      obtain ⟨t, ht, hstops⟩ := h.reason hstopped
      exact ⟨t, List.mem_append_left _ ht, hstops⟩

/-- A finished task gives its outcome away. -/
theorem finish (h : Sound r tables p) (index : Nat) : Sound r tables (p.finish r index) := by
  obtain ⟨done, received, hholds, hflow⟩ := h.flow
  unfold Pool.finish
  cases hrunning : p.running[index]? with
  | none => exact h
  | some task =>
    refine
      { begun := h.begun
        working := fun t ht => h.working t (List.mem_of_mem_eraseIdx ht)
        flow := ⟨done, received, hholds, ?_⟩
        reason := ?_ }
    · rw [← hflow]
      unfold onTheWay
      rw [coe_eq_cons_eraseIdx hrunning, Multiset.map_cons, ← Multiset.coe_add]
      simp only [← Multiset.singleton_add]
      show _ + (_ + ({task.outcome} : Multiset Outcome)) + _ + _ = _
      ac_rfl
    · intro hstopped
      rcases Bool.or_eq_true_iff.mp hstopped with hbefore | hnow
      · exact h.reason hbefore
      · exact ⟨task, h.working task (List.mem_of_getElem? hrunning), hnow⟩

/-- An outcome goes on into the mailbox. -/
theorem post (h : Sound r tables p) (index : Nat) : Sound r tables (p.post index) := by
  obtain ⟨done, received, hholds, hflow⟩ := h.flow
  unfold Pool.post
  cases hposting : p.posting[index]? with
  | none => exact h
  | some o =>
    refine
      { begun := h.begun
        working := h.working
        flow := ⟨done, received, hholds, ?_⟩
        reason := h.reason }
    rw [← hflow]
    unfold onTheWay
    rw [coe_eq_cons_eraseIdx hposting, ← Multiset.coe_add]
    simp only [← Multiset.singleton_add]
    show _ + (_ + ({o} : Multiset Outcome)) + _ = _
    ac_rfl

/-- The writer takes an outcome, of a position that has not come to it before. -/
theorem write (h : Sound r tables p) : Sound r tables p.write := by
  obtain ⟨done, received, hholds, hflow⟩ := h.flow
  unfold Pool.write
  cases hmailbox : p.mailbox with
  | nil => exact h
  | cons o rest =>
    -- no position is twice among the started tables, so none is both received and on its way
    have hnew : ∀ q ∈ received, q.position ≠ o.position := by
      intro q hq heq
      have hnodup : ((p.onTheWay + (received : Multiset Outcome)).map (·.position)).Nodup := by
        rw [hflow]
        exact h.positions_nodup
      rw [Multiset.map_add, Multiset.nodup_add] at hnodup
      have ho : o ∈ p.onTheWay := by
        refine Multiset.mem_add.mpr (.inr ?_)
        rw [hmailbox]
        exact List.mem_cons_self ..
      refine Multiset.disjoint_left.mp hnodup.2.2 (Multiset.mem_map_of_mem _ ho) ?_
      exact Multiset.mem_map.mpr ⟨q, hq, heq⟩
    obtain ⟨ready, hreceived⟩ := hholds.receive hnew
    refine
      { begun := h.begun
        working := h.working
        flow := ⟨done ++ ready, o :: received, hreceived, ?_⟩
        reason := h.reason }
    rw [← hflow]
    unfold onTheWay
    rw [hmailbox]
    simp only [← Multiset.cons_coe, ← Multiset.singleton_add]
    ac_rfl

/-- Every move keeps a pool sound. -/
theorem apply (h : Sound r tables p) (m : Move) : Sound r tables (p.apply r m) := by
  cases m with
  | start => exact h.start
  | finish index => exact h.finish index
  | post index => exact h.post index
  | write => exact h.write

/-- Every schedule keeps a pool sound. -/
theorem run (h : Sound r tables p) (s : Schedule) : Sound r tables (Pool.run r s p) := by
  fun_induction Pool.run r s p with
  | case1 p hmoves => exact h
  | case2 p m ms hmoves hlt ih => exact ih (h.apply _)

end Sound

/-! ## Schedules and orders -/

/-- A pool becomes another one by possible moves, in some order. -/
inductive Steps (r : PoolRules) : Pool → Pool → Prop where
  | refl (p : Pool) : Steps r p p
  | head {p q : Pool} {m : Move} (hm : m ∈ p.moves r) (h : Steps r (p.apply r m) q) : Steps r p q

theorem run_of_nil (s : Schedule) (h : p.moves r = []) : run r s p = p := by
  rw [run]
  split
  · rfl
  · rename_i hm
    rw [h] at hm
    cases hm

theorem run_of_cons (s : Schedule) {m : Move} {ms : List Move} (h : p.moves r = m :: ms) :
    run r s p = run r s (p.apply r (choose (s p) m ms)) := by
  rw [run]
  split
  · rename_i hm
    rw [h] at hm
    cases hm
  · rename_i hm
    rw [h] at hm
    cases hm
    rfl

/-- Only what a schedule says about pools that are as close to the end matters. -/
theorem run_congr {s s' : Schedule} (h : ∀ q : Pool, q.remaining ≤ p.remaining → s q = s' q) :
    run r s p = run r s' p := by
  fun_induction run r s p with
  | case1 p hmoves => exact (run_of_nil s' hmoves).symm
  | case2 p m ms hmoves hlt ih =>
    rw [run_of_cons s' hmoves, ← h p (Nat.le_refl _)]
    exact ih fun q hq => h q (Nat.le_trans hq (Nat.le_of_lt hlt))

/-- Every one of some moves is chosen by some number. -/
theorem exists_choose_eq {m m' : Move} {ms : List Move} (h : m' ∈ m :: ms) :
    ∃ n, choose n m ms = m' := by
  obtain ⟨i, hi⟩ := List.mem_iff_get.mp h
  refine ⟨i, ?_⟩
  have hmod : i.val % (ms.length + 1) = i.val := Nat.mod_eq_of_lt i.isLt
  rw [← hi, choose]
  exact congrArg (m :: ms).get (Fin.ext hmod)

/-- **Schedules are orders**: whatever the order in which possible moves are made until
none is left, there is a schedule that makes them in that order. No pool comes twice,
so it is enough that a schedule knows the pool. -/
theorem exists_schedule {q : Pool} (h : Steps r p q) (hend : q.moves r = []) :
    ∃ s, run r s p = q := by
  induction h with
  | refl p => exact ⟨eager, run_of_nil eager hend⟩
  | @head p q m hm _ ih =>
    obtain ⟨s, hs⟩ := ih hend
    cases hmoves : p.moves r with
    | nil =>
      rw [hmoves] at hm
      cases hm
    | cons first others =>
      have hfirst : m ∈ first :: others := hmoves ▸ hm
      obtain ⟨n, hn⟩ := exists_choose_eq hfirst
      -- the first move is made as long as the pool is not closer to its end
      refine ⟨fun x => if x.remaining < p.remaining then s x else n, ?_⟩
      rw [run_of_cons _ hmoves, if_neg (Nat.lt_irrefl _), hn, ← hs]
      refine run_congr fun x hx => ?_
      rw [if_pos (Nat.lt_of_le_of_lt hx (remaining_apply_lt hm))]

/-! ## The end of a schedule -/

/-- At the end of a schedule nothing more is possible. -/
theorem run_ended (r : PoolRules) (s : Schedule) (p : Pool) : (run r s p).moves r = [] := by
  fun_induction run r s p with
  | case1 p hmoves => exact hmoves
  | case2 p m ms hmoves hlt ih => exact ih

/-- If nothing is possible, there is nothing in work and nothing on its way, and
tables that are left are left for a reason. The mailbox has room if there is at
least one thread. -/
theorem idle_of_moves_eq_nil (hthreads : 1 ≤ r.threads) (h : p.moves r = []) :
    p.onTheWay = 0 ∧ (p.waiting = [] ∨ p.stopped = true) := by
  simp only [moves, List.append_eq_nil_iff] at h
  obtain ⟨⟨⟨hwrite, hpost⟩, hfinish⟩, hstart⟩ := h
  have hmailbox : p.mailbox = [] := by
    by_contra hne
    rw [if_neg (by simpa using hne)] at hwrite
    cases hwrite
  have hroom : p.mailbox.length < r.room := by
    rw [hmailbox, PoolRules.room, List.length_nil]
    omega
  have hposting : p.posting = [] := by
    rw [if_pos hroom] at hpost
    simpa using hpost
  have hrunning : p.running = [] := by
    simpa using hfinish
  refine ⟨?_, ?_⟩
  · rw [onTheWay, hmailbox, hposting, hrunning]
    rfl
  · by_contra hleft
    rw [not_or] at hleft
    have hcan :
        (p.stopped || p.waiting.isEmpty || decide (r.threads ≤ p.running.length)) = false := by
      rw [hrunning]
      simp [hleft]
      omega
    rw [hcan] at hstart
    cases hstart

/-- A pool that is idle has written what comes of the started tables, in their order. -/
theorem Sound.scripts_eq (h : Sound r tables p) (hidle : p.onTheWay = 0) :
    p.scripts = entriesOf (p.started.map Task.outcome) := by
  obtain ⟨names, -, hstarted⟩ := h.begun
  obtain ⟨done, received, hholds, hflow⟩ := h.flow
  rw [hidle, zero_add] at hflow
  have hpositions := r.map_position_tasks names
  rw [← hstarted] at hpositions
  exact hholds.stop (inOrder_of_positions hpositions) (Multiset.coe_eq_coe.mp hflow).symm

/-- **Every schedule writes the same**: at its end the scripts are those of the
tables that were started, one by one in the order of the selection. Tables were left
only if one of the others stops a run. -/
theorem run_written (hthreads : 1 ≤ r.threads) (s : Schedule) (tables : List String) :
    ∃ names rest, names ++ rest = tables ∧
      (run r s { waiting := tables }).started = r.tasks names ∧
      (run r s { waiting := tables }).scripts = entriesOf ((r.tasks names).map Task.outcome) ∧
      (rest = [] ∨ ∃ t ∈ r.tasks names, r.stops t = true) := by
  have hsound := (Sound.new r tables).run s
  obtain ⟨hidle, hleft⟩ := idle_of_moves_eq_nil hthreads (run_ended r s { waiting := tables })
  obtain ⟨names, hnames, hstarted⟩ := hsound.begun
  have hscripts := hsound.scripts_eq hidle
  rw [hstarted] at hscripts
  refine ⟨names, _, hnames, hstarted, hscripts, hleft.imp_right fun hstopped => ?_⟩
  obtain ⟨t, ht, hstops⟩ := hsound.reason hstopped
  exact ⟨t, hstarted ▸ ht, hstops⟩

/-- If nothing stops a run, every schedule does all tables. -/
theorem run_all (hthreads : 1 ≤ r.threads) (tables : List String)
    (hnone : ∀ t ∈ r.tasks tables, r.stops t = false) (s : Schedule) :
    (run r s { waiting := tables }).started = r.tasks tables ∧
      (run r s { waiting := tables }).scripts = entriesOf ((r.tasks tables).map Task.outcome) := by
  obtain ⟨names, rest, hnames, hstarted, hscripts, hleft⟩ := run_written hthreads s tables
  -- what stops a run among the started tables would stop it among all of them
  have hrest : rest = [] := by
    rcases hleft with hrest | ⟨t, ht, hstops⟩
    · exact hrest
    · obtain ⟨others, htasks⟩ := r.tasks_append names rest
      have hmem : t ∈ r.tasks tables := by
        rw [← hnames, htasks]
        exact List.mem_append_left _ ht
      rw [hnone t hmem] at hstops
      cases hstops
  rw [hrest, List.append_nil] at hnames
  subst hnames
  exact ⟨hstarted, hscripts⟩

end Pool

end CatalogDdl
