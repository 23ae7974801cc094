import CatalogDdl.Fault
import CatalogDdl.Run.Writer

/-!
# Tables in work at the same time

Tables are started in order, and a bounded number of them is in work at the same time. One that is
finished posts its outcome to the writer, through a mailbox with bounded room. A fault of the run, or
any fault when the run fails fast, stops the start of further tables; those in work are finished.

What happens next is up to a schedule.

- `Task`: a table in work, with its result.
- `PoolRules.HasRoom`: there is a mailbox for that many threads. Without one nothing is started.
- `Pool`: all that a schedule can choose from.
- `Move`, `Pool.moves`, `Pool.apply`: the moves of a pool. Each of them brings the pool closer to its
  end, so every schedule ends.
- `Pool.run`: the pool at the end of a schedule.
-/

namespace CatalogDdl

open Ddl (Bundle)

/-- A table in work. -/
structure Task where
  position : Nat
  table : String
  result : Except Fault Bundle

/-- The outcome of a task. -/
def Task.outcome (t : Task) : Outcome := ⟨t.position, t.table, t.result.mapError Fault.message⟩

/-- The fault of a task. -/
def Task.fault? (t : Task) : Option Fault :=
  match t.result with
  | .ok _ => none
  | .error f => some f

/-- The bundle of a task. -/
def Task.bundle? (t : Task) : Option Bundle := t.result.toOption

/-- What is fixed for the time of a run. -/
structure PoolRules where
  /-- How many tables may be in work at the same time. -/
  threads : Nat
  /-- Whether any fault stops the run. -/
  failFast : Bool
  /-- What comes of a table. -/
  work : String → Except Fault Bundle

/-- Whether a task stops the start of further tables. -/
def PoolRules.stops (r : PoolRules) (t : Task) : Bool :=
  t.fault?.any fun f => r.failFast || f.scope == .run

/-- The room of the mailbox. -/
def PoolRules.room (r : PoolRules) : Nat := 2 * r.threads

/-- The most room that a mailbox can have: the largest word of the machine without its last three
bits. No more than that many tables can be in work either, and there are fewer threads than room. -/
def PoolRules.roomLimit : Nat := 2305843009213693951

/-- There is a mailbox with the room that is asked for. -/
def PoolRules.HasRoom (r : PoolRules) : Prop := 0 < r.room ∧ r.room ≤ roomLimit

instance (r : PoolRules) : Decidable r.HasRoom :=
  inferInstanceAs (Decidable (0 < r.room ∧ r.room ≤ PoolRules.roomLimit))

/-- Fails unless there is a mailbox with the room that is asked for. -/
def PoolRules.checkRoom (r : PoolRules) : Except Fault Unit :=
  if r.HasRoom then .ok () else .error .noMailbox

namespace PoolRules

variable {r : PoolRules}

theorem checkRoom_eq_ok (h : r.HasRoom) : r.checkRoom = .ok () := if_pos h

theorem checkRoom_eq_error (h : ¬ r.HasRoom) : r.checkRoom = .error .noMailbox := if_neg h

/-- A mailbox without room would be one for no threads. -/
theorem HasRoom.one_le_threads (h : r.HasRoom) : 1 ≤ r.threads := by
  have hpos : 0 < 2 * r.threads := h.1
  omega

/-- There is always a mailbox for one thread. -/
theorem hasRoom_of_one (h : r.threads = 1) : r.HasRoom := by
  unfold HasRoom room
  rw [h]
  decide

end PoolRules

/-- The state of a run. -/
structure Pool where
  /-- The tables that are not started. -/
  waiting : List String
  /-- The tasks that were started, in order. -/
  started : List Task := []
  /-- The tasks in work. -/
  running : List Task := []
  /-- The outcomes that wait for room in the mailbox. -/
  posting : List Outcome := []
  /-- The outcomes that wait for the writer, the first one first. -/
  mailbox : List Outcome := []
  writer : Writer := {}
  /-- Whether no further table is started. -/
  stopped : Bool := false

/-- What may happen next. -/
inductive Move where
  /-- The next table is started. -/
  | start
  /-- A task in work is finished. -/
  | finish (index : Nat)
  /-- A waiting outcome is put into the mailbox. -/
  | post (index : Nat)
  /-- The writer takes the first outcome out of the mailbox. -/
  | write
  deriving DecidableEq, Repr

namespace Pool

/-- The moves that are possible. -/
def moves (r : PoolRules) (p : Pool) : List Move :=
  (if p.mailbox.isEmpty then [] else [.write])
    ++ (if p.mailbox.length < r.room then (List.range p.posting.length).map .post else [])
    ++ (List.range p.running.length).map .finish
    ++ (if p.stopped || p.waiting.isEmpty || r.threads ≤ p.running.length then [] else [.start])

/-- A pool after the start of the next table. -/
def start (r : PoolRules) (p : Pool) : Pool :=
  match p.waiting with
  | [] => p
  | table :: rest =>
    let task : Task := ⟨p.started.length, table, r.work table⟩
    { p with waiting := rest, started := p.started ++ [task], running := p.running ++ [task] }

/-- A pool after the end of a task. A task says that it stops the run before it gives up its thread,
so both are one move: no table is started in between. -/
def finish (r : PoolRules) (p : Pool) (index : Nat) : Pool :=
  match p.running[index]? with
  | none => p
  | some task =>
    { p with
      running := p.running.eraseIdx index
      posting := p.posting ++ [task.outcome]
      stopped := p.stopped || r.stops task }

/-- A pool after an outcome was put into the mailbox. -/
def post (p : Pool) (index : Nat) : Pool :=
  match p.posting[index]? with
  | none => p
  | some o => { p with posting := p.posting.eraseIdx index, mailbox := p.mailbox ++ [o] }

/-- A pool after the writer took an outcome. -/
def write (p : Pool) : Pool :=
  match p.mailbox with
  | [] => p
  | o :: rest => { p with mailbox := rest, writer := p.writer.receive o }

/-- A pool after a move. -/
def apply (r : PoolRules) (p : Pool) : Move → Pool
  | .start => p.start r
  | .finish index => p.finish r index
  | .post index => p.post index
  | .write => p.write

/-- How many moves there are at most until the end. -/
def remaining (p : Pool) : Nat :=
  4 * p.waiting.length + 3 * p.running.length + 2 * p.posting.length + p.mailbox.length

theorem remaining_start_lt (r : PoolRules) {p : Pool} (h : p.waiting ≠ []) :
    (p.start r).remaining < p.remaining := by
  unfold start
  split
  · contradiction
  · rename_i hw
    simp only [remaining, hw, List.length_append, List.length_cons, List.length_nil]
    omega

theorem remaining_finish_lt (r : PoolRules) {p : Pool} {index : Nat} (h : index < p.running.length) :
    (p.finish r index).remaining < p.remaining := by
  simp only [finish, List.getElem?_eq_getElem h, remaining, List.length_eraseIdx_of_lt h,
    List.length_append, List.length_cons, List.length_nil]
  omega

theorem remaining_post_lt {p : Pool} {index : Nat} (h : index < p.posting.length) :
    (p.post index).remaining < p.remaining := by
  simp only [post, List.getElem?_eq_getElem h, remaining, List.length_eraseIdx_of_lt h,
    List.length_append, List.length_cons, List.length_nil]
  omega

theorem remaining_write_lt {p : Pool} (h : p.mailbox ≠ []) : p.write.remaining < p.remaining := by
  unfold write
  split
  · contradiction
  · rename_i hm
    simp only [remaining, hm, List.length_cons]
    omega

/-- Every possible move brings a pool closer to its end. -/
theorem remaining_apply_lt {r : PoolRules} {p : Pool} {m : Move} (h : m ∈ p.moves r) :
    (p.apply r m).remaining < p.remaining := by
  simp only [moves, List.mem_append] at h
  rcases h with ((h | h) | h) | h
  · split at h
    · simp at h
    · rename_i hm
      simp only [List.mem_singleton] at h
      subst h
      exact remaining_write_lt (by simpa using hm)
  · split at h
    · obtain ⟨i, hi, rfl⟩ := List.mem_map.1 h
      exact remaining_post_lt (List.mem_range.1 hi)
    · simp at h
  · obtain ⟨i, hi, rfl⟩ := List.mem_map.1 h
    exact remaining_finish_lt r (List.mem_range.1 hi)
  · split at h
    · simp at h
    · rename_i hs
      simp only [List.mem_singleton] at h
      subst h
      exact remaining_start_lt r (by intro hw; simp [hw] at hs)

/-- A schedule: a number for every pool, which chooses among its moves. -/
abbrev Schedule := Pool → Nat

/-- One of some moves, chosen by a number. -/
def choose (n : Nat) (m : Move) (ms : List Move) : Move :=
  (m :: ms).get ⟨n % (ms.length + 1), Nat.mod_lt n (Nat.succ_pos ms.length)⟩

/-- A chosen move is one of those it was chosen from. -/
theorem choose_mem (n : Nat) (m : Move) (ms : List Move) : choose n m ms ∈ m :: ms :=
  List.get_mem ..

/-- The pool at the end of a schedule. -/
def run (r : PoolRules) (s : Schedule) (p : Pool) : Pool :=
  match h : p.moves r with
  | [] => p
  | m :: ms =>
    have : (p.apply r (choose (s p) m ms)).remaining < p.remaining :=
      remaining_apply_lt (h ▸ choose_mem (s p) m ms)
    run r s (p.apply r (choose (s p) m ms))
termination_by p.remaining

/-- The schedule of a run: the writer first, then the mailbox, then the oldest task in work. -/
def eager : Schedule := fun _ => 0

end Pool

end CatalogDdl
