import CatalogDdl.Run.Writer
import Mathlib.Data.List.Basic

/-!
# What the writer holds back

Outcomes reach the writer in any order, each position once. The writer has always
written the outcomes of the positions from zero on, up to the first position that
has not come yet; it holds back those that came too early, in order. At its end it
has written everything that came, in the order of the positions, and there is only
one such order.

- `Scripts.Renders`: what the scripts have to say about some outcomes, word by word.
- `entriesOf_renders`: what outcomes contribute to the scripts says that.
- `InOrder`: outcomes with increasing positions.
- `insertOutcome_perm`, `insertOutcome_inOrder`, `divideReady_spec`: the two steps
  of receiving an outcome.
- `Writer.Holds`: what a writer has written and what it holds back, after some
  outcomes came. `Writer.Holds.receive` is the step, and `Writer.Holds.stop` the end.
-/

namespace CatalogDdl

/-! ## Scripts -/

/-- What the scripts have to say about some outcomes, one after the other. -/
structure Scripts.Renders (s : Scripts) (os : List Outcome) : Prop where
  /-- The primary script has the block of every converted table, in a line of its own. -/
  primary : s.primary = String.join ((os.filterMap fun o => o.result.toOption).map
    fun b => b.primarySql ++ "\n")
  /-- The compatibility script has the block of every converted table with something to review. -/
  compatibility : s.compatibility =
    String.join (((os.filterMap fun o => o.result.toOption).filter
      fun b => b.compatibilitySql ≠ "").map fun b => b.compatibilitySql ++ "\n")
  /-- The log has an entry for every table, with the counts of its bundle or why it has none. -/
  log : s.log = String.join (os.map fun o => "[" ++ toString o.position ++ "] " ++
    match o.result with
    | .ok b =>
      b.source ++ " -> " ++ b.target ++ ": ok, primary=" ++ toString (b.primary.length + 1)
        ++ ", compatibility=" ++ toString b.reviewCount
        ++ ", warnings=" ++ toString b.warnings.length ++ "\n"
    | .error message => o.table ++ ": failed, " ++ message ++ "\n")

theorem Scripts.append_eq (a b : Scripts) :
    a ++ b = ⟨a.primary ++ b.primary, a.compatibility ++ b.compatibility, a.log ++ b.log⟩ := rfl

namespace Scripts.Renders

variable {s s' : Scripts} {os ps : List Outcome}

/-- Scripts that say this about the same outcomes are the same. -/
theorem unique (h : s.Renders os) (h' : s'.Renders os) : s = s' := by
  cases s
  cases s'
  rw [mk.injEq]
  exact ⟨h.primary.trans h'.primary.symm, h.compatibility.trans h'.compatibility.symm,
    h.log.trans h'.log.symm⟩

/-- One more outcome in front contributes what is to be said about it. -/
theorem cons (h : s.Renders os) (o : Outcome) : (o.entry ++ s).Renders (o :: os) := by
  rw [append_eq, h.primary, h.compatibility, h.log]
  obtain ⟨position, table, result⟩ := o
  cases result with
  | error message => exact ⟨String.empty_append, String.empty_append, (String.join_cons ..).symm⟩
  | ok b =>
    refine ⟨(String.join_cons ..).symm, ?_, (String.join_cons ..).symm⟩
    show Outcome.block b.compatibilitySql ++ _ = String.join ((List.filter _ (b :: _)).map _)
    -- an empty block is not written at all, not even its line end
    by_cases hempty : b.compatibilitySql = ""
    · rw [Outcome.block, if_pos (by simp [hempty]), List.filter_cons_of_neg (by simp [hempty])]
      exact String.empty_append
    · rw [Outcome.block, if_neg (by simp [hempty]), List.filter_cons_of_pos (by simp [hempty]),
        List.map_cons, String.join_cons]

end Scripts.Renders

/-- The first outcome comes first in the scripts. -/
theorem entriesOf_cons (o : Outcome) (os : List Outcome) :
    entriesOf (o :: os) = o.entry ++ entriesOf os := by
  -- the fold starts with empty scripts; for the induction it starts with any
  have hfold : ∀ s : Scripts, os.foldl (fun s o => s ++ o.entry) s = s ++ entriesOf os := by
    unfold entriesOf
    induction os with
    | nil => simp [Scripts.append_eq]
    | cons p os ih =>
      intro s
      rw [List.foldl_cons, List.foldl_cons, ih, ih ({} ++ p.entry)]
      simp [Scripts.append_eq, String.append_assoc]
  rw [entriesOf, List.foldl_cons, hfold]
  simp [Scripts.append_eq]

/-- The scripts of outcomes are put together like the outcomes. -/
theorem entriesOf_append (os ps : List Outcome) :
    entriesOf (os ++ ps) = entriesOf os ++ entriesOf ps := by
  induction os with
  | nil => simp [entriesOf, Scripts.append_eq]
  | cons o os ih =>
    rw [List.cons_append, entriesOf_cons, ih, entriesOf_cons]
    simp only [Scripts.append_eq, String.append_assoc]

/-- The scripts say about some outcomes what is to be said. -/
theorem entriesOf_renders (os : List Outcome) : (entriesOf os).Renders os := by
  induction os with
  | nil => exact ⟨rfl, rfl, rfl⟩
  | cons o os ih =>
    rw [entriesOf_cons]
    exact ih.cons o

/-! ## Outcomes in order -/

/-- Outcomes with increasing positions. -/
def InOrder (os : List Outcome) : Prop := os.Pairwise fun o p => o.position < p.position

/-- Outcomes can be put in order in one way only. -/
theorem InOrder.eq_of_perm {os ps : List Outcome} (ho : InOrder os) (hp : InOrder ps)
    (h : os.Perm ps) : os = ps := by
  refine h.eq_of_pairwise (fun o p _ _ hop hpo => ?_) ho hp
  exact absurd hop (Nat.lt_asymm hpo)

/-- Outcomes at the positions from zero on are in order. -/
theorem inOrder_of_positions {os : List Outcome} {n : Nat}
    (h : os.map (·.position) = List.range n) : InOrder os := by
  have hrange : (List.range n).Pairwise (· < ·) := List.pairwise_lt_range
  rw [← h] at hrange
  exact List.pairwise_map.mp hrange

/-- An outcome of a new position is put between the others; none of them is lost. -/
theorem insertOutcome_perm {o : Outcome} {os : List Outcome}
    (h : ∀ p ∈ os, p.position ≠ o.position) : (insertOutcome o os).Perm (o :: os) := by
  induction os with
  | nil => exact .refl _
  | cons p os ih =>
    have hne : o.position ≠ p.position := (h p (List.mem_cons_self ..)).symm
    have hrest : ∀ q ∈ os, q.position ≠ o.position := fun q hq => h q (List.mem_cons_of_mem _ hq)
    unfold insertOutcome
    by_cases hlt : o.position < p.position
    · rw [if_pos hlt]
    · rw [if_neg hlt, if_neg hne]
      exact ((ih hrest).cons p).trans (.swap o p os)

/-- Outcomes stay in order when one of a new position is put between them. -/
theorem insertOutcome_inOrder {o : Outcome} {os : List Outcome}
    (h : ∀ p ∈ os, p.position ≠ o.position) (hos : InOrder os) : InOrder (insertOutcome o os) := by
  induction os with
  | nil => exact List.pairwise_singleton ..
  | cons p os ih =>
    have hne : o.position ≠ p.position := (h p (List.mem_cons_self ..)).symm
    have hrest : ∀ q ∈ os, q.position ≠ o.position := fun q hq => h q (List.mem_cons_of_mem _ hq)
    obtain ⟨hp, htail⟩ := List.pairwise_cons.mp hos
    unfold insertOutcome
    by_cases hlt : o.position < p.position
    · rw [if_pos hlt]
      refine List.pairwise_cons.mpr ⟨fun q hq => ?_, hos⟩
      rcases List.mem_cons.mp hq with rfl | hq
      · exact hlt
      · exact Nat.lt_trans hlt (hp q hq)
    · rw [if_neg hlt, if_neg hne]
      refine List.pairwise_cons.mpr ⟨fun q hq => ?_, ih hrest htail⟩
      -- what comes after the first one is the new outcome or was there before
      rcases List.mem_cons.mp ((insertOutcome_perm hrest).mem_iff.mp hq) with rfl | hq
      · omega
      · exact hp q hq

/-- Outcomes that all come later than the next position are not ready. -/
theorem divideReady_of_later {next : Nat} {os : List Outcome} (h : ∀ o ∈ os, next < o.position) :
    divideReady next os = ([], os) := by
  induction os with
  | nil => rfl
  | cons o os ih =>
    have ho : o.position ≠ next := Nat.ne_of_gt (h o (List.mem_cons_self ..))
    rw [divideReady, if_neg ho, ih fun p hp => h p (List.mem_cons_of_mem _ hp)]

/-- **What is ready**: outcomes in order, none before the next position, are divided
in two without a change of their order. The first part has the positions from the
next one on without a gap, and the second part only later ones than the first
position that is missing. -/
theorem divideReady_spec {next : Nat} {os : List Outcome} (hos : InOrder os)
    (hnext : ∀ o ∈ os, next ≤ o.position) :
    let ready := (divideReady next os).1
    let kept := (divideReady next os).2
    ready ++ kept = os ∧ ready.map (·.position) = List.range' next ready.length ∧
      ∀ o ∈ kept, next + ready.length < o.position := by
  induction os generalizing next with
  | nil => exact ⟨rfl, rfl, fun o ho => (nomatch ho)⟩
  | cons o os ih =>
    obtain ⟨ho, htail⟩ := List.pairwise_cons.mp hos
    by_cases hposition : o.position = next
    · -- the position after it is the next one for the rest
      have hlater : ∀ p ∈ os, next + 1 ≤ p.position := fun p hp => hposition ▸ ho p hp
      obtain ⟨happend, hready, hkept⟩ := ih htail hlater
      rw [divideReady, if_pos hposition]
      refine ⟨congrArg (o :: ·) happend, ?_, fun p hp => ?_⟩
      · show o.position :: _ = _
        rw [hready, hposition]
        rfl
      · have := hkept p hp
        show next + (_ + 1) < p.position
        omega
    · -- there is a gap, and everything after it is kept
      have hlt : next < o.position :=
        Nat.lt_of_le_of_ne (hnext o (List.mem_cons_self ..)) (Ne.symm hposition)
      have hall : ∀ p ∈ o :: os, next < p.position := by
        intro p hp
        rcases List.mem_cons.mp hp with rfl | hp
        · exact hlt
        · exact Nat.lt_trans hlt (ho p hp)
      rw [divideReady_of_later hall]
      exact ⟨rfl, rfl, hall⟩

/-! ## The writer -/

/-- What a writer has written and what it holds back, after some outcomes came. -/
structure Writer.Holds (w : Writer) (done received : List Outcome) : Prop where
  /-- What came was written or is held back, and nothing else was or is. -/
  perm : (done ++ w.pending).Perm received
  /-- The positions from zero on were written, in order, up to the next one. -/
  positions : done.map (·.position) = List.range w.next
  /-- The next position has not come. -/
  ahead : ∀ o ∈ w.pending, w.next < o.position
  /-- What is held back is in order. -/
  inOrder : InOrder w.pending
  /-- The scripts are those of what was written. -/
  written : w.written = entriesOf done

namespace Writer.Holds

variable {w : Writer} {done received : List Outcome}

/-- A new writer has written nothing and holds back nothing. -/
theorem new : Writer.Holds {} [] [] where
  perm := .refl _
  positions := rfl
  ahead := fun _ ho => (nomatch ho)
  inOrder := .nil
  written := rfl

/-- An outcome of a position that has not come yet does not come too late. -/
theorem next_le (h : w.Holds done received) {o : Outcome}
    (hnew : ∀ p ∈ received, p.position ≠ o.position) : w.next ≤ o.position := by
  -- every position before the next one was written, and so it has come
  by_contra hlt
  have hposition : o.position ∈ done.map (·.position) := by
    rw [h.positions]
    exact List.mem_range.mpr (Nat.lt_of_not_le hlt)
  obtain ⟨p, hp, heq⟩ := List.mem_map.mp hposition
  exact hnew p (h.perm.mem_iff.mp (List.mem_append_left _ hp)) heq

/-- **Receiving an outcome** of a position that has not come yet keeps the writer in
its state: it writes that outcome and those that it held back, as far as they follow
without a gap. -/
theorem receive (h : w.Holds done received) {o : Outcome}
    (hnew : ∀ p ∈ received, p.position ≠ o.position) :
    ∃ ready, (w.receive o).Holds (done ++ ready) (o :: received) := by
  have hpending : ∀ p ∈ w.pending, p.position ≠ o.position := fun p hp =>
    hnew p (h.perm.mem_iff.mp (List.mem_append_right _ hp))
  have hperm := insertOutcome_perm hpending
  -- with the new outcome, what is held back may start at the next position
  have hnext : ∀ p ∈ insertOutcome o w.pending, w.next ≤ p.position := by
    intro p hp
    rcases List.mem_cons.mp (hperm.mem_iff.mp hp) with rfl | hp
    · exact h.next_le hnew
    · exact Nat.le_of_lt (h.ahead p hp)
  have hinserted := insertOutcome_inOrder hpending h.inOrder
  obtain ⟨happend, hready, hkept⟩ := divideReady_spec hinserted hnext
  refine ⟨(divideReady w.next (insertOutcome o w.pending)).1, ?_⟩
  refine
    { perm := ?_
      positions := ?_
      ahead := hkept
      inOrder := ?_
      written := ?_ }
  · -- what is written now and what is kept are together what was held back, and the new outcome
    show (_ ++ _ ++ (divideReady w.next (insertOutcome o w.pending)).2).Perm _
    rw [List.append_assoc, happend]
    exact (hperm.append_left done).trans (List.perm_middle.trans (h.perm.cons o))
  · have hrange := List.range'_append_1 (s := 0) (m := w.next)
      (n := (divideReady w.next (insertOutcome o w.pending)).1.length)
    rw [Nat.zero_add] at hrange
    rw [List.map_append, h.positions, hready, List.range_eq_range', hrange,
      ← List.range_eq_range']
    rfl
  · rw [← happend] at hinserted
    exact (List.pairwise_append.mp hinserted).2.1
  · rw [entriesOf_append, ← h.written]
    rfl

/-- What was written has the positions before the next one. -/
theorem lt_next (h : w.Holds done received) {o : Outcome} (ho : o ∈ done) :
    o.position < w.next := by
  have hposition : o.position ∈ List.range w.next := by
    rw [← h.positions]
    exact List.mem_map_of_mem ho
  exact List.mem_range.mp hposition

/-- What was written and what is held back after it are in order. -/
theorem inOrder_append (h : w.Holds done received) : InOrder (done ++ w.pending) := by
  refine List.pairwise_append.mpr ⟨inOrder_of_positions h.positions, h.inOrder, ?_⟩
  intro o ho p hp
  exact Nat.lt_trans (h.lt_next ho) (h.ahead p hp)

/-- A writer that is stopped has written everything that came, in order. -/
theorem stop (h : w.Holds done received) {os : List Outcome} (hos : InOrder os)
    (hperm : os.Perm received) : w.stop.written = entriesOf os := by
  -- both are what came, in order
  rw [hos.eq_of_perm h.inOrder_append (hperm.trans h.perm.symm), entriesOf_append, ← h.written]
  rfl

end Writer.Holds

end CatalogDdl
