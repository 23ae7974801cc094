import CatalogDdl.Proofs.WriterOrder
import Mathlib.Data.List.Induction
import Mathlib.Order.Bounds.Basic

/-!
# The order of arrival does not matter

A writer is given outcomes with different positions, in any order and with gaps
between the positions. Where it stands after each of them can be said by the
positions that have come, whatever the order in which they did: the next position
is the least one that is missing, everything before it was written, and everything
after it is kept back. The gaps that are left at the end are passed over.

- `Writer.receiveAll`: a writer after some outcomes.
- `byPosition`: outcomes in the order of their positions.
- `Writer.Stands`: where a writer stands after some outcomes came, in any order.
- `Writer.Holds.stands`: the invariant of the single steps, said by positions.
- `Writer.Holds.eq_receiveAll`: a writer that meets the invariant has received what came.
- `Writer.receiveAll_stands`: where a writer stands after each outcome, and what it has
  written at its end.
-/

namespace CatalogDdl

open Ddl

/-- A writer after some outcomes, which came one after the other. -/
def Writer.receiveAll (w : Writer) (os : List Outcome) : Writer := os.foldl Writer.receive w

/-- Outcomes in the order of their positions. -/
def byPosition (os : List Outcome) : List Outcome :=
  os.mergeSort fun o p => decide (o.position ≤ p.position)

/-- Where a writer stands after some outcomes came. -/
structure Writer.Stands (w : Writer) (came : List Outcome) : Prop where
  /-- The next position is the least one that has not come. -/
  next : IsLeast {n | n ∉ came.map (·.position)} w.next
  /-- What came for the positions before it was written, in order. -/
  written : w.written.Renders (byPosition (came.filter fun o => o.position < w.next))
  /-- What came for the positions after it is kept back, in order. -/
  pending : w.pending = byPosition (came.filter fun o => w.next < o.position)

/-! ## Order by position -/

/-- Outcomes in order have different positions. -/
theorem InOrder.positions_nodup {os : List Outcome} (h : InOrder os) :
    (os.map (·.position)).Nodup :=
  List.pairwise_map.mpr (h.imp Nat.ne_of_lt)

/-- Outcomes with different positions can be put in order. -/
theorem byPosition_inOrder {os : List Outcome} (h : (os.map (·.position)).Nodup) :
    InOrder (byPosition os) := by
  have hsorted : (byPosition os).Pairwise fun o p => decide (o.position ≤ p.position) = true :=
    List.pairwise_mergeSort (fun o p q hop hpq => by simp at *; omega)
      (fun o p => by simp; omega) os
  have hnodup : ((byPosition os).map (·.position)).Nodup :=
    ((List.mergeSort_perm os _).map _).nodup_iff.mpr h
  refine (hsorted.and (List.pairwise_map.mp hnodup)).imp fun hle => ?_
  exact Nat.lt_of_le_of_ne (of_decide_eq_true hle.1) hle.2

/-- Outcomes in order are what any arrangement of them becomes. -/
theorem InOrder.eq_byPosition {os ps : List Outcome} (h : InOrder os) (hperm : os.Perm ps) :
    os = byPosition ps := by
  have hnodup : (ps.map (·.position)).Nodup := (hperm.map _).nodup_iff.mp h.positions_nodup
  exact h.eq_of_perm (byPosition_inOrder hnodup) (hperm.trans (List.mergeSort_perm ps _).symm)

namespace Writer

/-! ## Where a writer stands -/

/-- The invariant of a writer says where it stands. -/
theorem Holds.stands {w : Writer} {done came : List Outcome} (h : w.Holds done came) :
    w.Stands came := by
  -- what came is divided at the next position, and nothing came for that position itself
  have hdone : (done ++ w.pending).filter (fun o => o.position < w.next) = done := by
    rw [List.filter_append, List.filter_eq_self.mpr, List.filter_eq_nil_iff.mpr, List.append_nil]
    · intro o ho
      simpa using Nat.le_of_lt (h.ahead o ho)
    · intro o ho
      simpa using h.lt_next ho
  have hpending : (done ++ w.pending).filter (fun o => w.next < o.position) = w.pending := by
    rw [List.filter_append, List.filter_eq_nil_iff.mpr, List.filter_eq_self.mpr, List.nil_append]
    · intro o ho
      simpa using h.ahead o ho
    · intro o ho
      simpa using Nat.le_of_lt (h.lt_next ho)
  refine
    { next := ⟨?_, ?_⟩
      written := ?_
      pending := ?_ }
  · intro hcame
    obtain ⟨o, ho, hposition⟩ := List.mem_map.mp hcame
    rcases List.mem_append.mp (h.perm.mem_iff.mpr ho) with ho | ho
    · exact absurd (h.lt_next ho) (by omega)
    · exact absurd (h.ahead o ho) (by omega)
  · intro n hn
    by_contra hlt
    -- every position before the next one was written, and so it came
    have hwritten : n ∈ done.map (·.position) := by
      rw [h.positions]
      exact List.mem_range.mpr (Nat.lt_of_not_le hlt)
    refine hn ((h.perm.map _).mem_iff.mp ?_)
    rw [List.map_append]
    exact List.mem_append_left _ hwritten
  · have hperm : done.Perm (came.filter fun o => o.position < w.next) := by
      have hfilter := h.perm.filter fun o => decide (o.position < w.next)
      rwa [hdone] at hfilter
    rw [h.written, ← (inOrder_of_positions h.positions).eq_byPosition hperm]
    exact entriesOf_renders done
  · have hperm : w.pending.Perm (came.filter fun o => w.next < o.position) := by
      have hfilter := h.perm.filter fun o => decide (w.next < o.position)
      rwa [hpending] at hfilter
    exact h.inOrder.eq_byPosition hperm

/-- The invariant holds after any outcomes with different positions. -/
theorem Holds.receiveAll {os : List Outcome} (h : (os.map (·.position)).Nodup) :
    ∃ done, (Writer.receiveAll {} os).Holds done os := by
  induction os using List.reverseRecOn with
  | nil => exact ⟨[], .new⟩
  | append_singleton os o ih =>
    rw [List.map_append, List.nodup_append] at h
    obtain ⟨hos, -, hnew⟩ := h
    obtain ⟨done, hholds⟩ := ih hos
    have ho : ∀ p ∈ os, p.position ≠ o.position := fun p hp =>
      hnew _ (List.mem_map_of_mem hp) _ (List.mem_singleton_self _)
    obtain ⟨ready, hreceived⟩ := hholds.receive ho
    refine ⟨done ++ ready, ?_⟩
    rw [Writer.receiveAll, List.foldl_concat]
    exact { hreceived with perm := hreceived.perm.trans (List.perm_append_singleton o os).symm }

/-- There is only one way to stand after what came. -/
theorem Stands.unique {w w' : Writer} {came : List Outcome} (h : w.Stands came)
    (h' : w'.Stands came) : w = w' := by
  have hnext : w.next = w'.next := h.next.unique h'.next
  have hpending : w.pending = w'.pending := by
    rw [h.pending, h'.pending, hnext]
  have hwritten : w.written = w'.written := by
    have hsame := h'.written
    rw [← hnext] at hsame
    exact h.written.unique hsame
  cases w
  cases w'
  cases hnext
  cases hpending
  cases hwritten
  rfl

/-- A writer that meets the invariant is the one that received what came, in any order. -/
theorem Holds.eq_receiveAll {w : Writer} {done came : List Outcome} (h : w.Holds done came) :
    w = Writer.receiveAll {} came := by
  have hnodup : (came.map (·.position)).Nodup :=
    (h.perm.map _).nodup_iff.mp h.inOrder_append.positions_nodup
  obtain ⟨done', hreceived⟩ := Holds.receiveAll hnodup
  exact h.stands.unique hreceived.stands

/-- **The order of arrival does not matter**: outcomes with different positions may come
in any order. After each of them, the next position is the least one that has not come;
what came before it was written, and what came after it is kept back. At the end
nothing is kept back, and the three scripts have what is to be said about each outcome,
once and in the order of the positions, whichever of the outcomes came first. -/
theorem receiveAll_stands {os : List Outcome} (h : (os.map (·.position)).Nodup) :
    (∀ came, came <+: os → (receiveAll {} came).Stands came) ∧
      InOrder (byPosition os) ∧ (byPosition os).Perm os ∧
      ∀ order : List Outcome, order.Perm os →
        (receiveAll {} order).stop.pending = [] ∧
          (receiveAll {} order).stop.written.Renders (byPosition os) := by
  refine ⟨?_, byPosition_inOrder h, List.mergeSort_perm os _, ?_⟩
  · rintro came ⟨rest, rfl⟩
    rw [List.map_append] at h
    obtain ⟨done, hholds⟩ := Holds.receiveAll (List.nodup_append.mp h).1
    exact hholds.stands
  · intro order horder
    have hnodup : (order.map (·.position)).Nodup := (horder.map _).nodup_iff.mpr h
    obtain ⟨done, hholds⟩ := Holds.receiveAll hnodup
    refine ⟨rfl, ?_⟩
    rw [hholds.stop (byPosition_inOrder h) ((List.mergeSort_perm os _).trans horder.symm)]
    exact entriesOf_renders (byPosition os)

/-- A bundle with a statement to review. -/
def lateBundle : Bundle where
  source := "S.B"
  target := "t.b"
  createTable := "CREATE TABLE `t`.`b` ()"
  primary := []
  groups := [⟨.indexes, ["CREATE INDEX `i`"]⟩]
  warnings := []

/-- Three outcomes in the wrong order, with a gap between their positions. One of them is the
outcome of a converted table. -/
def lateOutcomes : List Outcome :=
  [⟨3, "D", .error "no columns"⟩, ⟨1, "B", .ok lateBundle⟩, ⟨0, "A", .error "no columns"⟩]

/-- The first two of them are kept back. In the end the log has all three in order, and the
scripts have the blocks of the converted table. -/
theorem lateOutcomes_stand :
    (lateOutcomes.map (·.position)).Nodup ∧
      (receiveAll {} (lateOutcomes.take 2)).Stands (lateOutcomes.take 2) ∧
      (receiveAll {} lateOutcomes).stop.written =
        ⟨renderBanner tableTitle "S.B" "t.b" "Manual" ++ "CREATE TABLE `t`.`b` ();\n\n\n",
          renderBanner groupTitle "S.B" "t.b" "Manual Create" ++ "CREATE INDEX `i`;\n\n",
          "[0] A: failed, no columns\n"
            ++ "[1] S.B -> t.b: ok, primary=1, compatibility=1, warnings=0\n"
            ++ "[3] D: failed, no columns\n"⟩ := by
  have hnodup : (lateOutcomes.map (·.position)).Nodup := by decide
  obtain ⟨hstands, -, -, hend⟩ := receiveAll_stands hnodup
  have hinOrder : InOrder lateOutcomes.reverse := by
    unfold InOrder
    decide
  have hsorted : byPosition lateOutcomes = lateOutcomes.reverse :=
    (hinOrder.eq_byPosition lateOutcomes.reverse_perm).symm
  obtain ⟨-, hwritten⟩ := hend lateOutcomes (.refl _)
  rw [hsorted] at hwritten
  -- what there is to say about the three outcomes is said in one way only
  refine ⟨hnodup, hstands _ (List.take_prefix 2 _), hwritten.unique ⟨?_, ?_, ?_⟩⟩
  · decide +kernel
  · decide +kernel
  · decide +kernel

end Writer

end CatalogDdl
