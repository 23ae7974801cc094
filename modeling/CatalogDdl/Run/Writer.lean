import CatalogDdl.Run.Outcome

/-!
# Writing outcomes in order

Tables finish in any order, but the scripts list them in the order of the selection. The writer keeps
an outcome back until every earlier position has been written; what is still kept back at the end is
written then, in order.

- `Writer`: the outcomes kept back, by position, the next position to write, and what was written.
- `Writer.receive`: the writer after an outcome. An outcome that was kept back for the same position
  is replaced.
- `Writer.stop`: the writer at the end.
-/

namespace CatalogDdl

/-- Outcomes kept back and scripts written. -/
structure Writer where
  /-- The outcomes kept back, by position. -/
  pending : List Outcome := []
  /-- The next position to write. -/
  next : Nat := 0
  /-- What was written. -/
  written : Scripts := {}

/-- Outcomes by position after one more, which replaces the one of the same position. -/
def insertOutcome (o : Outcome) : List Outcome → List Outcome
  | [] => [o]
  | p :: rest =>
    if o.position < p.position then o :: p :: rest
    else if o.position = p.position then o :: rest
    else p :: insertOutcome o rest

/-- Outcomes by position divided into those that continue from `next` without a gap and the
others. -/
def divideReady (next : Nat) : List Outcome → List Outcome × List Outcome
  | [] => ([], [])
  | o :: rest =>
    if o.position = next then
      let (ready, kept) := divideReady (next + 1) rest
      (o :: ready, kept)
    else
      let (ready, kept) := divideReady next rest
      (ready, o :: kept)

/-- What outcomes contribute to the scripts, one after the other. -/
def entriesOf (os : List Outcome) : Scripts := os.foldl (fun s o => s ++ o.entry) {}

namespace Writer

/-- A writer after an outcome. -/
def receive (w : Writer) (o : Outcome) : Writer :=
  let (ready, kept) := divideReady w.next (insertOutcome o w.pending)
  ⟨kept, w.next + ready.length, w.written ++ entriesOf ready⟩

/-- A writer that has written all it kept back. -/
def stop (w : Writer) : Writer := ⟨[], w.next, w.written ++ entriesOf w.pending⟩

end Writer

end CatalogDdl
