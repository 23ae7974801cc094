import CatalogDdl.Files.Path
import CatalogDdl.Run.Pool

/-!
# What a run reports

- `Outputs`: the paths of the three output files.
- `Summary`: how many tables a run selected, converted, failed to convert and did not start.
- `Pool.summary`: the summary of a pool at its end. Every table that was started counts as a success
  or as a failure, and every other selected one as skipped.
- `Pool.runFault?`: the fault of the run, the one of the first table that has one.
-/

namespace CatalogDdl

/-- The paths of the output files. -/
structure Outputs where
  primary : String
  compatibility : String
  log : String
  deriving DecidableEq, Repr

/-- The output files for a schema in a directory. -/
def Outputs.of (dir schema : String) : Outputs where
  primary := Path.join dir ("reverse_" ++ schema ++ ".sql")
  compatibility := Path.join dir ("compatibility_" ++ schema ++ ".sql")
  log := Path.join dir ("reverse_" ++ schema ++ ".log")

/-- A table without a bundle, and why. -/
structure Failure where
  table : String
  message : String
  deriving DecidableEq, Repr

/-- What a run reports. -/
structure Summary where
  /-- The number of selected tables. -/
  tables : Nat
  succeeded : Nat
  failed : List Failure
  /-- The number of tables that were not started. -/
  skipped : Nat
  warnings : Nat
  /-- The output files, unless nothing was to be written. -/
  outputs : Option Outputs
  deriving DecidableEq, Repr

/-- Whether every selected table was converted. -/
def Summary.isSuccess (s : Summary) : Bool := s.failed.isEmpty && s.skipped == 0

/-- A summary in a line. -/
def Summary.line (s : Summary) : String :=
  toString s.tables ++ " tables: " ++ toString s.succeeded ++ " succeeded, "
    ++ toString s.failed.length ++ " failed, " ++ toString s.skipped ++ " skipped, "
    ++ toString s.warnings ++ " warnings"

/-- The failure of a task. -/
def Task.failure? (t : Task) : Option Failure := t.fault?.map fun f => ⟨t.table, f.message⟩

namespace Pool

/-- The bundles of the tasks that were started. -/
def bundles (p : Pool) : List Ddl.Bundle := p.started.filterMap Task.bundle?

/-- The summary of a pool for a number of selected tables. -/
def summary (p : Pool) (tables : Nat) (outputs : Option Outputs) : Summary where
  tables := tables
  succeeded := p.bundles.length
  failed := p.started.filterMap Task.failure?
  skipped := tables - p.started.length
  warnings := (p.bundles.flatMap Ddl.Bundle.warnings).length
  outputs := outputs

/-- The scripts of a pool. -/
def scripts (p : Pool) : Scripts := p.writer.stop.written

/-- The first fault of the run. -/
def runFault? (p : Pool) : Option Fault :=
  (p.started.filterMap Task.fault?).find? fun f => f.scope == .run

end Pool

end CatalogDdl
