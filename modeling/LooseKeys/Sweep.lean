/-
Module: LooseKeys.Sweep
Purpose: One invocation: the pending records of every parent table are cleaned up under one
  budget.
Main exports: SweepReport, sweepTables, sweep
-/
import LooseKeys.Cleanup

/-!
The parent tables come in ascending order.  The budget is looked at before each of them, and a
batch that ends on the budget ends the invocation.
-/

namespace LooseKeys

variable {σ ω : Type}

/-- What one invocation did. -/
structure SweepReport where
  batches : List BatchOutcome := []
  stats : BudgetStats := {}
  /-- The invocation stopped on the budget, so work may be left. -/
  overLimit : Bool := false
deriving DecidableEq, Repr, Inhabited

namespace SweepReport

def deletedRows (report : SweepReport) : Nat := report.stats.deletions.total

def updatedRows (report : SweepReport) : Nat := report.stats.updates.total

def recordsProcessed (report : SweepReport) : Nat :=
  (report.batches.map (·.markedProcessed)).foldr (· + ·) 0

end SweepReport

/-- A report with the times at which its invocation started and finished. -/
structure StampedReport where
  report : SweepReport
  startedAt : Timestamp
  finishedAt : Timestamp
deriving DecidableEq, Repr, Inhabited

/-- Who works on what in an invocation. -/
structure Sweep (σ ω : Type) where
  storage : Storage σ
  observer : Observer σ ω
  registry : Registry
  settings : Settings
  /-- The seconds that pass before each look at the clock. -/
  delays : List Nat := []

/-- Cleans up the pending records of parent tables in order; tells whether the budget ended the
work.  A table without pending records is passed over. -/
def sweepTables (sweep : Sweep σ ω) :
    List String → Run σ ω → Reply (Run σ ω) (List BatchOutcome × Bool)
  | [], run => (.ok ([], false), run)
  | parentTable :: rest, run =>
      let run := { run with budget := run.budget.tick }
      if run.budget.isOverLimit then (.ok ([], true), run)
      else
        match sweep.storage.loadPending parentTable sweep.settings.recordsPerTable run.state with
        | (.error error, state) => (.error error, { run with state })
        | (.ok records, state) =>
            if records.isEmpty then sweepTables sweep rest { run with state }
            else
              match Batch.ofRecords parentTable records with
              | .error error => (.error error, { run with state })
              | .ok batch =>
                  let cleanup : Cleanup σ ω :=
                    { storage := sweep.storage, observer := sweep.observer,
                      settings := sweep.settings, batch }
                  match cleanBatch cleanup sweep.registry { run with state } with
                  | (.error error, after) => (.error error, after)
                  | (.ok outcome, after) =>
                      if outcome.overLimit then (.ok ([outcome], true), after)
                      else
                        match sweepTables sweep rest after with
                        | (.error error, after) => (.error error, after)
                        | (.ok (outcomes, overLimit), after) =>
                            (.ok (outcome :: outcomes, overLimit), after)

/-- Runs one invocation with a budget of its own. -/
def Sweep.run (sweep : Sweep σ ω) (state : σ) (notes : ω) :
    Reply (Run σ ω) SweepReport :=
  match sweepTables sweep sweep.registry.parentTables
      { state, budget := { Budget.ofSettings sweep.settings with delays := sweep.delays },
        notes } with
  | (.error error, after) => (.error error, after)
  | (.ok (batches, overLimit), after) =>
      (.ok { batches, stats := after.budget.stats, overLimit }, after)

end LooseKeys
