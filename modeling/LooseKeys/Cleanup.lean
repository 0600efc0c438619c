/-
Module: LooseKeys.Cleanup
Purpose: The cleanup of one batch: every relation of its parent table is drained by bounded
  passes, and the records of the batch are marked once nothing is left.
Main exports: Run, PhaseEnd, runPhase, cleanRelation, cleanRelations, BatchOutcome, cleanBatch
-/
import LooseKeys.Observer
import LooseKeys.Registry

/-!
For each relation a phase of passes that skip locked rows comes before a phase of passes that
wait for locks; the first phase can be switched off.  The budget is looked at after every pass.
Once it is over its limit no further pass starts and nothing is marked.  A phase that reaches
its limit of passes hands over to the next phase or relation, and only the waiting phase
decides whether a relation is drained.

A phase ends because each pass that lets it go on brings the total of the budget nearer to its
ceiling.
-/

namespace LooseKeys

variable {σ ω : Type}

/-- What a cleanup works on: the storage, the budget, and the notes of the observer. -/
structure Run (σ ω : Type) where
  state : σ
  budget : Budget
  notes : ω

/-- Lets the observer note something. -/
def Run.tell (run : Run σ ω) (observer : Observer σ ω) (notice : Notice) : Run σ ω :=
  { run with notes := observer.note notice run.state run.notes }

/-- How a phase of passes ended. -/
inductive PhaseEnd where
  /-- A pass found no row. -/
  | drained
  /-- The budget is over its limit. -/
  | overLimit
  /-- As many passes in a row found rows as are allowed. -/
  | passLimit
deriving DecidableEq, Repr, Inhabited

/-- The parts of a cleanup that stay the same throughout a batch. -/
structure Cleanup (σ ω : Type) where
  storage : Storage σ
  observer : Observer σ ω
  settings : Settings
  batch : Batch

/-- Repeats a pass until it finds no row, or the budget or the limit of passes ends the phase;
`found` counts the passes that have found rows. -/
def runPhase (cleanup : Cleanup σ ω) (pass : Pass) (found : Nat) (summary : RelationSummary)
    (run : Run σ ω) : Reply (Run σ ω) (PhaseEnd × RelationSummary) :=
  let started := run.tell cleanup.observer (.passStarting pass run.budget)
  match pass.run cleanup.storage started.state with
  | (.error error, after) => (.error error, { started with state := after })
  | (.ok result, after) =>
      let counted : Run σ ω :=
        { started with state := after, budget := (run.budget.record result).tick }
      let summary := summary.count result
      if counted.budget.isOverLimit then (.ok (.overLimit, summary), counted)
      else if result.affectedRows = 0 then (.ok (.drained, summary), counted)
      else if cleanup.settings.maxPassesPerPhase.any (· ≤ found + 1) then
        (.ok (.passLimit, summary), counted)
      else runPhase cleanup pass (found + 1) summary counted
termination_by run.budget.ceiling - run.budget.total
decreasing_by
  rename_i notOver notEmpty _
  have below := Budget.total_lt_ceiling notOver
  simp only [counted, Budget.total_tick, Budget.ceiling_tick, Budget.total_record,
    Budget.ceiling_record] at below ⊢
  omega

/-- Cleans up one relation: the phase that skips locked rows, if it is switched on, then the
phase that waits, unless the budget ended the first. -/
def cleanRelation (cleanup : Cleanup σ ω) (relation : Relation) (run : Run σ ω) :
    Reply (Run σ ω) (PhaseEnd × RelationSummary) :=
  let plan := Pass.plan cleanup.settings cleanup.batch relation
  let summary := RelationSummary.ofRelation relation
  if cleanup.settings.skipLockedPass then
    match runPhase cleanup (plan .skipLocked) 0 summary run with
    | (.error error, after) => (.error error, after)
    | (.ok (.overLimit, summary), after) => (.ok (.overLimit, summary), after)
    | (.ok (_, summary), after) => runPhase cleanup (plan .blocking) 0 summary after
  else runPhase cleanup (plan .blocking) 0 summary run

/-- Cleans up relations in order until the budget ends; tells whether it did. -/
def cleanRelations (cleanup : Cleanup σ ω) :
    List Relation → Run σ ω → Reply (Run σ ω) (List RelationSummary × Bool)
  | [], run => (.ok ([], false), run)
  | relation :: rest, run =>
      match cleanRelation cleanup relation
          (run.tell cleanup.observer (.beforeRelation relation)) with
      | (.error error, after) => (.error error, after)
      | (.ok (phaseEnd, summary), after) =>
          let summary := { summary with drained := decide (phaseEnd = .drained) }
          let told := after.tell cleanup.observer (.afterRelation relation summary)
          if phaseEnd = .overLimit then (.ok ([summary], true), told)
          else
            match cleanRelations cleanup rest told with
            | (.error error, after) => (.error error, after)
            | (.ok (summaries, overLimit), after) =>
                (.ok (summary :: summaries, overLimit), after)

/-- The stage that the cleanup of a batch has reached. -/
inductive BatchState where
  | runningRelations
  | finalizing
  | done
deriving DecidableEq, Repr, Inhabited

def BatchState.name : BatchState → String
  | .runningRelations => "running_relations"
  | .finalizing => "finalizing"
  | .done => "done"

/-- What the cleanup of one batch did. -/
structure BatchOutcome where
  parentTable : String
  state : BatchState := .done
  /-- The records of the batch have been marked. -/
  finalized : Bool := false
  markedProcessed : Nat := 0
  /-- The budget ended the cleanup. -/
  overLimit : Bool := false
  relations : List RelationSummary := []
deriving DecidableEq, Repr, Inhabited

/-- Cleans up a batch.  Its records are marked, from the first to the last id, only when every
relation of the parent table was drained within the budget; an empty batch needs no work. -/
def cleanBatch (cleanup : Cleanup σ ω) (registry : Registry) (run : Run σ ω) :
    Reply (Run σ ω) BatchOutcome :=
  let parentTable := cleanup.batch.parentTable
  match cleanup.batch.idRange? with
  | none => (.ok { parentTable }, run)
  | some (firstId, lastId) =>
      match cleanRelations cleanup (registry.relationsFor parentTable) run with
      | (.error error, after) => (.error error, after)
      | (.ok (relations, overLimit), after) =>
          if overLimit || !relations.all (·.drained) then
            (.ok { parentTable, overLimit, relations }, after)
          else
            match cleanup.storage.markProcessed parentTable firstId lastId after.state with
            | (.error error, state) => (.error error, { after with state })
            | (.ok marked, state) =>
                (.ok { parentTable, finalized := true, markedProcessed := marked, relations },
                  ({ after with state } : Run σ ω).tell cleanup.observer
                    (.finalized parentTable marked))

end LooseKeys
