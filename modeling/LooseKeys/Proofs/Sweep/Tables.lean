/-
Module: LooseKeys.Proofs.Sweep.Tables
Purpose: What an invocation does with the next parent table on a storage that holds a store.
Main exports: Sweep.Loads, Sweep.TableEnds, sweepTables_cons_ends, recordsPerTable_pos_of_error
-/
import LooseKeys.Proofs.Batch
import LooseKeys.Proofs.Sequence
import LooseKeys.Proofs.Store.Held

/-!
On a store a load always answers, and what is loaded is accepted as a batch.  So
a parent table is met by a spent budget, or it has nothing pending, or a batch of its first pending
records is cleaned up, and only that can fail.  What holds of every invocation is shown table by
table, with one case for each of these.
-/

namespace LooseKeys

variable {τ ω : Type}

namespace Sweep

/-- The batch that is loaded for a parent table, and the state after the load. -/
structure Loads (sweep : Sweep τ ω) (view : τ → Store) (table : String) (before after : τ)
    (batch : Batch) : Prop where
  shown : view after = view before
  parentTable : batch.parentTable = table
  records : batch.records =
    ((view before).pendingOf table).take sweep.settings.recordsPerTable.toNat
  loaded : batch.LoadedFrom (view after)

/-- How an invocation goes on from a parent table with others after it. -/
inductive TableEnds (sweep : Sweep τ ω) (view : τ → Store) (table : String) (rest : List String)
    (run : Run τ ω) : Reply (Run τ ω) (List BatchOutcome × Bool) → Prop where
  | spent (spent : run.budget.tick.isOverLimit) :
      TableEnds sweep view table rest run (.ok ([], true), { run with budget := run.budget.tick })
  | idle {state : τ} (within : ¬ run.budget.tick.isOverLimit) (shown : view state = view run.state)
      (nothing :
        ((view run.state).pendingOf table).take sweep.settings.recordsPerTable.toNat = []) :
      TableEnds sweep view table rest run
        (sweepTables sweep rest { run with state, budget := run.budget.tick })
  | failed {state : τ} {batch : Batch} {error : CleanupError} {after : Run τ ω}
      (within : ¬ run.budget.tick.isOverLimit)
      (loads : sweep.Loads view table run.state state batch)
      (refused : cleanBatch ⟨sweep.storage, sweep.observer, sweep.settings, batch⟩
        sweep.registry { run with state, budget := run.budget.tick } = (.error error, after)) :
      TableEnds sweep view table rest run (.error error, after)
  | overLimit {state : τ} {batch : Batch} {outcome : BatchOutcome} {after : Run τ ω}
      (within : ¬ run.budget.tick.isOverLimit)
      (loads : sweep.Loads view table run.state state batch)
      (cleaned : cleanBatch ⟨sweep.storage, sweep.observer, sweep.settings, batch⟩
        sweep.registry { run with state, budget := run.budget.tick } = (.ok outcome, after))
      (stops : outcome.overLimit) :
      TableEnds sweep view table rest run (.ok ([outcome], true), after)
  | next {state : τ} {batch : Batch} {outcome : BatchOutcome} {after : Run τ ω}
      (within : ¬ run.budget.tick.isOverLimit)
      (loads : sweep.Loads view table run.state state batch)
      (cleaned : cleanBatch ⟨sweep.storage, sweep.observer, sweep.settings, batch⟩
        sweep.registry { run with state, budget := run.budget.tick } = (.ok outcome, after))
      (goes : ¬ outcome.overLimit) :
      TableEnds sweep view table rest run
        ((sweepTables sweep rest after).andThen fun others final =>
          (.ok (outcome :: others.1, others.2), final))

end Sweep

/-- Each parent table is met in one of these ways. -/
theorem sweepTables_cons_ends {sweep : Sweep τ ω} {view : τ → Store} {newly : τ → Option String}
    (holds : sweep.storage.Holds view newly) (table : String) (rest : List String)
    (run : Run τ ω) :
    sweep.TableEnds view table rest run (sweepTables sweep (table :: rest) run) := by
  rw [sweepTables_cons_eq_andThen]
  obtain ⟨state, load, shown⟩ := holds.load_eq table sweep.settings.recordsPerTable run.state
  by_cases spent : run.budget.tick.isOverLimit = true
  · simp only [spent, if_true]
    exact .spent spent
  · simp only [spent, load, Bool.false_eq_true, if_false, Reply.onRun, Reply.andThen_ok]
    by_cases nothing : ((view run.state).pendingOf table).take
        sweep.settings.recordsPerTable.toNat = []
    · simp only [nothing, List.isEmpty_nil, if_true]
      exact .idle spent shown nothing
    · obtain ⟨batch, made, parentTable, loaded⟩ :=
        Batch.ofRecords_loadedFrom table nothing
      have records := Batch.records_of_ofRecords made
      have nonempty := List.isEmpty_eq_false_iff.mpr nothing
      simp only [nonempty, made, Bool.false_eq_true, if_false]
      rw [← shown] at loaded
      have loads : sweep.Loads view table run.state state batch :=
        ⟨shown, parentTable, records, loaded⟩
      cases cleaned : cleanBatch ⟨sweep.storage, sweep.observer, sweep.settings, batch⟩
          sweep.registry { run with state, budget := run.budget.tick } with
      | mk result after =>
          cases result with
          | error error => exact .failed spent loads cleaned
          | ok outcome =>
              rw [Reply.andThen_ok]
              split
              · rename_i stops
                exact .overLimit spent loads cleaned stops
              · rename_i goes
                exact .next spent loads cleaned goes

/-- Where no records may be loaded there is nothing to fail at. -/
theorem recordsPerTable_pos_of_error {sweep : Sweep τ ω} {view : τ → Store}
    {newly : τ → Option String} (holds : sweep.storage.Holds view newly) {tables : List String}
    {run after : Run τ ω} {error : CleanupError}
    (failed : sweepTables sweep tables run = (.error error, after)) :
    0 < sweep.settings.recordsPerTable := by
  apply Int.lt_of_not_ge
  intro barred
  -- Every load is empty, so each table is passed over.
  have nothing : sweep.settings.recordsPerTable.toNat = 0 := Int.toNat_of_nonpos barred
  induction tables generalizing run with
  | nil => cases failed
  | cons table rest ih =>
      obtain ⟨state, load, _⟩ := holds.load_eq table sweep.settings.recordsPerTable run.state
      rw [nothing, List.take_zero] at load
      rw [sweepTables_cons_eq_andThen] at failed
      simp only [load, Reply.onRun, Reply.andThen_ok, List.isEmpty_nil, if_true] at failed
      split at failed
      · cases failed
      · exact ih failed

end LooseKeys
