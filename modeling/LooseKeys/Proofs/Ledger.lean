/-
Module: LooseKeys.Proofs.Ledger
Purpose: However the cleanup of a batch ends, its budget tells table by table what became of the
  rows, and over all tables what was logged.
Main exports: Cleanup.watched, Cleanup.shown, Run.Logs, Run.Balances, BatchOutcome.Balances,
  Cleanup.ledger_balances
-/
import LooseKeys.Proofs.Charges
import LooseKeys.Proofs.Spans

/-!
A budget is charged by each pass that answers, with what the pass takes, and by nothing else.  So
the books can be closed after any turn: an error that ends the cleanup finds in them all passes
that were made before it.  When the cleanup answers, the summaries of its relations split up the
same sum.
-/

namespace LooseKeys

variable {ω : Type}

/-! ### What is logged -/

/-- Between two runs the budget was charged with the passes that were logged. -/
def Run.Logs (run later : Run Store ω) : Prop :=
  ∃ made, later.state.passes = run.state.passes ++ made ∧
    later.budget.total = run.budget.total + (made.map (·.affectedRows)).sum

namespace Run.Logs

variable {run middle later : Run Store ω}

theorem still (passes : later.state.passes = run.state.passes)
    (total : later.budget.total = run.budget.total) : run.Logs later :=
  ⟨[], by rw [passes, List.append_nil], total⟩

theorem trans (first : run.Logs middle) (second : middle.Logs later) : run.Logs later := by
  obtain ⟨made, passes, total⟩ := first
  obtain ⟨more, passes', total'⟩ := second
  refine ⟨made ++ more, ?_, ?_⟩
  · rw [passes', passes, List.append_assoc]
  · rw [total', total, List.map_append, List.sum_append, Nat.add_assoc]

/-- A pass without parents takes nothing and is not logged; any other is logged with what it
takes. -/
theorem of_pass {pass : Pass} {result : PassResult} {after : Store} {notes : ω}
    (answered : pass.run Store.storage run.state = (.ok result, after)) :
    run.Logs ⟨after, (run.budget.record result).tick, notes⟩ := by
  by_cases nobody : pass.parentIds = []
  · rw [Pass.run_of_parentIds_nil nobody] at answered
    cases answered
    exact still rfl (Budget.total_record run.budget _)
  · refine ⟨[result.entry], Pass.passes_of_run_ok nobody answered, ?_⟩
    exact Budget.total_record run.budget result

end Run.Logs

section Turns

variable {observer : Observer Store ω} {settings : Settings} {cap : Nat}
  {run later : Run Store ω}

/-- No turn but a pass logs or charges anything. -/
theorem Turn.logs (turn : Turn Store.storage observer settings cap run later) : run.Logs later := by
  cases turn with
  | told notice other => exact .still rfl rfl
  | ticked => exact .still rfl rfl
  | loaded answered =>
      cases answered
      exact .still rfl rfl
  | passed within answered => exact .of_pass answered
  | failed within refused =>
      have left := Pass.eq_of_run_error refused
      subst left
      exact .still rfl rfl
  | @marked parentTable firstId lastId answer after answered =>
      have passes := Store.passes_markProcessed parentTable firstId lastId run.state
      change Store.markProcessed parentTable firstId lastId run.state = _ at answered
      rw [answered] at passes
      exact .still passes rfl

theorem Turns.logs (turns : Turns Store.storage observer settings cap run later) :
    run.Logs later := by
  induction turns with
  | refl => exact .still rfl rfl
  | tail _ turn ih => exact ih.trans turn.logs

end Turns

/-! ### The books of a batch -/

namespace Cleanup

/-- The same cleanup, watched. -/
def watched (cleanup : Cleanup Store ω) : Cleanup Store (ω × List Store) :=
  { cleanup with observer := cleanup.observer.watching }

/-- The states that the observer is shown while a batch is cleaned up, in order. -/
def shown (cleanup : Cleanup Store ω) (registry : Registry) (run : Run Store ω) : List Store :=
  (cleanBatch cleanup.watched registry ⟨run.state, run.budget, (run.notes, [])⟩).2.notes.2

end Cleanup

/-- From one run to another, with some states shown on the way, the budget was charged for each
table with the rows that are gone and the values that were set to null, also in rows that are gone
by now, and over all tables with the passes that were logged. -/
structure Run.Balances (run : Run Store ω) (shown : List Store) (after : Run Store ω) : Prop where
  deletions : ∀ table, (after.budget.deletions.countFor table : ℕ∞) =
    run.budget.deletions.countFor table +
      {place ∈ run.state.removed after.state | place.table = table}.encard
  updates : ∀ table, (after.budget.updates.countFor table : ℕ∞) =
    run.budget.updates.countFor table +
      {cell ∈ run.state.nulled (shown ++ [after.state]) | cell.table = table}.encard
  logged : run.Logs after

/-- The summaries of an outcome count what was logged while each relation was cleaned up, and
together they make up what the budget was charged. -/
structure BatchOutcome.Balances (outcome : BatchOutcome) (cleanup : Cleanup Store ω)
    (registry : Registry) (run after : Run Store ω) : Prop where
  relations : outcome.relations = (cleanup.batchSpans registry run).map (·.summary)
  recorded : ∀ span ∈ cleanup.batchSpans registry run, span.Recorded
  total : after.budget.total =
    run.budget.total + (outcome.relations.map RelationSummary.affectedRows).sum

section Relations

variable {σ : Type} {cleanup : Cleanup σ ω} {run final : Run σ ω}

/-- A relation is charged to the budget with the rows of its summary. -/
theorem Cleanup.Cleans.total_eq {span : Span σ ω} (cleans : cleanup.Cleans span) :
    span.after.budget.total = span.before.budget.total + span.summary.affectedRows := by
  obtain ⟨counted, answered, summary⟩ := cleans
  obtain ⟨skipped, waited, results⟩ := cleanRelation_results answered
  have fold := results.counted
  rw [RelationSummary.foldl_count] at fold
  rw [summary, fold, results.total_eq, sum_affectedRows]
  simp [RelationSummary.affectedRows, RelationSummary.ofRelation]

/-- All relations together are charged with the rows of their summaries. -/
theorem Cleanup.Spanned.total_eq {todo : List Relation} {spans : List (Span σ ω)} {overLimit : Bool}
    (spanned : Spanned cleanup todo run spans overLimit final) :
    final.budget.total =
      run.budget.total + ((spans.map (·.summary)).map RelationSummary.affectedRows).sum := by
  induction spanned with
  | done run => rfl
  | stopped cleaned => exact cleaned.total_eq
  | more cleaned goes others ih =>
      rw [ih, List.map_cons, List.map_cons, List.sum_cons, ← Nat.add_assoc]
      exact congrArg (· + _) cleaned.total_eq

end Relations

namespace Cleanup

variable {cleanup : Cleanup Store ω} (onStore : cleanup.storage = Store.storage)
  (registry : Registry) {run : Run Store ω}
include onStore

/-- The books are balanced at every exit. -/
theorem run_balances (run : Run Store ω) :
    run.Balances (cleanup.shown registry run) (cleanBatch cleanup registry run).2 := by
  have turns := (cleanBatch_proceeds cleanup registry run.budget.within_max).turns
  rw [onStore] at turns
  let start : Run Store (ω × List Store) := ⟨run.state, run.budget, (run.notes, [])⟩
  have simulates : cleanup.watched.observer.Simulates cleanup.observer Prod.fst := fun _ _ _ => rfl
  have same : Reply.reading Prod.fst (cleanBatch cleanup.watched registry start)
      = cleanBatch cleanup registry run := cleanBatch_simulates simulates registry start
  have watching := (cleanBatch_proceeds cleanup.watched registry start.budget.within_max).turns
  have onStore' : cleanup.watched.storage = Store.storage := onStore
  rw [onStore'] at watching
  have fresh (covers : String → Bool) : Run.Tallies covers run.state run.budget start :=
    .fresh run.state run.budget run.notes
  have tallies (covers : String → Bool) := watching.tallies (fresh covers)
  rw [← same] at turns ⊢
  refine ⟨?_, ?_, turns.logs⟩
  · intro table
    have removed := (tallies (· = table)).removed
    simp only [Tally.among_eq_countFor, decide_eq_true_eq] at removed
    exact removed
  · intro table
    have nulled := (tallies (· = table)).nulled
    simp only [Tally.among_eq_countFor, decide_eq_true_eq] at nulled
    exact nulled

/-- An answer splits up by relations what the budget was charged. -/
theorem outcome_balances {outcome : BatchOutcome} {after : Run Store ω}
    (answered : cleanBatch cleanup registry run = (.ok outcome, after)) :
    outcome.Balances cleanup registry run after := by
  by_cases records : cleanup.batch.records = []
  · have range : cleanup.batch.idRange? = none := by
      unfold Batch.idRange? Batch.first?
      rw [records]
      rfl
    have spanless : cleanup.batchSpans registry run = [] := by
      unfold batchSpans
      rw [range]
    rw [cleanBatch_eq_andThen, range] at answered
    cases answered
    refine ⟨?_, ?_, rfl⟩
    · rw [spanless]
      rfl
    · rw [spanless]
      simp
  · have parents := Batch.parentIds_ne_nil records
    obtain ⟨ids, range⟩ := Batch.exists_idRange? records
    cases cleanBatch_spanned range answered with
    | left spanned cause =>
        exact ⟨rfl, fun span member => (spanned.cleans span member).recorded onStore parents,
          spanned.total_eq⟩
    | marked _ spanned drained called =>
        exact ⟨rfl, fun span member => (spanned.cleans span member).recorded onStore parents,
          spanned.total_eq⟩

/-- However the cleanup of a batch ends, its budget is the ledger of the store.  For each table it
was charged with exactly the rows that are gone and with exactly the values that were set to null,
a value in a row that was deleted afterwards included; and the passes that were logged took as
many rows as the total has grown by.  When the cleanup answers, each summary counts the passes that
were logged while its relation was cleaned up, and their rows by lock mode, and the summaries add
up to the growth of the total. -/
theorem ledger_balances (run : Run Store ω) :
    run.Balances (cleanup.shown registry run) (cleanBatch cleanup registry run).2 ∧
      ∀ outcome after, cleanBatch cleanup registry run = (.ok outcome, after) →
        outcome.Balances cleanup registry run after :=
  ⟨run_balances onStore registry run,
    fun _ _ answered => outcome_balances onStore registry answered⟩

end Cleanup

/-! A second relation of the deleted parent, whose child table is not there. -/
namespace Sample

def halfway : List Relation := [relation, .declare "users" "notes" "user_id" .asyncDelete]

def halfwayRegistry : Registry where
  byParent := { entries := [("public.users", halfway)] }

def rowByRow : Cleanup Store Unit :=
  { storage := Store.storage, observer := .silent
    settings := { maxModifications := 9, deleteBatchSize := 1 }
    batch := { parentTable := "public.users", records := [record] } }

def atFirst : Run Store Unit := ⟨store, .ofSettings rowByRow.settings, ()⟩

end Sample

/-- The books of a cleanup that fails at the second relation hold the passes of the first. -/
theorem Cleanup.ledger_balances_in_sample :
    ∃ after,
      cleanBatch Sample.rowByRow Sample.halfwayRegistry Sample.atFirst
        = (.error (.unknownTable "notes"), after) ∧
      after.budget.deletions.countFor "posts" = 2 ∧
      Sample.atFirst.Balances (Sample.rowByRow.shown Sample.halfwayRegistry Sample.atFirst)
        after := by
  have failed : (cleanBatch Sample.rowByRow Sample.halfwayRegistry Sample.atFirst).1
      = .error (.unknownTable "notes") := by
    decide +kernel
  have counted : (cleanBatch Sample.rowByRow Sample.halfwayRegistry
      Sample.atFirst).2.budget.deletions.countFor "posts" = 2 := by
    decide +kernel
  have onStore : Sample.rowByRow.storage = Store.storage := rfl
  obtain ⟨balances, _⟩ :=
    ledger_balances onStore Sample.halfwayRegistry Sample.atFirst
  exact ⟨_, Prod.ext failed rfl, counted, balances⟩

end LooseKeys
