/-
Module: LooseKeys.Proofs.Turns
Purpose: What a cleanup and an invocation do turn by turn, on any storage, with the budget that
  each pass starts with.
Main exports: Budget.Within, Turn, Turns, Proceeds, Proceeds.andThen, cleanBatch_proceeds,
  sweepTables_proceeds, Sweep.run_turns
-/
import LooseKeys.Proofs.Budget
import LooseKeys.Proofs.Rounds
import LooseKeys.Proofs.Sequence
import Mathlib.Logic.Relation

/-!
A turn is a notice, a look at the clock, a load, a pass together with its announcement, or a
marking, whatever the storage answers.  A pass is only made with a budget within the cap: it has
been charged less than the cap, and whatever reaches the cap is over the limit.  For a batch that
is cleaned up by itself the cap has to leave room for the first pass, which is made with any
budget; in an invocation the ceiling will do, since the budget is looked at before each table.

`Proceeds` says of a call that it went on by turns, that its budget is still within the cap unless
the budget ended it, and that it is over its limit if it did.  It passes through calls in sequence,
so it holds of every loop.
-/

namespace LooseKeys

variable {σ ω α β : Type}

/-- The budget has been charged less than the cap and is over its limit once it reaches it. -/
structure Budget.Within (cap : Nat) (budget : Budget) : Prop where
  total : budget.total < cap
  ceiling : budget.ceiling ≤ cap

/-- Every budget is within some cap. -/
theorem Budget.within_max (budget : Budget) :
    budget.Within (max (budget.total + 1) budget.ceiling) :=
  ⟨by omega, by omega⟩

theorem Budget.Within.tick {cap : Nat} {budget : Budget} (within : budget.Within cap) :
    budget.tick.Within cap :=
  ⟨within.total, within.ceiling⟩

section Turns

variable (storage : Storage σ) (observer : Observer σ ω) (settings : Settings) (cap : Nat)

/-- What can happen next. -/
inductive Turn : Run σ ω → Run σ ω → Prop where
  | told (run : Run σ ω) (notice : Notice)
      (other : ∀ pass budget, notice ≠ .passStarting pass budget) :
      Turn run (run.tell observer notice)
  | ticked (run : Run σ ω) : Turn run { run with budget := run.budget.tick }
  | loaded {run : Run σ ω} {parentTable : String} {limit : Int}
      {answer : Except CleanupError (List DeletedRecord)} {after : σ}
      (answered : storage.loadPending parentTable limit run.state = (answer, after)) :
      Turn run { run with state := after }
  | passed {run : Run σ ω} {batch : Batch} {relation : Relation} {mode : LockMode}
      {result : PassResult} {after : σ} (within : run.budget.Within cap)
      (answered : (Pass.plan settings batch relation mode).run storage run.state
        = (.ok result, after)) :
      Turn run
        { run.tell observer (.passStarting (Pass.plan settings batch relation mode) run.budget)
          with state := after, budget := (run.budget.record result).tick }
  | failed {run : Run σ ω} {batch : Batch} {relation : Relation} {mode : LockMode}
      {error : CleanupError} {after : σ} (within : run.budget.Within cap)
      (refused : (Pass.plan settings batch relation mode).run storage run.state
        = (.error error, after)) :
      Turn run
        { run.tell observer (.passStarting (Pass.plan settings batch relation mode) run.budget)
          with state := after }
  | marked {run : Run σ ω} {parentTable : String} {firstId lastId : Int}
      {answer : Except CleanupError Nat} {after : σ}
      (answered : storage.markProcessed parentTable firstId lastId run.state = (answer, after)) :
      Turn run { run with state := after }

/-- Any number of turns. -/
abbrev Turns : Run σ ω → Run σ ω → Prop :=
  Relation.ReflTransGen (Turn storage observer settings cap)

/-- A call went on by turns.  If it answers that it was stopped its budget is over its limit, and
else it is within the cap. -/
structure Proceeds (stopped : α → Prop) (run : Run σ ω) (reply : Reply (Run σ ω) α) : Prop where
  turns : Turns storage observer settings cap run reply.2
  within : ∀ answer, reply.1 = .ok answer → ¬ stopped answer → reply.2.budget.Within cap
  spent : ∀ answer, reply.1 = .ok answer → stopped answer → reply.2.budget.isOverLimit

end Turns

variable {storage : Storage σ} {observer : Observer σ ω} {settings : Settings} {cap : Nat}
variable {stopped : α → Prop} {run later : Run σ ω}

/-- What every turn keeps is kept by any number of turns. -/
theorem Turns.keep {property : Run σ ω → Prop}
    (kept : ∀ run later, Turn storage observer settings cap run later → property run →
      property later)
    (turns : Turns storage observer settings cap run later) (holds : property run) :
    property later := by
  induction turns with
  | refl => exact holds
  | tail _ turn ih => exact kept _ _ turn ih

theorem Turn.ceiling_eq (turn : Turn storage observer settings cap run later) :
    later.budget.ceiling = run.budget.ceiling := by
  cases turn with
  | passed within answered => exact Budget.ceiling_record run.budget _
  | _ => rfl

theorem Turn.inTime (turn : Turn storage observer settings cap run later)
    (inTime : run.budget.InTime) : later.budget.InTime := by
  cases turn with
  | ticked => exact inTime.tick
  | passed within answered => exact (inTime.record _).tick
  | _ => exact inTime

/-- A budget whose time does not run out stays so. -/
theorem Turns.inTime (turns : Turns storage observer settings cap run later)
    (inTime : run.budget.InTime) : later.budget.InTime :=
  turns.keep (fun _ _ turn => turn.inTime) inTime

theorem Turns.ceiling_eq (turns : Turns storage observer settings cap run later) :
    later.budget.ceiling = run.budget.ceiling := by
  induction turns with
  | refl => rfl
  | tail _ turn ih => exact turn.ceiling_eq.trans ih

/-- A budget that is not over its limit is within every cap that its ceiling is. -/
theorem Budget.Within.of_not_isOverLimit {budget : Budget} (ceiling : budget.ceiling ≤ cap)
    (unspent : ¬ budget.isOverLimit) : budget.Within cap :=
  ⟨Nat.lt_of_lt_of_le (Budget.total_lt_ceiling unspent) ceiling, ceiling⟩

/-- A pass leaves a budget within the cap unless it is over its limit. -/
theorem Budget.Within.charged {budget : Budget} (within : budget.Within cap) {result : PassResult}
    (unspent : ¬ ((budget.record result).tick).isOverLimit) :
    ((budget.record result).tick).Within cap :=
  .of_not_isOverLimit (by simpa using within.ceiling) unspent

namespace Proceeds

/-- An answer that the call was not stopped. -/
theorem ofWithin {answer : α} (goes : ¬ stopped answer) (within : run.budget.Within cap) :
    Proceeds storage observer settings cap stopped run (.ok answer, run) := by
  refine ⟨.refl, ?_, ?_⟩
  · intro _ _ _
    exact within
  · intro other same stops
    cases same
    exact absurd stops goes

/-- An answer that the call was stopped. -/
theorem ofSpent {answer : α} (stops : stopped answer) (spent : run.budget.isOverLimit) :
    Proceeds storage observer settings cap stopped run (.ok answer, run) := by
  refine ⟨.refl, ?_, ?_⟩
  · intro other same goes
    cases same
    exact absurd stops goes
  · intro _ _ _
    exact spent

theorem error (error : CleanupError) :
    Proceeds storage observer settings cap stopped run (.error error, run) := by
  refine ⟨.refl, ?_, ?_⟩
  · intro answer impossible
    cases impossible
  · intro answer impossible
    cases impossible

/-- Turns made before a call. -/
theorem before {first : Run σ ω} {reply : Reply (Run σ ω) α}
    (turns : Turns storage observer settings cap first run)
    (proceeds : Proceeds storage observer settings cap stopped run reply) :
    Proceeds storage observer settings cap stopped first reply :=
  ⟨turns.trans proceeds.turns, proceeds.within, proceeds.spent⟩

/-- One call after another. -/
theorem andThen {stopped' : β → Prop} {reply : Reply (Run σ ω) α}
    {next : α → Run σ ω → Reply (Run σ ω) β}
    (first : Proceeds storage observer settings cap stopped run reply)
    (stop : ∀ answer after, stopped answer → after.budget.isOverLimit →
      Proceeds storage observer settings cap stopped' after (next answer after))
    (onward : ∀ answer after, ¬ stopped answer → after.budget.Within cap →
      Proceeds storage observer settings cap stopped' after (next answer after)) :
    Proceeds storage observer settings cap stopped' run (reply.andThen next) := by
  obtain ⟨result, after⟩ := reply
  cases result with
  | error error => exact (Proceeds.error error).before first.turns
  | ok answer =>
      change Proceeds _ _ _ _ stopped' run (next answer after)
      by_cases stops : stopped answer
      · exact (stop answer after stops (first.spent answer rfl stops)).before first.turns
      · exact (onward answer after stops (first.within answer rfl stops)).before first.turns

/-- An answer that is put in another form. -/
theorem andThen_ok {stopped' : β → Prop} {reply : Reply (Run σ ω) α} {form : α → β}
    (proceeds : Proceeds storage observer settings cap stopped run reply)
    (same : ∀ answer, stopped' (form answer) ↔ stopped answer) :
    Proceeds storage observer settings cap stopped' run
      (reply.andThen fun answer after => (.ok (form answer), after)) := by
  apply proceeds.andThen
  · intro answer after stops spent
    exact .ofSpent ((same answer).mpr stops) spent
  · intro answer after goes within
    exact .ofWithin (fun stops => goes ((same answer).mp stops)) within

end Proceeds

section Batches

variable (cleanup : Cleanup σ ω)

/-- A phase goes on by passes, each of which finds the budget within the cap. -/
theorem runPhase_proceeds (relation : Relation) (mode : LockMode) (found : Nat)
    (summary : RelationSummary) (run : Run σ ω) :
    run.budget.Within cap →
      Proceeds cleanup.storage cleanup.observer cleanup.settings cap (·.1 = .overLimit) run
        (runPhase cleanup (Pass.plan cleanup.settings cleanup.batch relation mode) found summary
          run) := by
  have rounds := runPhase_rounds cleanup (Pass.plan cleanup.settings cleanup.batch relation mode)
    found summary run
  generalize runPhase cleanup (Pass.plan cleanup.settings cleanup.batch relation mode) found summary
    run = reply at rounds ⊢
  induction rounds with
  | failed refused =>
      intro within
      exact (Proceeds.error _).before (.single (.failed within refused))
  | overLimit answered spent =>
      intro within
      exact Proceeds.before (.single (.passed within answered)) (.ofSpent rfl spent)
  | drained answered unspent nothing =>
      intro within
      exact Proceeds.before (.single (.passed within answered))
        (.ofWithin (by simp) (within.charged unspent))
  | passLimit answered unspent affected limit =>
      intro within
      exact Proceeds.before (.single (.passed within answered))
        (.ofWithin (by simp) (within.charged unspent))
  | again answered unspent affected more rest ih =>
      intro within
      exact (ih (within.charged unspent)).before (.single (.passed within answered))

theorem cleanRelation_proceeds (relation : Relation) (within : run.budget.Within cap) :
    Proceeds cleanup.storage cleanup.observer cleanup.settings cap (·.1 = .overLimit) run
      (cleanRelation cleanup relation run) := by
  rw [cleanRelation_eq_andThen]
  split
  · apply (runPhase_proceeds cleanup relation .skipLocked 0 _ run within).andThen
    · intro ended after stops spent
      simp only [stops, if_true]
      exact .ofSpent rfl spent
    · intro ended after goes still
      simp only [goes, if_false]
      exact runPhase_proceeds cleanup relation .blocking 0 _ after still
  · exact runPhase_proceeds cleanup relation .blocking 0 _ run within

theorem cleanRelations_proceeds (relations : List Relation) :
    ∀ {run : Run σ ω}, run.budget.Within cap →
      Proceeds cleanup.storage cleanup.observer cleanup.settings cap (·.2 = true) run
        (cleanRelations cleanup relations run) := by
  induction relations with
  | nil => exact fun within => .ofWithin (by simp) within
  | cons relation rest ih =>
      intro run within
      rw [cleanRelations_cons_eq_andThen]
      have told : Turns cleanup.storage cleanup.observer cleanup.settings cap run
          (run.tell cleanup.observer (.beforeRelation relation)) :=
        .single (.told run _ (by simp))
      have toldWithin : (run.tell cleanup.observer (.beforeRelation relation)).budget.Within cap :=
        within
      refine ((cleanRelation_proceeds cleanup relation toldWithin).before told).andThen ?_ ?_
      · intro ended after stops spent
        simp only [stops, if_true]
        exact Proceeds.before (.single (.told after _ (by simp))) (.ofSpent rfl spent)
      · intro ended after goes still
        simp only [goes, if_false]
        let summary : RelationSummary :=
          { ended.2 with drained := decide (ended.1 = PhaseEnd.drained) }
        let next : Run σ ω := after.tell cleanup.observer (.afterRelation relation summary)
        have told : Turns cleanup.storage cleanup.observer cleanup.settings cap after next :=
          .single (.told after _ (by simp))
        have nextWithin : next.budget.Within cap := still
        exact ((ih nextWithin).andThen_ok (fun _ => Iff.rfl)).before told

/-- The cleanup of a batch goes on by turns, and unless the budget ended it, it is still within
the cap. -/
theorem cleanBatch_proceeds (registry : Registry) (within : run.budget.Within cap) :
    Proceeds cleanup.storage cleanup.observer cleanup.settings cap (·.overLimit = true) run
      (cleanBatch cleanup registry run) := by
  rw [cleanBatch_eq_andThen]
  cases cleanup.batch.idRange? with
  | none => exact .ofWithin (by simp) within
  | some ids =>
      refine (cleanRelations_proceeds cleanup (registry.relationsFor cleanup.batch.parentTable)
        within).andThen ?_ ?_
      · intro ended after stops spent
        simp only [stops, Bool.true_or, if_true]
        exact .ofSpent rfl spent
      · intro ended after goes still
        split
        · exact .ofWithin goes still
        · cases answered : cleanup.storage.markProcessed cleanup.batch.parentTable ids.1 ids.2
            after.state with
          | mk result state =>
              refine Proceeds.before (.single (.marked answered)) ?_
              cases result with
              | error error => exact .error error
              | ok marked =>
                  let next : Run σ ω := { after with state }
                  exact Proceeds.before (.single (.told next _ (by simp)))
                    (.ofWithin (by simp) still)

end Batches

section Sweeps

variable (sweep : Sweep σ ω)

/-- Parent tables are cleaned up by turns, and the budget is within the cap unless it ended the
work.  It is looked at before each table, so only without tables it has to be within the cap at
first. -/
theorem sweepTables_proceeds (tables : List String) :
    ∀ {run : Run σ ω}, run.budget.ceiling ≤ cap → (tables = [] → run.budget.Within cap) →
      Proceeds sweep.storage sweep.observer sweep.settings cap (·.2 = true) run
        (sweepTables sweep tables run) := by
  induction tables with
  | nil => exact fun _ within => .ofWithin (by simp) (within rfl)
  | cons parentTable rest ih =>
      intro run ceiling _
      rw [sweepTables_cons_eq_andThen]
      refine Proceeds.before (.single (.ticked run)) ?_
      simp only
      split
      · rename_i spent
        exact .ofSpent rfl spent
      · rename_i unspent
        have within : run.budget.tick.Within cap := .of_not_isOverLimit ceiling unspent
        cases answered : sweep.storage.loadPending parentTable sweep.settings.recordsPerTable
          run.state with
        | mk result state =>
            refine Proceeds.before (.single (.loaded answered)) ?_
            cases result with
            | error error => exact .error error
            | ok records =>
                simp only [Reply.onRun, Reply.andThen_ok]
                split
                · exact ih ceiling (fun _ => within)
                · cases Batch.ofRecords parentTable records with
                  | error error => exact .error error
                  | ok batch =>
                      let cleanup : Cleanup σ ω :=
                        ⟨sweep.storage, sweep.observer, sweep.settings, batch⟩
                      let loaded : Run σ ω := { run with state, budget := run.budget.tick }
                      have loadedWithin : loaded.budget.Within cap := within
                      refine (cleanBatch_proceeds cleanup sweep.registry loadedWithin).andThen ?_ ?_
                      · intro outcome after stops spent
                        simp only [stops, if_true]
                        exact .ofSpent rfl spent
                      · intro outcome after goes still
                        simp only [goes, if_false]
                        exact (ih still.ceiling (fun _ => still)).andThen_ok (fun _ => Iff.rfl)

theorem sweepTables_turns {tables : List String} (ceiling : run.budget.ceiling ≤ cap) :
    Turns sweep.storage sweep.observer sweep.settings cap run (sweepTables sweep tables run).2 := by
  cases tables with
  | nil => exact .refl
  | cons parentTable rest => exact (sweepTables_proceeds sweep _ ceiling (by simp)).turns

/-- When the seconds of all looks at the clock stay below the limit, the time does not run out. -/
theorem Sweep.inTime_budget
    (inTime : ∀ limit, sweep.settings.maxRuntime? = some limit → sweep.delays.sum < limit) :
    sweep.budget.InTime := by
  intro limit limited
  have below := inTime limit limited
  change 0 + sweep.delays.sum < limit
  omega

/-- An invocation goes on by turns, and each pass finds the budget below its ceiling. -/
theorem Sweep.run_turns (state : σ) (notes : ω) :
    Turns sweep.storage sweep.observer sweep.settings sweep.settings.maxModifications
      ⟨state, sweep.budget, notes⟩ (sweep.run state notes).2 := by
  have turns : Turns sweep.storage sweep.observer sweep.settings sweep.settings.maxModifications
      ⟨state, sweep.budget, notes⟩
      (sweepTables sweep sweep.registry.parentTables ⟨state, sweep.budget, notes⟩).2 :=
    sweepTables_turns sweep (Nat.le_refl _)
  rw [Sweep.run_eq_andThen]
  generalize sweepTables sweep sweep.registry.parentTables _ = reply at turns ⊢
  obtain ⟨result, after⟩ := reply
  cases result with
  | error error => exact turns
  | ok ended => exact turns

end Sweeps

end LooseKeys
