/-
Module: LooseKeys.Proofs.Observer
Purpose: Observers do not bear on a cleanup, one that keeps the states it is shown, and the passes
  on record.
Main exports: Observer.Simulates, Sweep.run_simulates, Observer.watching, Sweep.run_watched,
  announced
-/
import LooseKeys.Proofs.Rounds
import LooseKeys.Sweep

/-!
An observer simulates another one when its notes can be read as the notes of the other.  Then
every run with the first one can be read as the run with the other: same answers, same states,
same budgets.  So the states of a run can be watched by adding to the notes.
-/

namespace LooseKeys

variable {σ ω ω' : Type}

/-- The notes of the first observer, read by a function, are those of the second. -/
def Observer.Simulates (first : Observer σ ω') (second : Observer σ ω) (read : ω' → ω) : Prop :=
  ∀ notice state notes, read (first.note notice state notes) = second.note notice state (read notes)

/-- The run with its notes read. -/
def Run.reading (read : ω' → ω) (run : Run σ ω') : Run σ ω :=
  { state := run.state, budget := run.budget, notes := read run.notes }

/-- The reply with the notes of its run read. -/
def Reply.reading {α : Type} (read : ω' → ω) (reply : Reply (Run σ ω') α) : Reply (Run σ ω) α :=
  (reply.1, reply.2.reading read)

section Simulation

variable {cleanup : Cleanup σ ω'} {observer : Observer σ ω} {read : ω' → ω}
  (simulates : cleanup.observer.Simulates observer read)
include simulates

theorem Run.reading_tell (run : Run σ ω') (notice : Notice) :
    (run.tell cleanup.observer notice).reading read = (run.reading read).tell observer notice := by
  unfold Run.tell Run.reading
  rw [simulates]

theorem Run.reading_counted (run : Run σ ω') (pass : Pass) (result : PassResult) (after : σ) :
    (run.counted cleanup.observer pass result after).reading read
      = (run.reading read).counted observer pass result after := by
  unfold Run.counted Run.tell Run.reading
  rw [simulates]

/-- The same cleanup with another observer. -/
theorem runPhase_simulates (pass : Pass) (found : Nat) (summary : RelationSummary)
    (run : Run σ ω') :
    Reply.reading read (runPhase cleanup pass found summary run)
      = runPhase { cleanup with observer } pass found summary (run.reading read) := by
  have rounds := runPhase_rounds cleanup pass found summary run
  generalize runPhase cleanup pass found summary run = reply at rounds ⊢
  apply Eq.symm
  apply Rounds.runPhase_eq
  induction rounds with
  | failed refused =>
      unfold Reply.reading Run.tell Run.reading
      rw [simulates]
      exact .failed refused
  | overLimit answered spent =>
      unfold Reply.reading
      rw [Run.reading_counted simulates]
      exact .overLimit answered spent
  | drained answered within nothing =>
      unfold Reply.reading
      rw [Run.reading_counted simulates]
      exact .drained answered within nothing
  | passLimit answered within affected limit =>
      unfold Reply.reading
      rw [Run.reading_counted simulates]
      exact .passLimit answered within affected limit
  | again answered within affected more rest ih =>
      rw [Run.reading_counted simulates] at ih
      exact .again answered within affected more ih

theorem cleanRelation_simulates (relation : Relation) (run : Run σ ω') :
    Reply.reading read (cleanRelation cleanup relation run)
      = cleanRelation { cleanup with observer } relation (run.reading read) := by
  have phase := runPhase_simulates simulates
  unfold cleanRelation
  simp only [← phase]
  split
  · generalize runPhase cleanup (Pass.plan cleanup.settings cleanup.batch relation .skipLocked) 0
      (.ofRelation relation) run = reply
    obtain ⟨result, after⟩ := reply
    cases result with
    | error error => rfl
    | ok ended =>
        obtain ⟨phaseEnd, summary⟩ := ended
        cases phaseEnd with
        | drained => exact phase _ _ _ _
        | overLimit => rfl
        | passLimit => exact phase _ _ _ _
  · rfl

theorem cleanRelations_simulates (relations : List Relation) :
    ∀ run : Run σ ω', Reply.reading read (cleanRelations cleanup relations run)
      = cleanRelations { cleanup with observer } relations (run.reading read) := by
  induction relations with
  | nil =>
      intro run
      rfl
  | cons relation rest ih =>
      intro run
      simp only [cleanRelations, ← Run.reading_tell simulates, ← cleanRelation_simulates simulates]
      generalize cleanRelation cleanup relation
        (run.tell cleanup.observer (.beforeRelation relation)) = reply
      obtain ⟨result, after⟩ := reply
      cases result with
      | error error => rfl
      | ok ended =>
          obtain ⟨phaseEnd, summary⟩ := ended
          simp only [Reply.reading, ← Run.reading_tell simulates, ← ih]
          split
          · rfl
          · generalize cleanRelations cleanup rest _ = reply
            obtain ⟨result, final⟩ := reply
            cases result <;> rfl

theorem cleanBatch_simulates (registry : Registry) (run : Run σ ω') :
    Reply.reading read (cleanBatch cleanup registry run)
      = cleanBatch { cleanup with observer } registry (run.reading read) := by
  unfold cleanBatch
  simp only [← cleanRelations_simulates simulates]
  split
  · rfl
  · generalize cleanRelations cleanup (registry.relationsFor cleanup.batch.parentTable) run = reply
    obtain ⟨result, after⟩ := reply
    cases result with
    | error error => rfl
    | ok ended =>
        obtain ⟨relations, overLimit⟩ := ended
        simp only [Reply.reading]
        split
        · rfl
        · simp only [Run.reading]
          split
          · rfl
          · exact congrArg _ (Run.reading_tell simulates _ _)

end Simulation

section Sweeps

variable {sweep : Sweep σ ω'} {observer : Observer σ ω} {read : ω' → ω}
  (simulates : sweep.observer.Simulates observer read)
include simulates

theorem sweepTables_simulates (tables : List String) :
    ∀ run : Run σ ω', Reply.reading read (sweepTables sweep tables run)
      = sweepTables { sweep with observer } tables (run.reading read) := by
  induction tables with
  | nil =>
      intro run
      rfl
  | cons parentTable rest ih =>
      intro run
      simp only [sweepTables, Run.reading]
      by_cases spent : run.budget.tick.isOverLimit
      · simp only [spent, if_true]
        rfl
      · simp only [spent]
        rcases sweep.storage.loadPending parentTable sweep.settings.recordsPerTable run.state with
          ⟨error | records, state⟩
        · rfl
        · simp only
          by_cases nothing : records.isEmpty
          · simp only [nothing, if_true]
            exact ih _
          · simp only [nothing]
            rcases Batch.ofRecords parentTable records with error | batch
            · rfl
            · let cleanup : Cleanup σ ω' := ⟨sweep.storage, sweep.observer, sweep.settings, batch⟩
              let next : Run σ ω' := ⟨state, run.budget.tick, run.notes⟩
              have cleaned : Reply.reading read (cleanBatch cleanup sweep.registry next)
                  = cleanBatch { cleanup with observer } sweep.registry (next.reading read) :=
                cleanBatch_simulates simulates sweep.registry next
              simp only [cleanup, next, Run.reading] at cleaned
              simp only [← cleaned, Bool.false_eq_true, if_false]
              generalize cleanBatch _ sweep.registry _ = reply
              rcases reply with ⟨error | outcome, after⟩
              · rfl
              · simp only [Reply.reading, ← ih]
                by_cases stopped : outcome.overLimit
                · simp only [stopped, if_true]
                · simp only [stopped, Bool.false_eq_true, if_false]
                  rcases sweepTables sweep rest after with ⟨error | outcomes, final⟩
                  · rfl
                  · rfl

/-- An invocation is the same for an observer and one that it simulates. -/
theorem Sweep.run_simulates (state : σ) (notes : ω') :
    Reply.reading read (sweep.run state notes)
      = Sweep.run { sweep with observer } state (read notes) := by
  let start : Run σ ω' :=
    ⟨state, { Budget.ofSettings sweep.settings with delays := sweep.delays }, notes⟩
  have swept : Reply.reading read (sweepTables sweep sweep.registry.parentTables start)
      = sweepTables { sweep with observer } sweep.registry.parentTables (start.reading read) :=
    sweepTables_simulates simulates sweep.registry.parentTables start
  simp only [start, Run.reading] at swept
  simp only [Sweep.run, ← swept]
  generalize sweepTables sweep sweep.registry.parentTables _ = reply
  rcases reply with ⟨error | ended, after⟩
  · rfl
  · rfl

end Sweeps

/-- An observer that also keeps the states it is shown, the latest last. -/
def Observer.watching (observer : Observer σ ω) : Observer σ (ω × List σ) where
  note notice state notes := (observer.note notice state notes.1, notes.2 ++ [state])

/-- The same invocation, watched. -/
def Sweep.watched (sweep : Sweep σ ω) : Sweep σ (ω × List σ) :=
  { sweep with observer := sweep.observer.watching }

/-- An invocation that is watched runs like one that is not. -/
theorem Sweep.run_watched (sweep : Sweep σ ω) (state : σ) (notes : ω) (seen : List σ) :
    Reply.reading Prod.fst (sweep.watched.run state (notes, seen)) = sweep.run state notes := by
  have simulates : sweep.watched.observer.Simulates sweep.observer Prod.fst :=
    fun _ _ _ => rfl
  exact Sweep.run_simulates simulates state (notes, seen)

/-- The pass that a notice announces. -/
def Notice.pass? : Notice → Option Pass
  | .passStarting pass _ => some pass
  | _ => none

/-- The passes that are announced, in order. -/
def announced (notices : List Notice) : List Pass := notices.filterMap Notice.pass?

@[simp] theorem announced_passStarting (notices : List Notice) (pass : Pass) (budget : Budget) :
    announced (notices ++ [.passStarting pass budget]) = announced notices ++ [pass] := by
  simp [announced, Notice.pass?]

theorem announced_of_other (notices : List Notice) {notice : Notice}
    (other : notice.pass? = none) : announced (notices ++ [notice]) = announced notices := by
  simp [announced, other]

end LooseKeys
