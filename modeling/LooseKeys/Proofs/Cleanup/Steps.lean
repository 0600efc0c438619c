/-
Module: LooseKeys.Proofs.Cleanup.Steps
Purpose: What the cleanup of a batch does step by step, on any storage, and how it can end.
Main exports: Cleanup.Step, Cleanup.Steps, Cleanup.Exhausts, Cleanup.PhaseEnds,
  Cleanup.RelationsEnd, Cleanup.BatchEnds, runPhase_ends, cleanRelation_ends,
  cleanRelations_end, cleanBatch_ends
-/
import LooseKeys.Proofs.Rounds
import Mathlib.Logic.Relation

/-!
A cleanup is a chain of steps until it marks: a notice, a pass that answers, or a pass that
fails.  `Cleanup.Step` says all that one step does, so whatever every step keeps is kept by a
phase, a relation, and a batch.

How a loop ends is read off once, by one inductive view for each loop.  The views keep what the
marking rests on: a relation counts as drained only after a waiting pass that found no row
(`Cleanup.Exhausts`).
-/

namespace LooseKeys

variable {σ ω : Type}

namespace Cleanup

/-- The pass of a relation over the children of the batch. -/
abbrev pass (cleanup : Cleanup σ ω) (relation : Relation) (mode : LockMode) : Pass :=
  Pass.plan cleanup.settings cleanup.batch relation mode

section Steps

variable (cleanup : Cleanup σ ω) (relations : List Relation)

/-- What a cleanup of some relations can do next. -/
inductive Step : Run σ ω → Run σ ω → Prop where
  | told (run : Run σ ω) (notice : Notice) : Step run (run.tell cleanup.observer notice)
  | passed {run : Run σ ω} {relation : Relation} {mode : LockMode} {result : PassResult}
      {after : σ} (declared : relation ∈ relations)
      (answered : (cleanup.pass relation mode).run cleanup.storage run.state
        = (.ok result, after)) :
      Step run { run with state := after, budget := (run.budget.record result).tick }
  | failed {run : Run σ ω} {relation : Relation} {mode : LockMode} {error : CleanupError}
      {after : σ} (declared : relation ∈ relations)
      (refused : (cleanup.pass relation mode).run cleanup.storage run.state
        = (.error error, after)) :
      Step run { run with state := after }

/-- Any number of steps. -/
abbrev Steps : Run σ ω → Run σ ω → Prop := Relation.ReflTransGen (Step cleanup relations)

/-- At some point between two runs a waiting pass of the relation found no row. -/
inductive Exhausts (relation : Relation) (run later : Run σ ω) : Prop where
  | intro {before : Run σ ω} {result : PassResult} {after : σ}
      (earlier : Steps cleanup relations run before)
      (answered : (cleanup.pass relation .blocking).run cleanup.storage before.state
        = (.ok result, after))
      (nothing : result.affectedRows = 0)
      (rest : Steps cleanup relations
        { before with state := after, budget := (before.budget.record result).tick } later)

/-- How a phase ends, or a relation when the last phase is the one that waits. -/
inductive PhaseEnds (relation : Relation) (mode : LockMode) (run : Run σ ω) :
    Reply (Run σ ω) (PhaseEnd × RelationSummary) → Prop where
  | failed {before : Run σ ω} {mode' : LockMode} {error : CleanupError} {after : σ}
      (earlier : Steps cleanup relations run before)
      (refused : (cleanup.pass relation mode').run cleanup.storage before.state
        = (.error error, after)) :
      PhaseEnds relation mode run (.error error, { before with state := after })
  | drained {before : Run σ ω} {result : PassResult} {after : σ} {summary : RelationSummary}
      (earlier : Steps cleanup relations run before)
      (answered : (cleanup.pass relation mode).run cleanup.storage before.state
        = (.ok result, after))
      (nothing : result.affectedRows = 0) :
      PhaseEnds relation mode run (.ok (.drained, summary),
        { before with state := after, budget := (before.budget.record result).tick })
  | overLimit {after : Run σ ω} {summary : RelationSummary}
      (steps : Steps cleanup relations run after) (spent : after.budget.isOverLimit) :
      PhaseEnds relation mode run (.ok (.overLimit, summary), after)
  | passLimit {after : Run σ ω} {summary : RelationSummary}
      (steps : Steps cleanup relations run after) (modified : 0 < after.budget.total) :
      PhaseEnds relation mode run (.ok (.passLimit, summary), after)

/-- How the cleanup of some of the relations ends. -/
inductive RelationsEnd (todo : List Relation) (run : Run σ ω) :
    Reply (Run σ ω) (List RelationSummary × Bool) → Prop where
  | failed {before : Run σ ω} {relation : Relation} {mode : LockMode} {error : CleanupError}
      {after : σ} (declared : relation ∈ todo) (earlier : Steps cleanup relations run before)
      (refused : (cleanup.pass relation mode).run cleanup.storage before.state
        = (.error error, after)) :
      RelationsEnd todo run (.error error, { before with state := after })
  | overLimit {after : Run σ ω} {summaries : List RelationSummary}
      (steps : Steps cleanup relations run after) (spent : after.budget.isOverLimit) :
      RelationsEnd todo run (.ok (summaries, true), after)
  | finished {after : Run σ ω} {summaries : List RelationSummary}
      (steps : Steps cleanup relations run after)
      (exhausted : summaries.all (·.drained) →
        ∀ relation ∈ todo, Exhausts cleanup relations relation run after)
      (modified : ¬ summaries.all (·.drained) → 0 < after.budget.total) :
      RelationsEnd todo run (.ok (summaries, false), after)

end Steps

/-- How the cleanup of a batch ends. -/
inductive BatchEnds (cleanup : Cleanup σ ω) (relations : List Relation) (run : Run σ ω) :
    Reply (Run σ ω) BatchOutcome → Prop where
  | empty {outcome : BatchOutcome} (nothing : cleanup.batch.idRange? = none)
      (pending : outcome.finalized = false) : BatchEnds cleanup relations run (.ok outcome, run)
  | failed {before : Run σ ω} {relation : Relation} {mode : LockMode} {error : CleanupError}
      {after : σ} (declared : relation ∈ relations)
      (earlier : Steps cleanup relations run before)
      (refused : (cleanup.pass relation mode).run cleanup.storage before.state
        = (.error error, after)) :
      BatchEnds cleanup relations run (.error error, { before with state := after })
  | left {after : Run σ ω} {outcome : BatchOutcome} (steps : Steps cleanup relations run after)
      (pending : outcome.finalized = false)
      (cause : after.budget.isOverLimit ∨ 0 < after.budget.total) :
      BatchEnds cleanup relations run (.ok outcome, after)
  | unmarked {before : Run σ ω} {firstId lastId : Int} {error : CleanupError} {after : σ}
      (range : cleanup.batch.idRange? = some (firstId, lastId))
      (steps : Steps cleanup relations run before)
      (exhausted : ∀ relation ∈ relations, Exhausts cleanup relations relation run before)
      (refused : cleanup.storage.markProcessed cleanup.batch.parentTable firstId lastId
        before.state = (.error error, after)) :
      BatchEnds cleanup relations run (.error error, { before with state := after })
  | marked {before : Run σ ω} {firstId lastId : Int} {marked : Nat} {after : σ}
      {outcome : BatchOutcome} (range : cleanup.batch.idRange? = some (firstId, lastId))
      (steps : Steps cleanup relations run before)
      (exhausted : ∀ relation ∈ relations, Exhausts cleanup relations relation run before)
      (answered : cleanup.storage.markProcessed cleanup.batch.parentTable firstId lastId
        before.state = (.ok marked, after))
      (finalized : outcome.finalized = true) (within : outcome.overLimit = false) :
      BatchEnds cleanup relations run (.ok outcome,
        ({ before with state := after } : Run σ ω).tell cleanup.observer
          (.finalized cleanup.batch.parentTable marked))

variable {cleanup : Cleanup σ ω} {relations : List Relation}

/-- What every step keeps is kept by any number of steps. -/
theorem Steps.keep {property : Run σ ω → Prop}
    (kept : ∀ run later, Step cleanup relations run later → property run → property later)
    {run later : Run σ ω} (steps : Steps cleanup relations run later) (holds : property run) :
    property later := by
  induction steps with
  | refl => exact holds
  | tail _ step ih => exact kept _ _ step ih

/-- What every pass keeps of the state is kept by any number of steps. -/
theorem Steps.keep_state {property : σ → Prop}
    (kept : ∀ relation ∈ relations, ∀ mode state, property state →
      property ((cleanup.pass relation mode).run cleanup.storage state).2)
    {run later : Run σ ω} (steps : Steps cleanup relations run later)
    (holds : property run.state) : property later.state := by
  induction steps with
  | refl => exact holds
  | tail _ step ih =>
      cases step with
      | told notice => exact ih
      | @passed relation mode _ _ declared answered =>
          have next := kept relation declared mode _ ih
          rwa [answered] at next
      | @failed relation mode _ _ declared refused =>
          have next := kept relation declared mode _ ih
          rwa [refused] at next

theorem Step.total_le {run later : Run σ ω} (step : Step cleanup relations run later) :
    run.budget.total ≤ later.budget.total := by
  cases step with
  | told notice => exact Nat.le_refl _
  | passed declared answered => simp
  | failed declared refused => exact Nat.le_refl _

/-- The total of the budget never falls. -/
theorem Steps.total_le {run later : Run σ ω} (steps : Steps cleanup relations run later) :
    run.budget.total ≤ later.budget.total :=
  steps.keep (fun _ _ step le => Nat.le_trans le step.total_le) (Nat.le_refl _)

theorem Exhausts.before {relation : Relation} {earlier run later : Run σ ω}
    (steps : Steps cleanup relations earlier run)
    (exhausts : Exhausts cleanup relations relation run later) :
    Exhausts cleanup relations relation earlier later := by
  obtain ⟨toPass, answered, nothing, rest⟩ := exhausts
  exact ⟨steps.trans toPass, answered, nothing, rest⟩

theorem Exhausts.after {relation : Relation} {run later latest : Run σ ω}
    (exhausts : Exhausts cleanup relations relation run later)
    (steps : Steps cleanup relations later latest) :
    Exhausts cleanup relations relation run latest := by
  obtain ⟨toPass, answered, nothing, rest⟩ := exhausts
  exact ⟨toPass, answered, nothing, rest.trans steps⟩

theorem PhaseEnds.before {relation : Relation} {mode : LockMode} {earlier run : Run σ ω}
    {reply : Reply (Run σ ω) (PhaseEnd × RelationSummary)}
    (steps : Steps cleanup relations earlier run)
    (ends : PhaseEnds cleanup relations relation mode run reply) :
    PhaseEnds cleanup relations relation mode earlier reply := by
  cases ends with
  | failed toPass refused => exact .failed (steps.trans toPass) refused
  | drained toPass answered nothing => exact .drained (steps.trans toPass) answered nothing
  | overLimit rest spent => exact .overLimit (steps.trans rest) spent
  | passLimit rest modified => exact .passLimit (steps.trans rest) modified

/-- One relation more in front of others that are cleaned up after it. -/
theorem RelationsEnd.cons {relation : Relation} {rest : List Relation} {run told : Run σ ω}
    {summary : RelationSummary} {reply : Reply (Run σ ω) (List RelationSummary × Bool)}
    (steps : Steps cleanup relations run told)
    (exhausted : summary.drained → Exhausts cleanup relations relation run told)
    (modified : ¬ summary.drained → 0 < told.budget.total) :
    RelationsEnd cleanup relations rest told reply →
      RelationsEnd cleanup relations (relation :: rest) run
        (match reply with
        | (.error error, after) => (.error error, after)
        | (.ok (summaries, spent), after) => (.ok (summary :: summaries, spent), after)) := by
  intro ends
  cases ends with
  | failed declared earlier refused =>
      exact .failed (List.mem_cons_of_mem relation declared) (steps.trans earlier) refused
  | overLimit later spent => exact .overLimit (steps.trans later) spent
  | finished later exhausted' modified' =>
      refine .finished (steps.trans later) ?_ ?_
      · intro drained other member
        simp only [List.all_cons, Bool.and_eq_true] at drained
        rcases List.mem_cons.mp member with rfl | ofRest
        · exact (exhausted drained.1).after later
        · exact (exhausted' drained.2 other ofRest).before steps
      · intro undrained
        by_cases here : summary.drained
        · refine modified' (fun others => undrained ?_)
          simp [here, others]
        · exact Nat.lt_of_lt_of_le (modified here) later.total_le

end Cleanup

open Cleanup

variable {cleanup : Cleanup σ ω} {relations : List Relation}

/-- A phase repeats its pass until one of the four ends. -/
theorem runPhase_ends {relation : Relation} (declared : relation ∈ relations) (mode : LockMode)
    (found : Nat) (summary : RelationSummary) (run : Run σ ω) :
    PhaseEnds cleanup relations relation mode run
      (runPhase cleanup (cleanup.pass relation mode) found summary run) := by
  -- Each round after which the phase goes on is one more step.
  have rounds := runPhase_rounds cleanup (cleanup.pass relation mode) found summary run
  generalize runPhase cleanup (cleanup.pass relation mode) found summary run = reply at rounds ⊢
  induction rounds with
  | failed refused => exact .failed (.single (.told _ _)) refused
  | overLimit answered spent =>
      exact .overLimit (.tail (.single (.told _ _)) (.passed declared answered)) spent
  | drained answered within nothing => exact .drained (.single (.told _ _)) answered nothing
  | passLimit answered within affected limit =>
      refine .passLimit (.tail (.single (.told _ _)) (.passed declared answered)) ?_
      simp only [Run.counted, Budget.total_tick, Budget.total_record]
      omega
  | again answered within affected more rest ih =>
      exact ih.before (.tail (.single (.told _ _)) (.passed declared answered))

/-- A relation ends as its waiting phase does, unless the first phase fails or uses up the
budget. -/
theorem cleanRelation_ends {relation : Relation} (declared : relation ∈ relations)
    (run : Run σ ω) :
    PhaseEnds cleanup relations relation .blocking run (cleanRelation cleanup relation run) := by
  unfold cleanRelation
  simp only
  split
  · have first : PhaseEnds cleanup relations relation .skipLocked run
        (runPhase cleanup (cleanup.pass relation .skipLocked) 0 (.ofRelation relation) run) :=
      runPhase_ends declared .skipLocked 0 (.ofRelation relation) run
    generalize runPhase cleanup (cleanup.pass relation .skipLocked) 0 (.ofRelation relation) run
      = reply at first ⊢
    cases first with
    | failed earlier refused => exact .failed earlier refused
    | drained earlier answered nothing =>
        exact (runPhase_ends declared .blocking 0 _ _).before
          (earlier.tail (.passed declared answered))
    | overLimit steps spent => exact .overLimit steps spent
    | passLimit steps modified => exact (runPhase_ends declared .blocking 0 _ _).before steps
  · exact runPhase_ends declared .blocking 0 _ run

/-- Relations are cleaned up in order; all of them are exhausted when all were drained. -/
theorem cleanRelations_end :
    ∀ {todo : List Relation}, (∀ relation ∈ todo, relation ∈ relations) → ∀ run : Run σ ω,
      RelationsEnd cleanup relations todo run (cleanRelations cleanup todo run)
  | [], _, run => .finished .refl (by simp) (by simp)
  | relation :: rest, declared, run => by
      have here := declared relation List.mem_cons_self
      have others := fun other member => declared other (List.mem_cons_of_mem relation member)
      have told : Steps cleanup relations run
          (run.tell cleanup.observer (.beforeRelation relation)) := .single (.told run _)
      have ends := (cleanRelation_ends here _).before told
      simp only [cleanRelations]
      generalize cleanRelation cleanup relation
        (run.tell cleanup.observer (.beforeRelation relation)) = reply at ends ⊢
      cases ends with
      | failed earlier refused => exact .failed List.mem_cons_self earlier refused
      | overLimit steps spent => exact .overLimit (steps.tail (.told _ _)) spent
      | drained earlier answered nothing =>
          refine RelationsEnd.cons ((earlier.tail (.passed here answered)).tail (.told _ _)) ?_ ?_
            (cleanRelations_end others _)
          · intro _
            exact ⟨earlier, answered, nothing, .single (.told _ _)⟩
          · intro undrained
            exact absurd rfl undrained
      | passLimit steps modified =>
          refine RelationsEnd.cons (steps.tail (.told _ _)) ?_ ?_ (cleanRelations_end others _)
          · intro drained
            cases drained
          · intro _
            exact modified

/-- A batch is marked only when every relation of its parent table was exhausted. -/
theorem cleanBatch_ends (registry : Registry) (run : Run σ ω) :
    BatchEnds cleanup (registry.relationsFor cleanup.batch.parentTable) run
      (cleanBatch cleanup registry run) := by
  unfold cleanBatch
  simp only
  cases range : cleanup.batch.idRange? with
  | none => exact .empty range rfl
  | some ids =>
      obtain ⟨firstId, lastId⟩ := ids
      have ends : RelationsEnd cleanup (registry.relationsFor cleanup.batch.parentTable)
          (registry.relationsFor cleanup.batch.parentTable) run
          (cleanRelations cleanup (registry.relationsFor cleanup.batch.parentTable) run) :=
        cleanRelations_end (fun _ member => member) run
      simp only
      generalize cleanRelations cleanup (registry.relationsFor cleanup.batch.parentTable) run
        = reply at ends ⊢
      cases ends with
      | failed declared earlier refused => exact .failed declared earlier refused
      | overLimit steps spent => exact .left steps rfl (Or.inl spent)
      | @finished after summaries steps exhausted modified =>
          by_cases drained : summaries.all (·.drained)
          · simp only [drained, Bool.not_true, Bool.or_self, Bool.false_eq_true, if_false]
            cases answer : cleanup.storage.markProcessed cleanup.batch.parentTable firstId lastId
                after.state with
            | mk result state =>
                cases result with
                | error error => exact .unmarked range steps (exhausted drained) answer
                | ok marked => exact .marked range steps (exhausted drained) answer rfl rfl
          · simp only [drained, Bool.not_false, Bool.or_true, if_true]
            exact .left steps rfl (Or.inr (modified drained))

/-- What every pass and every marking keeps of the state is kept by the cleanup of a batch,
however it ends. -/
theorem cleanBatch_keep_state {property : σ → Prop} (registry : Registry) {run : Run σ ω}
    (passes : ∀ relation ∈ registry.relationsFor cleanup.batch.parentTable, ∀ mode state,
      property state → property ((cleanup.pass relation mode).run cleanup.storage state).2)
    (marks : ∀ firstId lastId state, property state → property
      (cleanup.storage.markProcessed cleanup.batch.parentTable firstId lastId state).2)
    (holds : property run.state) :
    property (cleanBatch cleanup registry run).2.state := by
  have ends : BatchEnds cleanup (registry.relationsFor cleanup.batch.parentTable) run
      (cleanBatch cleanup registry run) := cleanBatch_ends registry run
  generalize cleanBatch cleanup registry run = reply at ends ⊢
  cases ends with
  | empty nothing pending => exact holds
  | @failed before relation mode error after declared earlier refused =>
      exact Steps.keep_state passes (earlier.tail (.failed declared refused)) holds
  | left steps pending cause => exact steps.keep_state passes holds
  | @unmarked before firstId lastId error after range steps exhausted refused =>
      have last := marks firstId lastId before.state (steps.keep_state passes holds)
      rwa [refused] at last
  | @marked before firstId lastId count after outcome range steps exhausted answered finalized
      within =>
      have last := marks firstId lastId before.state (steps.keep_state passes holds)
      rwa [answered] at last

end LooseKeys
