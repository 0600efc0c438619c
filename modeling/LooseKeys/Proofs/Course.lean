/-
Module: LooseKeys.Proofs.Course
Purpose: How a cleanup and an invocation come to answer or to fail, on any storage.
Main exports: Answered, Headway, Refused, Course, Course.andThen, cleanBatch_course,
  sweepTables_course, Sweep.run_course, exists_failing_table
-/
import LooseKeys.Proofs.Batch
import LooseKeys.Proofs.Observer
import LooseKeys.Proofs.Registry
import LooseKeys.Proofs.Rounds
import LooseKeys.Proofs.Sequence
import Mathlib.Logic.Relation

/-!
Nothing is tried again and nothing is made good: the first call that is refused ends the batch and
the invocation with its error.  So all calls before it were answered.  A `Course` says this of the
reply of any loop, and passes through calls in sequence: either all turns were answered, or they
were up to a last one that was not.  Such a failure belongs to one parent table, since the tables
are cleaned up one after the other.
-/

namespace LooseKeys

variable {σ ω α β : Type}

section Turns

variable (storage : Storage σ) (observer : Observer σ ω) (settings : Settings)
  (relations : List Relation)

/-- A turn that is answered: a notice other than of a pass, a look at the clock, a load, a pass of
one of the relations with its announcement, or a marking. -/
inductive Answered : Run σ ω → Run σ ω → Prop where
  | told (run : Run σ ω) (notice : Notice) (other : notice.pass? = none) :
      Answered run (run.tell observer notice)
  | ticked (run : Run σ ω) : Answered run { run with budget := run.budget.tick }
  | loaded {run : Run σ ω} {parentTable : String} {limit : Int} {records : List DeletedRecord}
      {after : σ}
      (answered : storage.loadPending parentTable limit run.state = (.ok records, after)) :
      Answered run { run with state := after }
  | passed {run : Run σ ω} {batch : Batch} {relation : Relation} {mode : LockMode}
      {result : PassResult} {after : σ} (declared : relation ∈ relations)
      (answered : (Pass.plan settings batch relation mode).run storage run.state
        = (.ok result, after)) :
      Answered run
        { run.tell observer (.passStarting (Pass.plan settings batch relation mode) run.budget)
          with state := after, budget := (run.budget.record result).tick }
  | marked {run : Run σ ω} {parentTable : String} {firstId lastId : Int} {marked : Nat} {after : σ}
      (answered : storage.markProcessed parentTable firstId lastId run.state
        = (.ok marked, after)) :
      Answered run { run with state := after }

/-- Any number of turns that are answered. -/
abbrev Headway : Run σ ω → Run σ ω → Prop :=
  Relation.ReflTransGen (Answered storage observer settings relations)

/-- A turn that is refused: a load, a batch of records that were loaded, a pass of one of the
relations with its announcement, or a marking. -/
inductive Refused : Run σ ω → CleanupError → Run σ ω → Prop where
  | load {run : Run σ ω} {parentTable : String} {limit : Int} {error : CleanupError} {after : σ}
      (refused : storage.loadPending parentTable limit run.state = (.error error, after)) :
      Refused run error { run with state := after }
  | stray {run : Run σ ω} {parentTable : String} {limit : Int} {records : List DeletedRecord}
      {error : CleanupError} {after : σ}
      (answered : storage.loadPending parentTable limit run.state = (.ok records, after))
      (refused : Batch.ofRecords parentTable records = .error error) :
      Refused run error { run with state := after }
  | pass {run : Run σ ω} {batch : Batch} {relation : Relation} {mode : LockMode}
      {error : CleanupError} {after : σ} (declared : relation ∈ relations)
      (refused : (Pass.plan settings batch relation mode).run storage run.state
        = (.error error, after)) :
      Refused run error
        { run.tell observer (.passStarting (Pass.plan settings batch relation mode) run.budget)
          with state := after }
  | mark {run : Run σ ω} {parentTable : String} {firstId lastId : Int} {error : CleanupError}
      {after : σ}
      (refused : storage.markProcessed parentTable firstId lastId run.state
        = (.error error, after)) :
      Refused run error { run with state := after }

/-- A call answers after turns that were all answered, or fails at the first one that was not. -/
inductive Course (run : Run σ ω) : Reply (Run σ ω) α → Prop where
  | answers {answer : α} {after : Run σ ω}
      (headway : Headway storage observer settings relations run after) :
      Course run (.ok answer, after)
  | fails {before after : Run σ ω} {error : CleanupError}
      (headway : Headway storage observer settings relations run before)
      (refused : Refused storage observer settings relations before error after) :
      Course run (.error error, after)

end Turns

variable {storage : Storage σ} {observer : Observer σ ω} {settings : Settings}
  {relations others : List Relation} {run first : Run σ ω}

/-- What every turn that is answered keeps is kept by any number of them. -/
theorem Headway.keep {property : Run σ ω → Prop}
    (kept : ∀ run later, Answered storage observer settings relations run later → property run →
      property later)
    {later : Run σ ω} (headway : Headway storage observer settings relations run later)
    (holds : property run) : property later := by
  induction headway with
  | refl => exact holds
  | tail _ turn ih => exact kept _ _ turn ih

namespace Course

variable {reply : Reply (Run σ ω) α}

/-- Turns that were answered before a call. -/
theorem before (headway : Headway storage observer settings relations first run)
    (course : Course storage observer settings relations run reply) :
    Course storage observer settings relations first reply := by
  cases course with
  | answers more => exact .answers (headway.trans more)
  | fails more refused => exact .fails (headway.trans more) refused

/-- What every turn keeps, answered or refused, is kept by a call. -/
theorem keep {property : Run σ ω → Prop}
    (course : Course storage observer settings relations run reply)
    (answered : ∀ run later, Answered storage observer settings relations run later →
      property run → property later)
    (refused : ∀ run error later, Refused storage observer settings relations run error later →
      property run → property later)
    (holds : property run) : property reply.2 := by
  cases course with
  | answers headway => exact headway.keep answered holds
  | fails headway last => exact refused _ _ _ last (headway.keep answered holds)

/-- One call after another. -/
theorem andThen {next : α → Run σ ω → Reply (Run σ ω) β}
    (course : Course storage observer settings relations run reply)
    (onward : ∀ answer after, Course storage observer settings relations after
      (next answer after)) :
    Course storage observer settings relations run (reply.andThen next) := by
  cases course with
  | answers headway => exact (onward _ _).before headway
  | fails headway refused => exact .fails headway refused

theorem answer {answer : α} :
    Course storage observer settings relations run (.ok answer, run) :=
  .answers .refl

/-- A marking within the run that makes it. -/
theorem onRun_mark (parentTable : String) (firstId lastId : Int) :
    Course storage observer settings relations run
      ((storage.markProcessed parentTable firstId lastId run.state).onRun run) := by
  cases answered : storage.markProcessed parentTable firstId lastId run.state with
  | mk result after =>
      cases result with
      | error error => exact .fails .refl (.mark answered)
      | ok marked => exact .answers (.single (.marked answered))

end Course

section Batches

variable (cleanup : Cleanup σ ω)

/-- A phase fails at its first pass that is refused. -/
theorem runPhase_course {relation : Relation} (declared : relation ∈ relations) (mode : LockMode)
    (found : Nat) (summary : RelationSummary) (run : Run σ ω) :
    Course cleanup.storage cleanup.observer cleanup.settings relations run
      (runPhase cleanup (Pass.plan cleanup.settings cleanup.batch relation mode) found summary
        run) := by
  have rounds := runPhase_rounds cleanup (Pass.plan cleanup.settings cleanup.batch relation mode)
    found summary run
  generalize runPhase cleanup (Pass.plan cleanup.settings cleanup.batch relation mode) found summary
    run = reply at rounds ⊢
  induction rounds with
  | failed refused => exact .fails .refl (.pass declared refused)
  | overLimit answered spent => exact .answers (.single (.passed declared answered))
  | drained answered within nothing => exact .answers (.single (.passed declared answered))
  | passLimit answered within affected limit => exact .answers (.single (.passed declared answered))
  | again answered within affected more rest ih =>
      exact ih.before (.single (.passed declared answered))

theorem cleanRelation_course {relation : Relation} (declared : relation ∈ relations)
    (run : Run σ ω) :
    Course cleanup.storage cleanup.observer cleanup.settings relations run
      (cleanRelation cleanup relation run) := by
  rw [cleanRelation_eq_andThen]
  split
  · refine (runPhase_course cleanup declared .skipLocked 0 _ run).andThen ?_
    intro ended after
    split
    · exact .answer
    · exact runPhase_course cleanup declared .blocking 0 ended.2 after
  · exact runPhase_course cleanup declared .blocking 0 _ run

theorem cleanRelations_course {todo : List Relation} (declared : todo ⊆ relations)
    (run : Run σ ω) :
    Course cleanup.storage cleanup.observer cleanup.settings relations run
      (cleanRelations cleanup todo run) := by
  induction todo generalizing run with
  | nil => exact .answer
  | cons relation rest ih =>
      obtain ⟨here, others⟩ := List.cons_subset.mp declared
      rw [cleanRelations_cons_eq_andThen]
      refine ((cleanRelation_course cleanup here _).andThen ?_).before (.single (.told run _ rfl))
      intro ended after
      simp only
      split
      · exact Course.answer.before (.single (.told after _ rfl))
      · exact ((ih others _).andThen fun _ _ => .answer).before (.single (.told after _ rfl))

/-- The cleanup of a batch fails at its first pass that is refused, or at its marking. -/
theorem cleanBatch_course (registry : Registry)
    (declared : registry.relationsFor cleanup.batch.parentTable ⊆ relations) (run : Run σ ω) :
    Course cleanup.storage cleanup.observer cleanup.settings relations run
      (cleanBatch cleanup registry run) := by
  rw [cleanBatch_eq_andThen]
  split
  · exact .answer
  · refine (cleanRelations_course cleanup declared run).andThen ?_
    intro ended after
    split
    · exact .answer
    · refine (Course.onRun_mark _ _ _).andThen ?_
      intro marked final
      exact Course.answer.before (.single (.told final _ rfl))

end Batches

section Sweeps

variable (sweep : Sweep σ ω)

/-- An invocation fails at its first turn that is refused. -/
theorem sweepTables_course {tables : List String}
    (declared : ∀ table ∈ tables, sweep.registry.relationsFor table ⊆ relations)
    (run : Run σ ω) :
    Course sweep.storage sweep.observer sweep.settings relations run
      (sweepTables sweep tables run) := by
  induction tables generalizing run with
  | nil => exact .answer
  | cons table rest ih =>
      obtain ⟨here, others⟩ := List.forall_mem_cons.mp declared
      rw [sweepTables_cons_eq_andThen]
      refine Course.before (.single (.ticked run)) ?_
      simp only
      split
      · exact .answer
      · cases answered : sweep.storage.loadPending table sweep.settings.recordsPerTable
          run.state with
        | mk result state =>
            cases result with
            | error error => exact .fails .refl (.load answered)
            | ok records =>
                simp only [Reply.onRun, Reply.andThen_ok]
                split
                · exact (ih others _).before (.single (.loaded answered))
                · cases made : Batch.ofRecords table records with
                  | error error => exact .fails .refl (.stray answered made)
                  | ok batch =>
                      refine Course.before (.single (.loaded answered)) ?_
                      rw [← Batch.parentTable_of_ofRecords made] at here
                      refine (cleanBatch_course
                        ⟨sweep.storage, sweep.observer, sweep.settings, batch⟩ sweep.registry here
                        _).andThen ?_
                      intro outcome after
                      split
                      · exact .answer
                      · exact (ih others after).andThen fun _ _ => .answer

theorem Sweep.run_course (state : σ) (notes : ω) :
    Course sweep.storage sweep.observer sweep.settings sweep.registry.relations
      ⟨state, sweep.budget, notes⟩ (sweep.run state notes) := by
  rw [Sweep.run_eq_andThen]
  exact (sweepTables_course sweep
    (fun _ _ _ => Registry.mem_relations_of_mem_relationsFor) _).andThen fun _ _ => .answer

/-- A failure belongs to one table: those before it are cleaned up without being cut short, and
from there on it fails by itself. -/
theorem exists_failing_table {tables : List String} :
    ∀ {run after : Run σ ω} {error : CleanupError},
      sweepTables sweep tables run = (.error error, after) →
        ∃ before table rest outcomes middle, tables = before ++ table :: rest ∧
          sweepTables sweep before run = (.ok (outcomes, false), middle) ∧
          sweepTables sweep [table] middle = (.error error, after) := by
  induction tables with
  | nil =>
      intro run after error failed
      cases failed
  | cons table rest ih =>
      intro run after error failed
      have first := sweepTables_append sweep [table] rest run
      rw [List.singleton_append, failed] at first
      cases here : sweepTables sweep [table] run with
      | mk result middle =>
          rw [here] at first
          cases result with
          | error error =>
              cases first
              exact ⟨[], table, rest, [], run, rfl, rfl, here⟩
          | ok earlier =>
              obtain ⟨outcomes, stopped⟩ := earlier
              cases stopped with
              | true => cases first
              | false =>
                  cases others : sweepTables sweep rest middle with
                  | mk result final =>
                      rw [Reply.andThen_ok, if_neg Bool.false_ne_true, others] at first
                      cases result with
                      | ok later => cases first
                      | error error =>
                          cases first
                          obtain ⟨before, failing, rest', more, middle', split, swept, fails⟩ :=
                            ih others
                          refine ⟨table :: before, failing, rest', outcomes ++ more, middle', ?_,
                            ?_, fails⟩
                          · rw [split, List.cons_append]
                          · rw [← List.singleton_append, sweepTables_append, here,
                              Reply.andThen_ok, if_neg Bool.false_ne_true, swept]
                            rfl

end Sweeps

end LooseKeys
