/-
Module: LooseKeys.Proofs.Record
Purpose: The passes on record are the passes that were made.
Main exports: Journaled.asked, Pass.asks?, Run.OnRecord, cleanBatch_onRecord, Sweep.run_onRecord
-/
import LooseKeys.Proofs.Course
import LooseKeys.Storage.Journal

/-!
An observer takes down the pass that is about to start, and a storage with a journal the calls that
reach it.  The two agree at the end of every turn: each pass for at least one parent is one call on
its child table, and there are no others.  So what is counted on the record is counted on the
storage, whatever it answers and whoever else writes to it.
-/

namespace LooseKeys

variable {σ : Type}

/-- What a call on a child table asked for, whatever the answer was. -/
def StoreCall.asked? : StoreCall → Option StoreCall
  | .children kind childTable column parentIds mode limit _ =>
      some (.children kind childTable column parentIds mode limit none)
  | _ => none

/-- The calls on child tables in a journal. -/
def Journaled.asked (journal : Journaled σ) : List StoreCall :=
  journal.calls.filterMap StoreCall.asked?

/-- What a pass asks of its child table, unless it is for no parent. -/
def Pass.asks? (pass : Pass) : Option StoreCall :=
  if pass.parentIds.isEmpty then none
  else
    some (.children pass.relation.strategy.kind pass.relation.childTable pass.relation.column
      pass.parentIds pass.lockMode pass.limit none)

/-- The calls on child tables are those of the passes on record. -/
def Run.OnRecord (run : Run (Journaled σ) (List Notice)) : Prop :=
  run.state.asked = (announced run.notes).filterMap Pass.asks?

section Calls

variable (storage : Storage σ) (interfere : Nat → σ → σ) (journal : Journaled σ)

theorem Pass.asked_call (pass : Pass) :
    (pass.call (storage.journaled interfere) journal).2.asked
      = journal.asked ++ [.children pass.relation.strategy.kind pass.relation.childTable
          pass.relation.column pass.parentIds pass.lockMode pass.limit none] := by
  unfold Pass.call
  cases pass.relation.strategy with
  | asyncDelete => exact List.filterMap_append
  | asyncNullify => exact List.filterMap_append

/-- A pass makes the one call that it asks for. -/
theorem Pass.asked_run (pass : Pass) :
    (pass.run (storage.journaled interfere) journal).2.asked
      = journal.asked ++ pass.asks?.toList := by
  have called := pass.asked_call storage interfere journal
  unfold Pass.run Pass.asks?
  split
  · simp
  · generalize pass.call (storage.journaled interfere) journal = reply at called ⊢
    obtain ⟨result, after⟩ := reply
    cases result with
    | error error => exact called
    | ok affected => exact called

theorem Journaled.asked_mark (parentTable : String) (firstId lastId : Int) :
    ((storage.journaled interfere).markProcessed parentTable firstId lastId journal).2.asked
      = journal.asked :=
  List.filterMap_append.trans (List.append_nil _)

theorem Journaled.asked_load (parentTable : String) (limit : Int) :
    ((storage.journaled interfere).loadPending parentTable limit journal).2.asked
      = journal.asked :=
  List.filterMap_append.trans (List.append_nil _)

end Calls

section Turns

variable {storage : Storage σ} {interfere : Nat → σ → σ} {settings : Settings}
  {relations : List Relation} {run later : Run (Journaled σ) (List Notice)}

/-- A pass is announced and made, whether it answers or not. -/
theorem Run.OnRecord.pass (onRecord : run.OnRecord) {pass : Pass} {after : Journaled σ}
    {result : Except CleanupError PassResult} (budget : Budget)
    (made : pass.run (storage.journaled interfere) run.state = (result, after)) :
    Run.OnRecord
      { run.tell .recording (.passStarting pass run.budget) with state := after, budget } := by
  have asked := pass.asked_run storage interfere run.state
  rw [made, onRecord] at asked
  have record : announced (run.tell .recording (.passStarting pass run.budget)).notes
      = announced run.notes ++ [pass] := announced_passStarting _ _ _
  refine asked.trans ?_
  rw [record, List.filterMap_append]
  cases asks : pass.asks? <;> simp [asks]

theorem Answered.onRecord
    (turn : Answered (storage.journaled interfere) .recording settings relations run later)
    (onRecord : run.OnRecord) : later.OnRecord := by
  cases turn with
  | told notice other =>
      exact onRecord.trans (congrArg _ (announced_of_other run.notes other).symm)
  | ticked => exact onRecord
  | @loaded parentTable limit records after answered =>
      have asked := Journaled.asked_load storage interfere run.state parentTable limit
      rw [answered] at asked
      exact asked.trans onRecord
  | passed declared answered => exact onRecord.pass _ answered
  | @marked parentTable firstId lastId count after answered =>
      have asked := Journaled.asked_mark storage interfere run.state parentTable firstId lastId
      rw [answered] at asked
      exact asked.trans onRecord

theorem Refused.onRecord {error : CleanupError}
    (turn : Refused (storage.journaled interfere) .recording settings relations run error later)
    (onRecord : run.OnRecord) : later.OnRecord := by
  cases turn with
  | @load parentTable limit error after refused =>
      have asked := Journaled.asked_load storage interfere run.state parentTable limit
      rw [refused] at asked
      exact asked.trans onRecord
  | @stray parentTable limit records error after answered refused =>
      have asked := Journaled.asked_load storage interfere run.state parentTable limit
      rw [answered] at asked
      exact asked.trans onRecord
  | pass declared refused => exact onRecord.pass _ refused
  | @mark parentTable firstId lastId error after refused =>
      have asked := Journaled.asked_mark storage interfere run.state parentTable firstId lastId
      rw [refused] at asked
      exact asked.trans onRecord

theorem Course.onRecord {α : Type} {reply : Reply (Run (Journaled σ) (List Notice)) α}
    (course : Course (storage.journaled interfere) .recording settings relations run reply)
    (onRecord : run.OnRecord) : reply.2.OnRecord :=
  course.keep (fun _ _ turn => turn.onRecord) (fun _ _ _ turn => turn.onRecord) onRecord

end Turns

variable (storage : Storage σ) (interfere : Nat → σ → σ) (settings : Settings)
  (registry : Registry)

/-- From an empty journal on, the cleanup of a batch makes the passes that are on record. -/
theorem cleanBatch_onRecord (batch : Batch) (state : σ) (budget : Budget) :
    (cleanBatch ⟨storage.journaled interfere, .recording, settings, batch⟩ registry
      ⟨{ state }, budget, []⟩).2.OnRecord := by
  have course := cleanBatch_course ⟨storage.journaled interfere, .recording, settings, batch⟩
    registry (List.Subset.refl _) ⟨{ state }, budget, []⟩
  exact course.onRecord rfl

/-- So does an invocation. -/
theorem Sweep.run_onRecord (delays : List Nat) (state : σ) :
    (Sweep.run ⟨storage.journaled interfere, .recording, registry, settings, delays⟩
      { state } []).2.OnRecord := by
  let sweep : Sweep (Journaled σ) (List Notice) :=
    ⟨storage.journaled interfere, .recording, registry, settings, delays⟩
  exact (sweep.run_course { state } []).onRecord rfl

end LooseKeys
