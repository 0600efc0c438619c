/-
Module: LooseKeys.Proofs.Sequence
Purpose: A cleanup and an invocation as calls in sequence.
Main exports: Reply.andThen, Reply.onRun, cleanRelation_eq_andThen, cleanRelations_cons_eq_andThen,
  cleanBatch_eq_andThen, sweepTables_cons_eq_andThen, sweepTables_append, Sweep.run_eq_andThen
-/
import LooseKeys.Sweep

/-!
Every loop above the single phase hands the run of one call on to the next and stops at the first
error.  With that named `Reply.andThen`, a fact about the loops needs one lemma on calls in
sequence and, for each loop, what it does between the calls.
-/

namespace LooseKeys

variable {σ ω α β : Type}

/-- Goes on after a call that answers; an error ends the sequence. -/
def Reply.andThen (reply : Reply σ α) (next : α → σ → Reply σ β) : Reply σ β :=
  match reply with
  | (.error error, after) => (.error error, after)
  | (.ok answer, after) => next answer after

/-- The reply of a call on the storage, within the run that made it. -/
def Reply.onRun (reply : Reply σ α) (run : Run σ ω) : Reply (Run σ ω) α :=
  (reply.1, { run with state := reply.2 })

@[simp] theorem Reply.andThen_ok (answer : α) (after : σ) (next : α → σ → Reply σ β) :
    Reply.andThen (.ok answer, after) next = next answer after := rfl

/-- Three calls are a sequence however they are grouped. -/
theorem Reply.andThen_assoc {γ : Type} (reply : Reply σ α) (next : α → σ → Reply σ β)
    (last : β → σ → Reply σ γ) :
    (reply.andThen next).andThen last
      = reply.andThen fun answer after => (next answer after).andThen last := by
  obtain ⟨result, after⟩ := reply
  cases result <;> rfl

@[simp] theorem Reply.andThen_self (reply : Reply σ α) :
    (reply.andThen fun answer after => (.ok answer, after)) = reply := by
  obtain ⟨result, after⟩ := reply
  cases result <;> rfl

/-- Where a sequence answers, both its calls did. -/
theorem Reply.exists_of_andThen_eq_ok {reply : Reply σ α} {next : α → σ → Reply σ β} {answer : β}
    {after : σ} (answered : reply.andThen next = (.ok answer, after)) :
    ∃ first middle, reply = (.ok first, middle) ∧ next first middle = (.ok answer, after) := by
  obtain ⟨result, middle⟩ := reply
  cases result with
  | error error => cases answered
  | ok first => exact ⟨first, middle, rfl, answered⟩

/-- Where a sequence fails, the first call did, or it answered and the second one failed. -/
theorem Reply.exists_of_andThen_eq_error {reply : Reply σ α} {next : α → σ → Reply σ β}
    {error : CleanupError} {after : σ} (failed : reply.andThen next = (.error error, after)) :
    reply = (.error error, after) ∨
      ∃ first middle, reply = (.ok first, middle) ∧ next first middle = (.error error, after) := by
  obtain ⟨result, middle⟩ := reply
  cases result with
  | error error =>
      cases failed
      exact Or.inl rfl
  | ok first => exact Or.inr ⟨first, middle, rfl, failed⟩

theorem Reply.exists_of_onRun_eq {reply : Reply σ α} {run final : Run σ ω}
    {result : Except CleanupError α} (same : reply.onRun run = (result, final)) :
    ∃ state, reply = (result, state) ∧ final = { run with state } := by
  obtain ⟨_, state⟩ := reply
  cases same
  exact ⟨state, rfl, rfl⟩

/-- An answer that is only put in another form leaves the state of the call. -/
@[simp] theorem Reply.snd_andThen_ok (reply : Reply σ α) (form : α → β) :
    (reply.andThen fun answer after => (.ok (form answer), after)).2 = reply.2 := by
  obtain ⟨result, after⟩ := reply
  cases result <;> rfl

/-- A relation is the phase that skips locked rows, and the waiting phase unless the budget is
over its limit. -/
theorem cleanRelation_eq_andThen (cleanup : Cleanup σ ω) (relation : Relation) (run : Run σ ω) :
    cleanRelation cleanup relation run =
      if cleanup.settings.skipLockedPass then
        (runPhase cleanup (Pass.plan cleanup.settings cleanup.batch relation .skipLocked) 0
          (.ofRelation relation) run).andThen fun ended after =>
            if ended.1 = .overLimit then (.ok (.overLimit, ended.2), after)
            else
              runPhase cleanup (Pass.plan cleanup.settings cleanup.batch relation .blocking) 0
                ended.2 after
      else
        runPhase cleanup (Pass.plan cleanup.settings cleanup.batch relation .blocking) 0
          (.ofRelation relation) run := by
  unfold cleanRelation
  simp only
  generalize runPhase cleanup (Pass.plan cleanup.settings cleanup.batch relation .skipLocked) 0
    (.ofRelation relation) run = first
  obtain ⟨result, after⟩ := first
  cases result with
  | error error => rfl
  | ok ended =>
      obtain ⟨phaseEnd, summary⟩ := ended
      cases phaseEnd <;> rfl

/-- Relations are cleaned up one after the other until the budget is over its limit. -/
theorem cleanRelations_cons_eq_andThen (cleanup : Cleanup σ ω) (relation : Relation)
    (rest : List Relation) (run : Run σ ω) :
    cleanRelations cleanup (relation :: rest) run =
      (cleanRelation cleanup relation
        (run.tell cleanup.observer (.beforeRelation relation))).andThen fun ended after =>
          let summary := { ended.2 with drained := decide (ended.1 = .drained) }
          let told := after.tell cleanup.observer (.afterRelation relation summary)
          if ended.1 = .overLimit then (.ok ([summary], true), told)
          else
            (cleanRelations cleanup rest told).andThen fun others final =>
              (.ok (summary :: others.1, others.2), final) := by
  simp only [cleanRelations]
  generalize cleanRelation cleanup relation
    (run.tell cleanup.observer (.beforeRelation relation)) = first
  obtain ⟨result, after⟩ := first
  cases result with
  | error error => rfl
  | ok ended =>
      simp only [Reply.andThen]
      split
      · rfl
      · generalize cleanRelations cleanup rest _ = second
        obtain ⟨result, final⟩ := second
        cases result <;> rfl

/-- A batch is all relations of its parent table, and the marking when all were drained. -/
theorem cleanBatch_eq_andThen (cleanup : Cleanup σ ω) (registry : Registry) (run : Run σ ω) :
    cleanBatch cleanup registry run =
      match cleanup.batch.idRange? with
      | none => (.ok { parentTable := cleanup.batch.parentTable }, run)
      | some (firstId, lastId) =>
          (cleanRelations cleanup (registry.relationsFor cleanup.batch.parentTable) run).andThen
            fun ended after =>
              if ended.2 || !ended.1.all (·.drained) then
                (.ok { parentTable := cleanup.batch.parentTable, overLimit := ended.2,
                       relations := ended.1 }, after)
              else
                ((cleanup.storage.markProcessed cleanup.batch.parentTable firstId lastId
                  after.state).onRun after).andThen fun marked final =>
                    (.ok { parentTable := cleanup.batch.parentTable, finalized := true,
                           markedProcessed := marked, relations := ended.1 },
                      final.tell cleanup.observer
                        (.finalized cleanup.batch.parentTable marked)) := by
  unfold cleanBatch
  simp only
  cases cleanup.batch.idRange? with
  | none => rfl
  | some ids =>
      generalize cleanRelations cleanup (registry.relationsFor cleanup.batch.parentTable) run
        = first
      obtain ⟨result, after⟩ := first
      cases result with
      | error error => rfl
      | ok ended =>
          obtain ⟨summaries, overLimit⟩ := ended
          simp only [Reply.andThen]
          split
          · rfl
          · unfold Reply.onRun
            generalize cleanup.storage.markProcessed _ _ _ _ = marking
            obtain ⟨result, state⟩ := marking
            cases result <;> rfl

/-- Parent tables are loaded and cleaned up one after the other until the budget is over its
limit. -/
theorem sweepTables_cons_eq_andThen (sweep : Sweep σ ω) (parentTable : String)
    (rest : List String) (run : Run σ ω) :
    sweepTables sweep (parentTable :: rest) run =
      let ticked : Run σ ω := { run with budget := run.budget.tick }
      if ticked.budget.isOverLimit then (.ok ([], true), ticked)
      else
        ((sweep.storage.loadPending parentTable sweep.settings.recordsPerTable
          ticked.state).onRun ticked).andThen fun records loaded =>
            if records.isEmpty then sweepTables sweep rest loaded
            else
              match Batch.ofRecords parentTable records with
              | .error error => (.error error, loaded)
              | .ok batch =>
                  (cleanBatch ⟨sweep.storage, sweep.observer, sweep.settings, batch⟩
                    sweep.registry loaded).andThen fun outcome after =>
                      if outcome.overLimit then (.ok ([outcome], true), after)
                      else
                        (sweepTables sweep rest after).andThen fun others final =>
                          (.ok (outcome :: others.1, others.2), final) := by
  simp only [sweepTables]
  split
  · rfl
  · unfold Reply.onRun
    generalize sweep.storage.loadPending _ _ _ = loading
    obtain ⟨result, state⟩ := loading
    cases result with
    | error error => rfl
    | ok records =>
        simp only [Reply.andThen]
        split
        · rfl
        · cases Batch.ofRecords parentTable records with
          | error error => rfl
          | ok batch =>
              simp only
              generalize cleanBatch _ sweep.registry _ = cleaning
              obtain ⟨result, after⟩ := cleaning
              cases result with
              | error error => rfl
              | ok outcome =>
                  simp only
                  split
                  · rfl
                  · generalize sweepTables sweep rest after = others
                    obtain ⟨result, final⟩ := others
                    cases result <;> rfl

/-- An invocation goes from table to table until it is cut short. -/
theorem sweepTables_append (sweep : Sweep σ ω) (first second : List String) (run : Run σ ω) :
    sweepTables sweep (first ++ second) run =
      (sweepTables sweep first run).andThen fun earlier middle =>
        if earlier.2 then (.ok earlier, middle)
        else
          (sweepTables sweep second middle).andThen fun later final =>
            (.ok (earlier.1 ++ later.1, later.2), final) := by
  induction first generalizing run with
  | nil => simp [sweepTables]
  | cons parentTable rest ih =>
      rw [List.cons_append, sweepTables_cons_eq_andThen, sweepTables_cons_eq_andThen]
      simp only
      split
      · rfl
      · rw [Reply.andThen_assoc]
        congr 1
        funext records loaded
        split
        · exact ih loaded
        · cases Batch.ofRecords parentTable records with
          | error error => rfl
          | ok batch =>
              simp only
              rw [Reply.andThen_assoc]
              congr 1
              funext outcome after
              split
              · rfl
              · rw [ih, Reply.andThen_assoc, Reply.andThen_assoc]
                congr 1
                funext earlier middle
                simp only [Reply.andThen_ok]
                split
                · rfl
                · rw [Reply.andThen_assoc]
                  rfl

/-- The budget with which an invocation starts. -/
def Sweep.budget (sweep : Sweep σ ω) : Budget :=
  { Budget.ofSettings sweep.settings with delays := sweep.delays }

/-- An invocation is the cleanup of all parent tables, with a report on it. -/
theorem Sweep.run_eq_andThen (sweep : Sweep σ ω) (state : σ) (notes : ω) :
    sweep.run state notes =
      (sweepTables sweep sweep.registry.parentTables ⟨state, sweep.budget, notes⟩).andThen
        fun ended after =>
          (.ok { batches := ended.1, stats := after.budget.stats, overLimit := ended.2 },
            after) := by
  unfold run budget
  generalize sweepTables sweep sweep.registry.parentTables _ = reply
  obtain ⟨result, after⟩ := reply
  cases result <;> rfl

end LooseKeys
