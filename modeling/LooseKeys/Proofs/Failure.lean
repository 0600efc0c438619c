/-
Module: LooseKeys.Proofs.Failure
Purpose: With which errors an invocation on the store in memory fails, and what it leaves then.
Main exports: Store.afterPasses?, Run.Sofar, Headway.sofar, Sweep.BreaksOff,
  Sweep.FailsOnlyInCalls, Sweep.fails_only_in_calls
-/
import LooseKeys.Proofs.Course
import LooseKeys.Proofs.Invocation
import LooseKeys.Proofs.Marking

/-!
Two descriptions of a failed invocation are put together.  By its course every call before the one
that was refused was answered, so apart from the log the store is what the announced passes made
of it: `Run.Sofar`, which every turn that is answered keeps.  By its way through the tables the log
is what the finalized batches of the tables before made of it, since the table that failed was not
marked.  The refused call itself takes from the store only what was armed.
-/

namespace LooseKeys

namespace Store

/-- The store with another log. -/
def withLog (store : Store) (history : Log) : Store := { store with history }

/-- The store after a pass, if it is answered. -/
def afterPass? (store : Store) (pass : Pass) : Option Store :=
  match pass.run storage store with
  | (.ok _, after) => some after
  | (.error _, _) => none

/-- The store after passes in order, if all of them are answered. -/
def afterPasses? (store : Store) (passes : List Pass) : Option Store :=
  passes.foldlM afterPass? store

theorem afterPasses?_concat (store : Store) (passes : List Pass) (pass : Pass) :
    store.afterPasses? (passes ++ [pass])
      = (store.afterPasses? passes).bind (·.afterPass? pass) := by
  simp [afterPasses?, List.foldlM_append]

theorem afterPass?_of_run {store after : Store} {pass : Pass} {result : PassResult}
    (answered : pass.run storage store = (.ok result, after)) :
    store.afterPass? pass = some after := by
  simp [afterPass?, answered]

theorem run_of_afterPass? {store after : Store} {pass : Pass}
    (ended : store.afterPass? pass = some after) :
    ∃ result, pass.run storage store = (.ok result, after) := by
  unfold afterPass? at ended
  generalize pass.run storage store = reply at ended ⊢
  obtain ⟨_ | result, _⟩ := reply
  · cases ended
  · cases ended
    exact ⟨result, rfl⟩

/-- A pass does not look at the log. -/
theorem afterPass?_of_run_withLog {store after : Store} {history : Log} {pass : Pass}
    {result : PassResult}
    (answered : pass.run storage (store.withLog history) = (.ok result, after)) :
    ∃ next, store.afterPass? pass = some next ∧ after = next.withLog history := by
  rcases Pass.cases_of_run_ok answered with
    ⟨nobody, rfl, rfl⟩ | ⟨table, parents, unarmed, found, rfl, rfl⟩
  · exact ⟨store, afterPass?_of_run (Pass.run_of_parentIds_nil nobody storage store), rfl⟩
  · exact ⟨pass.leaves store table,
      afterPass?_of_run (Pass.run_of_table? parents unarmed found), rfl⟩

theorem armed_of_run {store after : Store} {pass : Pass} {result : PassResult}
    (answered : pass.run storage store = (.ok result, after)) : after.armed = store.armed := by
  rcases Pass.cases_of_run_ok answered with ⟨_, _, rfl⟩ | ⟨_, _, _, _, _, rfl⟩ <;> rfl

/-- Passes that are answered neither make nor drop tables, and leave what is armed. -/
theorem afterPasses?_keeps {passes : List Pass} :
    ∀ {store completed : Store}, store.afterPasses? passes = some completed →
      completed.armed = store.armed ∧
        ∀ name, (completed.table? name).isSome = (store.table? name).isSome := by
  induction passes with
  | nil =>
      intro store completed ended
      cases ended
      exact ⟨rfl, fun _ => rfl⟩
  | cons pass rest ih =>
      intro store completed ended
      obtain ⟨after, first, others⟩ := Option.bind_eq_some_iff.mp ended
      obtain ⟨result, answered⟩ := run_of_afterPass? first
      have evolves := pass.evolves_any store
      rw [answered] at evolves
      obtain ⟨armed, tables⟩ := ih others
      constructor
      · rw [armed, armed_of_run answered]
      · exact fun name => (tables name).trans (evolves.isSome_table? name)

/-- Marking records of other tables leaves the records of a table as they are. -/
theorem filter_logMarking_of_ne {store : Store} {records : List DeletedRecord}
    {parentTable : String} (others : ∀ record ∈ records, record.table ≠ parentTable) :
    (store.logMarking records).filter (·.table = parentTable)
      = store.log.filter (·.table = parentTable) := by
  rw [logMarking, List.filter_map]
  have same : ∀ record ∈ store.log, ((fun record : DeletedRecord => decide (record.table
      = parentTable)) ∘ fun record => if record ∈ records then record.processed else record) record
      = decide (record.table = parentTable) := by
    intro record _
    simp only [Function.comp]
    split <;> rfl
  have fixed : ∀ record ∈ store.log.filter (·.table = parentTable),
      (if record ∈ records then record.processed else record) = record := by
    intro record member
    have ofTable : record.table = parentTable := by simpa using (List.mem_filter.mp member).2
    exact if_neg fun marked => others record marked ofTable
  rw [List.filter_congr same, List.map_congr_left fixed, List.map_id']

end Store

section Sofar

variable {τ : Type} {storage : Storage τ} {view : τ → Store} {newly : τ → Option String}
  (holds : storage.Holds view newly) {settings : Settings} {relations : List Relation}
  {start : Store} {run later : Run τ (List Notice)}

/-- Apart from the log the store is what the announced passes made of it. -/
def Run.Sofar (view : τ → Store) (start : Store) (run : Run τ (List Notice)) : Prop :=
  ∃ completed, start.afterPasses? (announced run.notes) = some completed ∧
    view run.state = completed.withLog (view run.state).history

include holds

theorem Answered.sofar (turn : Answered storage .recording settings relations run later)
    (sofar : run.Sofar view start) : later.Sofar view start := by
  obtain ⟨completed, passes, shown⟩ := sofar
  cases turn with
  | told notice other =>
      refine ⟨completed, ?_, shown⟩
      rw [← passes]
      exact congrArg _ (announced_of_other run.notes other)
  | ticked => exact ⟨completed, passes, shown⟩
  | @loaded parentTable limit records after answered =>
      obtain ⟨_, load, same⟩ := holds.load_eq parentTable limit run.state
      cases answered.symm.trans load
      refine ⟨completed, passes, ?_⟩
      simp only [same]
      exact shown
  | @passed batch relation mode result after declared answered =>
      have made := holds.pass_ok answered
      rw [shown] at made
      obtain ⟨next, passed, same⟩ := Store.afterPass?_of_run_withLog made
      refine ⟨next, ?_, ?_⟩
      · change start.afterPasses? (announced (run.notes ++ [_])) = _
        rw [announced_passStarting, Store.afterPasses?_concat, passes, Option.bind_some, passed]
      · change view after = next.withLog (view after).history
        rw [same]
        rfl
  | @marked parentTable firstId lastId count after answered =>
      refine ⟨completed, passes, ?_⟩
      change view after = completed.withLog (view after).history
      rw [(holds.mark_ok answered).2, Store.afterMark, shown]
      rfl

theorem Headway.sofar (headway : Headway storage .recording settings relations run later)
    (sofar : run.Sofar view start) : later.Sofar view start :=
  headway.keep (fun _ _ turn => turn.sofar holds) sofar

end Sofar

/-- Why a call was refused after some passes: a failure was armed before a marking or before a pass
of one of the relations, or such a pass misses its table. -/
inductive RefusedCall (relations : List Relation) (store : Store) (armed : Option String)
    (made onRecord : List Pass) : CleanupError → Prop where
  | marking {reason : String} (met : armed = some reason) (announced : onRecord = made) :
      RefusedCall relations store armed made onRecord (.storage reason)
  | pass {pass : Pass} {reason : String} (declared : pass.relation ∈ relations)
      (met : armed = some reason) (announced : onRecord = made ++ [pass]) :
      RefusedCall relations store armed made onRecord (.storage reason)
  | missing {pass : Pass} (declared : pass.relation ∈ relations)
      (absent : store.table? pass.relation.childTable = none)
      (announced : onRecord = made ++ [pass]) :
      RefusedCall relations store armed made onRecord
        (.unknownTable pass.relation.childTable)

section Failing

variable {τ ω : Type} {storage : Storage τ} {view : τ → Store} {newly : τ → Option String}
  (holds : storage.Holds view newly) {settings : Settings} {relations : List Relation}
  {start : Store} {error : CleanupError}
include holds

/-- A call that is refused takes what was armed, and leaves all else as the passes before it
made it. -/
theorem Refused.leaves {failing after : Run τ (List Notice)} (sofar : failing.Sofar view start)
    (refused : Refused storage .recording settings relations failing error after) :
    ∃ completed, start.afterPasses? (announced failing.notes) = some completed ∧
      view after.state = (completed.withLog (view after.state).history).disarmed ∧
      RefusedCall relations start ((newly after.state).or start.armed)
        (announced failing.notes) (announced after.notes) error := by
  obtain ⟨completed, passes, shown⟩ := sofar
  obtain ⟨armed, tables⟩ := Store.afterPasses?_keeps passes
  have armedNow : (view failing.state).armed = start.armed := by
    rw [shown]
    exact armed
  have left : ∀ {state : τ}, view state = (view failing.state).disarmed →
      view state = (completed.withLog (view state).history).disarmed := by
    intro state same
    rw [same, shown]
    rfl
  refine ⟨completed, passes, ?_⟩
  cases refused with
  | @load parentTable limit error state refused =>
      obtain ⟨_, load, _⟩ := holds.load_eq parentTable limit failing.state
      cases refused.symm.trans load
  | @stray parentTable limit records error state answered refused =>
      obtain ⟨_, load, _⟩ := holds.load_eq parentTable limit failing.state
      cases answered.symm.trans load
      exact absurd refused (Batch.ofRecords_pendingOf_ne_error _ _ _ _)
  | @pass batch relation mode error state declared refused =>
      obtain ⟨same, met⟩ := holds.pass_error refused
      refine ⟨left same, ?_⟩
      have record : announced (failing.tell .recording
          (.passStarting (Pass.plan settings batch relation mode) failing.budget)).notes
            = announced failing.notes ++ [Pass.plan settings batch relation mode] :=
        announced_passStarting _ _ _
      rcases met with ⟨reason, rfl, met⟩ | ⟨rfl, absent⟩
      · rw [armedNow] at met
        exact .pass declared met record
      · refine .missing declared ?_ record
        have still := tables relation.childTable
        rw [shown] at absent
        change completed.table? relation.childTable = none at absent
        change start.table? relation.childTable = none
        rw [absent, Option.isSome_none] at still
        exact Option.not_isSome_iff_eq_none.mp (still ▸ Bool.false_ne_true)
  | mark refused =>
      obtain ⟨same, reason, rfl, met⟩ := holds.mark_error refused
      rw [armedNow] at met
      exact ⟨left same, .marking met rfl⟩

/-- The cleanup of a batch that fails marks nothing. -/
theorem cleanBatch_log_of_error {cleanup : Cleanup τ ω} (onStorage : cleanup.storage = storage)
    {registry : Registry} {run after : Run τ ω}
    (failed : cleanBatch cleanup registry run = (.error error, after)) :
    (view after.state).log = (view run.state).log := by
  have held : cleanup.storage.Holds view newly := onStorage ▸ holds
  have ends : Cleanup.BatchEnds cleanup (registry.relationsFor cleanup.batch.parentTable) run
      (cleanBatch cleanup registry run) := cleanBatch_ends registry run
  rw [failed] at ends
  cases ends with
  | @failed before relation mode _ state declared earlier refused =>
      rw [← earlier.log_seen held, (held.pass_error refused).1, Store.log_disarmed]
  | @unmarked before firstId lastId _ state range steps exhausted refused =>
      rw [← steps.log_seen held, (held.mark_error refused).1, Store.log_disarmed]

/-- Nor does an invocation mark anything of the table at which it fails. -/
theorem log_of_failing_table {sweep : Sweep τ ω} (onStorage : sweep.storage = storage)
    {table : String} {run after : Run τ ω}
    (failed : sweepTables sweep [table] run = (.error error, after)) :
    (view after.state).log = (view run.state).log := by
  have held : sweep.storage.Holds view newly := onStorage ▸ holds
  obtain ⟨loaded, load, shown⟩ := held.load_eq table sweep.settings.recordsPerTable run.state
  rw [sweepTables_cons_eq_andThen] at failed
  simp only [load, Reply.onRun, Reply.andThen_ok] at failed
  split at failed
  · cases failed
  · split at failed
    · cases failed
    · split at failed
      · cases failed
        exact congrArg Store.log shown
      · rename_i batch _
        rcases Reply.exists_of_andThen_eq_error failed with cleaning | ⟨outcome, middle, _, rest⟩
        · rw [cleanBatch_log_of_error holds onStorage cleaning]
          exact congrArg Store.log shown
        · split at rest
          · cases rest
          · cases rest

end Failing

/-- How an invocation broke off with an error in a state that shows a store: at a table, with the
outcomes of the tables before it, and after passes that left a store. -/
structure Sweep.BreaksOff {τ : Type} (sweep : Sweep τ (List Notice)) (view : τ → Store)
    (newly : τ → Option String) (state : τ) (error : CleanupError) (after : Run τ (List Notice))
    (before : List String) (table : String) (rest : List String) (outcomes : List BatchOutcome)
    (made : List Pass) (completed : Store) : Prop where
  tables : sweep.registry.parentTables = before ++ table :: rest
  /-- The tables before were cleaned up, and not cut short, with these outcomes. -/
  earlier : ∃ middle,
    sweepTables sweep before ⟨state, sweep.budget, []⟩ = (.ok (outcomes, false), middle)
  /-- All passes but the one that was refused were answered. -/
  passes : (view state).afterPasses? made = some completed
  /-- They made the store what it is, but for the log, in which the records of the batches that
  were finalized before are processed, and for what was armed and is no more. -/
  leaves : view after.state = (completed.withLog ((view state).history.marking (· ∈
    outcomes.flatMap (·.records sweep.settings.recordsPerTable.toNat (view state))))).disarmed
  /-- No record of the table, or of one after it, has changed its status. -/
  unmarked : ∀ other ∈ table :: rest,
    (view after.state).log.filter (·.table = other) = (view state).log.filter (·.table = other)
  refused : RefusedCall (sweep.registry.relationsFor table) (view state)
    ((newly after.state).or (view state).armed) made (announced after.notes) error

/-- An invocation fails only at a call that was refused, with a storage error or for a missing
table, and answers when nothing is armed and no table is missing. -/
structure Sweep.FailsOnlyInCalls {τ : Type} (sweep : Sweep τ (List Notice)) (view : τ → Store)
    (newly : τ → Option String) (state : τ) : Prop where
  fails : ∀ error after, sweep.run state [] = (.error error, after) →
    error.isConfig = false ∧ ∃ before table rest outcomes made completed,
      sweep.BreaksOff view newly state error after before table rest outcomes made completed
  answers : (view state).armed = none → (∀ later, newly later = none) →
    (∀ table ∈ sweep.registry.childTables, ((view state).table? table).isSome) →
      ∃ report after, sweep.run state [] = (.ok report, after)

section Invocations

variable {τ : Type} {storage : Storage τ} {view : τ → Store} {newly : τ → Option String}
  (holds : storage.Holds view newly) (registry : Registry) (settings : Settings) (state : τ)
  (delays : List Nat)
include holds

omit state in
/-- While tables are answered the store is what the passes on record made of it. -/
theorem Run.Sofar.swept {tables : List String} {run middle : Run τ (List Notice)}
    {outcomes : List BatchOutcome} {stopped : Bool} {start : Store} (sofar : run.Sofar view start)
    (answered : sweepTables ⟨storage, .recording, registry, settings, delays⟩ tables run
      = (.ok (outcomes, stopped), middle)) : middle.Sofar view start := by
  let sweep : Sweep τ (List Notice) := ⟨storage, .recording, registry, settings, delays⟩
  have course : Course storage .recording settings registry.relations run
      (sweepTables sweep tables run) :=
    sweepTables_course sweep
      (fun _ _ _ member => Registry.mem_relations_of_mem_relationsFor member) run
  rw [answered] at course
  cases course with
  | answers headway => exact headway.sofar holds sofar

omit state in
/-- When a table fails, the log is what the visits to the tables before made of it. -/
theorem log_of_tables_before (loads : 0 < settings.recordsPerTable) {before : List String}
    (distinct : before.Nodup) {table : String} {run middle after : Run τ (List Notice)}
    {outcomes : List BatchOutcome} {error : CleanupError}
    (earlier : sweepTables ⟨storage, .recording, registry, settings, delays⟩ before run
      = (.ok (outcomes, false), middle))
    (failed : sweepTables ⟨storage, .recording, registry, settings, delays⟩ [table] middle
      = (.error error, after)) :
    (∀ outcome ∈ outcomes, outcome.parentTable ∈ before) ∧
      (view after.state).log = (view run.state).logMarking (outcomes.flatMap
        (·.records settings.recordsPerTable.toNat (view run.state))) := by
  let sweep : Sweep τ (List Notice) := ⟨storage, .recording, registry, settings, delays⟩
  have held : sweep.storage.Holds view newly := holds
  have visits := Sweep.sweepTables_visits_held held loads run (fun stops => by cases stops) earlier
  exact ⟨visits.parentTable_mem,
    (log_of_failing_table holds rfl failed).trans (visits.accounts distinct).1⟩

/-- An invocation that fails broke off at one of the parent tables. -/
theorem Storage.Holds.exists_breaksOff {error : CleanupError} {after : Run τ (List Notice)}
    (failed : Sweep.run ⟨storage, .recording, registry, settings, delays⟩ state []
      = (.error error, after)) :
    ∃ before table rest outcomes made completed,
      Sweep.BreaksOff ⟨storage, .recording, registry, settings, delays⟩ view newly state error after
        before table rest outcomes made completed := by
  let sweep : Sweep τ (List Notice) := ⟨storage, .recording, registry, settings, delays⟩
  let start : Run τ (List Notice) := ⟨state, sweep.budget, []⟩
  have swept : sweepTables sweep registry.parentTables start = (.error error, after) := by
    rw [Sweep.run_eq_andThen] at failed
    rcases Reply.exists_of_andThen_eq_error failed with swept | ⟨_, _, _, rest⟩
    · exact swept
    · cases rest
  obtain ⟨before, table, rest, outcomes, middle, tables, earlier, here⟩ :=
    exists_failing_table sweep swept
  have begun : middle.Sofar view (view state) :=
    Run.Sofar.swept holds registry settings delays ⟨view state, rfl, rfl⟩ earlier
  have course : Course storage .recording settings (registry.relationsFor table) middle
      (sweepTables sweep [table] middle) :=
    sweepTables_course sweep (List.forall_mem_singleton.mpr (List.Subset.refl _)) middle
  rw [here] at course
  cases course with
  | @fails failing _ _ headway refused =>
      have sofar := headway.sofar holds begun
      obtain ⟨completed, passes, left, cause⟩ := refused.leaves holds sofar
      have ordered : (before ++ table :: rest).Nodup := by
        rw [← tables]
        exact registry.pairwise_parentTables.imp Std.ne_of_lt
      obtain ⟨distinctBefore, _, apart⟩ := List.nodup_append.mp ordered
      have loads : 0 < sweep.settings.recordsPerTable := recordsPerTable_pos_of_error holds swept
      obtain ⟨ofBefore, log⟩ :=
        log_of_tables_before holds registry settings delays loads distinctBefore earlier here
      have history : (view after.state).history = (view state).history.marking (· ∈
          outcomes.flatMap (·.records settings.recordsPerTable.toNat (view state))) :=
        Log.ext (log.trans (Store.logMarking_eq_records _ _))
      rw [history] at left
      refine ⟨before, table, rest, outcomes, announced failing.notes, completed, tables,
        ⟨middle, earlier⟩, passes, left, ?_, cause⟩
      intro other later
      rw [log]
      apply Store.filter_logMarking_of_ne
      intro record marked
      obtain ⟨outcome, answered, member⟩ := List.mem_flatMap.mp marked
      rw [(BatchOutcome.of_mem_records member).2.1]
      exact apart _ (ofBefore outcome answered) _ later

theorem Storage.Holds.failsOnlyInCalls :
    Sweep.FailsOnlyInCalls ⟨storage, .recording, registry, settings, delays⟩ view newly state := by
  constructor
  · intro error after failed
    obtain ⟨before, table, rest, outcomes, made, completed, breaksOff⟩ :=
      holds.exists_breaksOff registry settings state delays failed
    refine ⟨?_, before, table, rest, outcomes, made, completed, breaksOff⟩
    cases breaksOff.refused <;> rfl
  · intro unarmed quiet present
    cases ended : Sweep.run ⟨storage, .recording, registry, settings, delays⟩ state [] with
    | mk result after =>
        cases result with
        | ok report => exact ⟨report, after, rfl⟩
        | error error =>
            obtain ⟨_, table, _, _, _, _, breaksOff⟩ :=
              holds.exists_breaksOff registry settings state delays ended
            have nothing : (newly after.state).or (view state).armed = none := by
              rw [quiet, unarmed]
              rfl
            cases breaksOff.refused with
            | marking met _ => cases nothing.symm.trans met
            | pass _ met _ => cases nothing.symm.trans met
            | @missing pass ofTable absent _ =>
                have member := Registry.mem_relations_of_mem_relationsFor ofTable
                have there := present pass.relation.childTable
                  (Registry.mem_childTables.mpr ⟨_, member, rfl⟩)
                rw [absent] at there
                cases there

end Invocations

/-- An invocation on the store in memory fails only with what was armed, or for a child table that
is missing, and a failure leaves nothing behind but what the answered calls did: on the store
itself, and with failures armed before any of its passes and markings. -/
theorem Sweep.fails_only_in_calls (registry : Registry) (settings : Settings) (store : Store)
    (delays : List Nat) :
    Sweep.FailsOnlyInCalls ⟨Store.storage, .recording, registry, settings, delays⟩ id
        (fun _ => none) store ∧
      ∀ failures : Nat → Option String,
        Sweep.FailsOnlyInCalls
          ⟨Store.storage.journaled fun turn => Store.arming (failures turn), .recording, registry,
            settings, delays⟩
          Journaled.state (fun journal => failures journal.writes) { state := store } := by
  constructor
  · exact Store.storage_holds.failsOnlyInCalls registry settings store delays
  · intro failures
    exact (Store.journaled_holds failures).failsOnlyInCalls registry settings { state := store }
      delays

/-- A failure that is armed before the sixth pass or marking. -/
def Sample.lateFailure (turn : Nat) : Option String :=
  if turn = 6 then some "disk full" else none

/-- Settings that no check accepts: a phase without passes. -/
def Sample.passless : Settings := { maxPassesPerPhase := some 0 }

/-- The builds have lost their agent and the agent is processed; the build of the project is gone,
but the failure meets the marking of the project, which stays pending. -/
theorem Sweep.fails_only_in_calls_in_sample :
    let sweep : Sweep (Journaled Store) (List Notice) :=
      ⟨Store.storage.journaled fun turn => Store.arming (Sample.lateFailure turn), .recording,
        Sample.buildRegistry, Sample.passless, []⟩
    let reply := sweep.run { state := Sample.builds } []
    Sample.passless.validate = .error (.config .zeroPassLimit) ∧
      reply.1 = .error (.storage "disk full") ∧
      reply.2.state.state.log.map (·.status) = [.pending, .processed] ∧
      reply.2.state.state.rowCount "builds" = 2 ∧
      sweep.FailsOnlyInCalls Journaled.state (fun journal => Sample.lateFailure journal.writes)
        { state := Sample.builds } := by
  intro sweep reply
  obtain ⟨_, journaled⟩ :=
    Sweep.fails_only_in_calls Sample.buildRegistry Sample.passless Sample.builds []
  exact ⟨rfl, by decide +kernel, by decide +kernel, by decide +kernel,
    journaled Sample.lateFailure⟩

end LooseKeys
