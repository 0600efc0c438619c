/-
Module: LooseKeys.Proofs.Exchange
Purpose: What an invocation charges to its budget it takes off the work that is left, however it
  ends.
Main exports: Run.Exchanges, Cleanup.Steps.exchanges, cleanBatch_exchanges, sweepTables_exchanges,
  Sweep.run_exchanges, Sweep.run_takes
-/
import LooseKeys.Proofs.Marking
import LooseKeys.Proofs.Store.Workload
import LooseKeys.Proofs.Sweep.Tables

/-!
A pass affects only rows that hold the key of a pending record, so each row that is charged to the
budget is a reference that is gone.  Failures take nothing off and charge nothing, and marking
charges nothing either, so the references that are left and the total of the budget never rise
together.  This holds on every storage that holds a store, with failures armed at any call.
-/

namespace LooseKeys

variable {τ ω : Type}

/-- From one run to a later one, the rows that were charged to the budget are gone from the
references of a registry. -/
structure Run.Exchanges (view : τ → Store) (registry : Registry) (run later : Run τ ω) : Prop where
  evolves : (view run.state).Evolves Mandate.any (view later.state)
  exchanged : (view later.state).referenceCount registry + later.budget.total
    ≤ (view run.state).referenceCount registry + run.budget.total

namespace Run.Exchanges

variable {view : τ → Store} {registry : Registry} {run middle later : Run τ ω}

theorem refl (run : Run τ ω) : run.Exchanges view registry run :=
  ⟨.refl _, Nat.le_refl _⟩

theorem trans (first : run.Exchanges view registry middle)
    (second : middle.Exchanges view registry later) : run.Exchanges view registry later :=
  ⟨first.evolves.trans second.evolves, Nat.le_trans second.exchanged first.exchanged⟩

/-- Where nothing is charged, nothing has to be taken off. -/
theorem of_evolves (evolves : (view run.state).Evolves Mandate.any (view later.state))
    (total : later.budget.total = run.budget.total) : run.Exchanges view registry later := by
  refine ⟨evolves, ?_⟩
  rw [total]
  exact Nat.add_le_add_right (evolves.referenceCount_le registry) _

end Run.Exchanges

theorem Store.evolves_disarmed (store : Store) : store.Evolves Mandate.any store.disarmed :=
  Store.evolves_of_eq rfl rfl

theorem Store.evolves_arming (store : Store) (failure : Option String) :
    store.Evolves Mandate.any (store.arming failure) := by
  cases failure with
  | none => exact .refl store
  | some reason => exact Store.evolves_of_eq rfl rfl

theorem Store.Awaits.of_log_eq {store later : Store} {parentTable : String} {key : Int}
    (awaits : store.Awaits parentTable key) (same : later.log = store.log) :
    later.Awaits parentTable key := by
  unfold Awaits
  rwa [same]

section Held

variable {storage : Storage τ} {view : τ → Store} {newly : τ → Option String}
  (holds : storage.Holds view newly) {registry : Registry}
include holds

/-- A marking takes no row, whether it answers or fails. -/
theorem Storage.Holds.mark_evolves {parentTable : String} {firstId lastId : Int} {state after : τ}
    {answer : Except CleanupError Nat}
    (answered : storage.markProcessed parentTable firstId lastId state = (answer, after)) :
    (view state).Evolves Mandate.any (view after) := by
  have seen := holds.marks parentTable firstId lastId state
  rw [answered] at seen
  have shown : view after = _ := congrArg Prod.snd seen
  rw [shown]
  exact (Store.evolves_arming _ _).trans (Store.markProcessed_evolves_any _ _ _ _)

end Held

section Batches

variable {cleanup : Cleanup τ ω} {view : τ → Store} {newly : τ → Option String}
  (holds : cleanup.storage.Holds view newly) {registry : Registry} {relations : List Relation}
  {run later : Run τ ω}
include holds

/-- The steps of a cleanup whose keys are awaited take off what they charge. -/
theorem Cleanup.Steps.exchanges (declared : ∀ relation ∈ relations, relation ∈ registry.relations)
    (awaited : ∀ relation ∈ relations, ∀ key ∈ cleanup.batch.parentIds,
      (view run.state).Awaits relation.parentTable key)
    (steps : Steps cleanup relations run later) : run.Exchanges view registry later := by
  induction steps with
  | refl => exact .refl run
  | @tail middle later earlier step ih =>
      apply ih.trans
      cases step with
      | told notice => exact .of_evolves (.refl _) rfl
      | @passed relation mode result after ofRelations answered =>
          have log := Cleanup.Steps.log_seen holds earlier
          have called := holds.pass_ok answered
          have evolves := (cleanup.pass relation mode).evolves_any (view middle.state)
          rw [called] at evolves
          refine ⟨evolves, ?_⟩
          have taken := Pass.referenceCount_run_add_le (declared relation ofRelations)
            (fun key member => (awaited relation ofRelations key member).of_log_eq log) called
          simp only [Budget.total_tick, Budget.total_record]
          omega
      | @failed relation mode error after ofRelations refused =>
          refine .of_evolves ?_ rfl
          rw [(holds.pass_error refused).1]
          exact (view middle.state).evolves_disarmed

/-- So does the cleanup of a loaded batch, however it ends. -/
theorem cleanBatch_exchanges (listed : cleanup.batch.parentTable ∈ registry.parentTables)
    (loaded : cleanup.batch.LoadedFrom (view run.state)) :
    run.Exchanges view registry (cleanBatch cleanup registry run).2 := by
  have declared : ∀ relation ∈ registry.relationsFor cleanup.batch.parentTable,
      relation ∈ registry.relations :=
    fun _ member => Registry.mem_relations_of_mem_relationsFor member
  have awaited : ∀ relation ∈ registry.relationsFor cleanup.batch.parentTable,
      ∀ key ∈ cleanup.batch.parentIds, (view run.state).Awaits relation.parentTable key := by
    intro relation member key ofBatch
    rw [Registry.parentTable_eq listed member]
    exact loaded.awaits ofBatch
  have exchanges {later : Run τ ω}
      (steps : Cleanup.Steps cleanup (registry.relationsFor cleanup.batch.parentTable) run later) :
      run.Exchanges view registry later :=
    steps.exchanges holds declared awaited
  have ends : Cleanup.BatchEnds cleanup (registry.relationsFor cleanup.batch.parentTable) run
      (cleanBatch cleanup registry run) := cleanBatch_ends registry run
  generalize cleanBatch cleanup registry run = reply at ends ⊢
  cases ends with
  | empty nothing pending => exact .refl run
  | failed ofRelations earlier refused =>
      exact exchanges (earlier.tail (.failed ofRelations refused))
  | left steps pending cause => exact exchanges steps
  | unmarked range steps exhausted refused =>
      exact (exchanges steps).trans (.of_evolves (holds.mark_evolves refused) rfl)
  | marked range steps exhausted answered finalized within =>
      exact (exchanges steps).trans (.of_evolves (holds.mark_evolves answered) rfl)

end Batches

section Sweeps

variable {sweep : Sweep τ ω} {view : τ → Store} {newly : τ → Option String}
  (holds : sweep.storage.Holds view newly)
include holds

/-- Parent tables are cleaned up one after the other, and each takes off what it charges. -/
theorem sweepTables_exchanges {tables : List String}
    (listed : ∀ table ∈ tables, table ∈ sweep.registry.parentTables) :
    ∀ run : Run τ ω, run.Exchanges view sweep.registry (sweepTables sweep tables run).2 := by
  induction tables with
  | nil => exact fun run => .refl run
  | cons table rest ih =>
      intro run
      obtain ⟨here, others⟩ := List.forall_mem_cons.mp listed
      -- A load takes nothing off, and a batch is cleaned up from the run after it.
      have toLoaded {state : τ} (shown : view state = view run.state) :
          run.Exchanges view sweep.registry { run with state, budget := run.budget.tick } := by
        refine .of_evolves ?_ rfl
        rw [shown]
        exact .refl _
      have toCleaned {state : τ} {batch : Batch}
          (loads : sweep.Loads view table run.state state batch) :
          run.Exchanges view sweep.registry
            (cleanBatch ⟨sweep.storage, sweep.observer, sweep.settings, batch⟩ sweep.registry
              { run with state, budget := run.budget.tick }).2 := by
        have loading := toLoaded loads.shown
        have listed : batch.parentTable ∈ sweep.registry.parentTables := by
          rwa [loads.parentTable]
        exact loading.trans (cleanBatch_exchanges holds listed loads.loaded)
      have ends := sweepTables_cons_ends holds table rest run
      generalize sweepTables sweep (table :: rest) run = reply at ends ⊢
      cases ends with
      | spent spent => exact .of_evolves (.refl _) rfl
      | idle within shown nothing => exact (toLoaded shown).trans (ih others _)
      | failed within loads refused =>
          have cleaning := toCleaned loads
          rwa [refused] at cleaning
      | overLimit within loads cleaned stops =>
          have cleaning := toCleaned loads
          rwa [cleaned] at cleaning
      | next within loads cleaned goes =>
          have cleaning := toCleaned loads
          rw [cleaned] at cleaning
          rw [Reply.snd_andThen_ok]
          exact cleaning.trans (ih others _)

/-- An invocation starts with nothing charged, so what is left of the references and what is
charged at its end are no more than the references at its start. -/
theorem Sweep.run_exchanges (state : τ) (notes : ω) :
    Run.Exchanges view sweep.registry ⟨state, sweep.budget, notes⟩ (sweep.run state notes).2 := by
  have swept : Run.Exchanges view sweep.registry ⟨state, sweep.budget, notes⟩
      (sweepTables sweep sweep.registry.parentTables ⟨state, sweep.budget, notes⟩).2 :=
    sweepTables_exchanges holds (fun _ member => member) _
  rw [Sweep.run_eq_andThen]
  generalize sweepTables sweep sweep.registry.parentTables _ = reply at swept ⊢
  obtain ⟨result, after⟩ := reply
  cases result with
  | error error => exact swept
  | ok ended => exact swept

/-- An invocation that stops on the budget takes off at least as many references as its budget
allows modifications, when its time does not run out. -/
theorem Sweep.run_takes (inTime : sweep.budget.InTime)
    (positive : 0 < sweep.settings.maxModifications) {state : τ} {notes : ω}
    {report : SweepReport} {after : Run τ ω}
    (answered : sweep.run state notes = (.ok report, after)) (stopped : report.overLimit) :
    (view after.state).referenceCount sweep.registry + sweep.settings.maxModifications
      ≤ (view state).referenceCount sweep.registry := by
  have exchanges : Run.Exchanges view sweep.registry ⟨state, sweep.budget, notes⟩
      (sweep.run state notes).2 := Sweep.run_exchanges holds state notes
  have exchanged := exchanges.exchanged
  rw [answered] at exchanged
  rw [Sweep.run_eq_andThen] at answered
  obtain ⟨ended, final, swept, form⟩ := Reply.exists_of_andThen_eq_ok answered
  cases form
  have within : sweep.budget.Within sweep.settings.maxModifications :=
    ⟨positive, Nat.le_refl _⟩
  have proceeds : Proceeds sweep.storage sweep.observer sweep.settings
      sweep.settings.maxModifications (·.2 = true) ⟨state, sweep.budget, notes⟩
      (sweepTables sweep sweep.registry.parentTables ⟨state, sweep.budget, notes⟩) :=
    sweepTables_proceeds sweep sweep.registry.parentTables within.ceiling (fun _ => within)
  rw [swept] at proceeds
  -- The time has not run out, so it is the ceiling that was reached.
  have reached : sweep.settings.maxModifications ≤ after.budget.total := by
    have spent := (proceeds.turns.inTime inTime).ceiling_le_total (proceeds.spent ended rfl stopped)
    rwa [proceeds.turns.ceiling_eq] at spent
  exact Nat.le_trans (Nat.add_le_add_left reached _) exchanged

end Sweeps

end LooseKeys
