/-
Module: LooseKeys.Proofs.Draining
Purpose: Invocations that nothing disturbs make progress until nothing is pending.
Main exports: Run.Ready, Run.Leads, Run.Advances, cleanBatch_advances, sweepTables_advances,
  Invocation.runAll_drains
-/
import LooseKeys.Proofs.Budget
import LooseKeys.Proofs.Finalization
import LooseKeys.Proofs.Store.Workload

/-!
The measure is the workload of the store plus the total of the budget.  A pass moves as much from
the one to the other as it affects rows, or leaves some of it out, so the measure never grows;
a marking makes it fall.  A batch that is not marked ends on a budget that has been used or on a
limit of passes, each of which found rows.  So an invocation with something pending ends with a
smaller measure or with a total above zero, and either way with less workload.
-/

namespace LooseKeys

variable {ω : Type}

/-- Nothing in the store stands in the way of a cleanup: no failure is armed, and every child
table is there. -/
structure Store.Ready (registry : Registry) (store : Store) : Prop where
  unarmed : store.armed = none
  tables : ∀ relation ∈ registry.relations, (store.table? relation.childTable).isSome

/-- A run on a store that is ready, with a budget that can only end by its ceiling. -/
structure Run.Ready (registry : Registry) (run : Run Store ω) : Prop where
  store : run.state.Ready registry
  inTime : run.budget.InTime
  ceiling : 0 < run.budget.ceiling

/-- A ready store stays ready as long as no failure is armed. -/
theorem Store.Ready.later {registry : Registry} {before after : Store}
    (ready : before.Ready registry) (evolves : before.Evolves Mandate.any after)
    (unarmed : after.armed = none) : after.Ready registry := by
  refine ⟨unarmed, ?_⟩
  intro relation declared
  rw [evolves.isSome_table?]
  exact ready.tables relation declared

/-- The workload and what the budget has been charged. -/
def Run.measure (registry : Registry) (run : Run Store ω) : Nat :=
  run.state.workload registry + run.budget.total

/-- A ready run some time later: ready still, with no more to do and no less charged. -/
structure Run.Leads (registry : Registry) (run later : Run Store ω) : Prop where
  ready : later.Ready registry
  measure : later.measure registry ≤ run.measure registry
  total : run.budget.total ≤ later.budget.total

/-- The measure has fallen, or the budget has been charged. -/
def Run.Advances (registry : Registry) (run later : Run Store ω) : Prop :=
  later.measure registry < run.measure registry ∨ 0 < later.budget.total

namespace Run.Leads

variable {registry : Registry} {first second third : Run Store ω}

theorem refl (ready : first.Ready registry) : first.Leads registry first :=
  ⟨ready, Nat.le_refl _, Nat.le_refl _⟩

/-- A notice is nothing to a ready run. -/
theorem told (ready : first.Ready registry) (observer : Observer Store ω) (notice : Notice) :
    first.Leads registry (first.tell observer notice) :=
  ⟨⟨ready.store, ready.inTime, ready.ceiling⟩, Nat.le_refl _, Nat.le_refl _⟩

/-- A look at the clock is nothing to a ready run. -/
theorem ticked (ready : first.Ready registry) :
    first.Leads registry { first with budget := first.budget.tick } :=
  ⟨⟨ready.store, ready.inTime.tick, ready.ceiling⟩, Nat.le_refl _, Nat.le_refl _⟩

theorem trans (one : first.Leads registry second) (two : second.Leads registry third) :
    first.Leads registry third :=
  ⟨two.ready, Nat.le_trans two.measure one.measure, Nat.le_trans one.total two.total⟩

theorem advances_trans (leads : first.Leads registry second)
    (advances : second.Advances registry third) : first.Advances registry third :=
  advances.imp_left (fun falls => Nat.lt_of_lt_of_le falls leads.measure)

theorem advances_of (leads : second.Leads registry third)
    (advances : first.Advances registry second) : first.Advances registry third :=
  advances.imp (fun falls => Nat.lt_of_le_of_lt leads.measure falls)
    (fun charged => Nat.lt_of_lt_of_le charged leads.total)

end Run.Leads

/-- Without an armed failure a pass over a table that is there answers. -/
theorem Pass.exists_run_ok (pass : Pass) {store : Store} (unarmed : store.armed = none)
    (present : (store.table? pass.relation.childTable).isSome) :
    ∃ result after, pass.run Store.storage store = (.ok result, after) ∧ after.armed = none := by
  by_cases nobody : pass.parentIds = []
  · exact ⟨_, store, run_of_parentIds_nil nobody Store.storage store, unarmed⟩
  · obtain ⟨table, found⟩ := Option.isSome_iff_exists.mp present
    exact ⟨_, _, run_of_table? nobody unarmed found, unarmed⟩

section Batches

variable {cleanup : Cleanup Store ω} {registry : Registry}
  (onStore : cleanup.storage = Store.storage)
  (listed : cleanup.batch.parentTable ∈ registry.parentTables)
include onStore listed

omit listed in
/-- In a ready run a pass does not fail. -/
theorem Cleanup.exists_pass_ok {run : Run Store ω} (ready : run.Ready registry)
    {relation : Relation} (mode : LockMode)
    (declared : relation ∈ registry.relationsFor cleanup.batch.parentTable) :
    ∃ result after, (cleanup.pass relation mode).run cleanup.storage run.state
      = (.ok result, after) ∧ after.armed = none := by
  rw [onStore]
  have ofRegistry := Registry.mem_relations_of_mem_relationsFor declared
  exact (cleanup.pass relation mode).exists_run_ok ready.store.unarmed
    (ready.store.tables relation ofRegistry)

/-- A pass of the cleanup of a loaded batch does not raise the measure. -/
theorem Cleanup.pass_leads {run : Run Store ω} (ready : run.Ready registry)
    (loaded : cleanup.batch.LoadedFrom run.state) {relation : Relation} {mode : LockMode}
    (declared : relation ∈ registry.relationsFor cleanup.batch.parentTable)
    {result : PassResult} {after : Store}
    (answered : (cleanup.pass relation mode).run cleanup.storage run.state
      = (.ok result, after)) :
    run.Leads registry
      { run with state := after, budget := (run.budget.record result).tick } := by
  have unarmed : after.armed = none := by
    obtain ⟨_, _, ended, unarmed⟩ := Cleanup.exists_pass_ok onStore ready mode declared
    rw [answered] at ended
    cases ended
    exact unarmed
  rw [onStore] at answered
  have ofRegistry := Registry.mem_relations_of_mem_relationsFor declared
  have evolves := (cleanup.pass relation mode).evolves_any run.state
  have sameLog := (cleanup.pass relation mode).log_run run.state
  rw [answered] at evolves sameLog
  have awaited : ∀ key ∈ (cleanup.pass relation mode).parentIds,
      run.state.Awaits relation.parentTable key := by
    intro key ofBatch
    rw [Registry.parentTable_eq listed declared]
    exact loaded.awaits ofBatch
  have references := Pass.referenceCount_run_add_le ofRegistry awaited answered
  have records : after.pendingCount registry = run.state.pendingCount registry := by
    unfold Store.pendingCount
    rw [sameLog]
  constructor
  · constructor
    · exact ready.store.later evolves unarmed
    · exact (ready.inTime.record result).tick
    · simpa using ready.ceiling
  · simp only [Run.measure, Store.workload, Budget.total_tick, Budget.total_record]
    omega
  · simp

/-- The steps of the cleanup of a loaded batch do not raise the measure. -/
theorem Cleanup.Steps.leads {run later : Run Store ω} (ready : run.Ready registry)
    (loaded : cleanup.batch.LoadedFrom run.state)
    (steps : Steps cleanup (registry.relationsFor cleanup.batch.parentTable) run later) :
    run.Leads registry later := by
  induction steps with
  | refl => exact .refl ready
  | @tail middle later earlier step ih =>
      apply ih.trans
      have present := loaded.of_log_eq (Cleanup.Steps.log_eq onStore earlier)
      cases step with
      | told notice => exact .told ih.ready cleanup.observer notice
      | passed declared answered =>
          exact pass_leads onStore listed ih.ready present declared answered
      | @failed relation mode error after declared refused =>
          obtain ⟨_, _, answered, _⟩ := exists_pass_ok onStore ih.ready mode declared
          rw [answered] at refused
          cases refused

/-- Marking the records of a loaded batch does not fail, and the measure falls. -/
theorem Cleanup.mark_advances {run : Run Store ω} (ready : run.Ready registry)
    (loaded : cleanup.batch.LoadedFrom run.state) {firstId lastId : Int}
    (range : cleanup.batch.idRange? = some (firstId, lastId)) :
    ∃ count after, cleanup.storage.markProcessed cleanup.batch.parentTable firstId lastId run.state
        = (.ok count, after) ∧
      run.Leads registry { run with state := after } ∧
      Run.measure registry { run with state := after } < run.measure registry := by
  have evolves :=
    Store.markProcessed_evolves_any cleanup.batch.parentTable firstId lastId run.state
  rcases Store.markProcessed_cases cleanup.batch.parentTable firstId lastId run.state with
    ⟨reason, armed, _⟩ | ⟨_, ended⟩
  · rw [ready.store.unarmed] at armed
    cases armed
  · rw [ended] at evolves
    have references : (run.state.afterMark cleanup.batch.parentTable firstId lastId).referenceCount
        registry ≤ run.state.referenceCount registry := evolves.referenceCount_le registry
    have records := Store.pendingCount_markProcessed_lt listed
      (loaded.exists_markable range)
    have falls : (run.state.afterMark cleanup.batch.parentTable firstId lastId).workload registry
        < run.state.workload registry := by
      unfold Store.workload
      omega
    have less := Nat.add_lt_add_right falls run.budget.total
    rw [onStore]
    refine ⟨_, _, ended, ⟨?_, Nat.le_of_lt less, Nat.le_refl _⟩, less⟩
    exact ⟨ready.store.later evolves ready.store.unarmed, ready.inTime, ready.ceiling⟩

/-- The cleanup of a loaded batch answers, and the run advances. -/
theorem cleanBatch_advances {run : Run Store ω} (ready : run.Ready registry)
    (loaded : cleanup.batch.LoadedFrom run.state) :
    ∃ outcome after, cleanBatch cleanup registry run = (.ok outcome, after) ∧
      run.Leads registry after ∧ run.Advances registry after := by
  have ends : Cleanup.BatchEnds cleanup (registry.relationsFor cleanup.batch.parentTable) run
      (cleanBatch cleanup registry run) := cleanBatch_ends registry run
  generalize cleanBatch cleanup registry run = reply at ends ⊢
  cases ends with
  | empty nothing pending =>
      obtain ⟨_, _, _, _, _, range⟩ := loaded.idRange
      rw [range] at nothing
      cases nothing
  | @failed before relation mode error after declared earlier refused =>
      have leads := Cleanup.Steps.leads onStore listed ready loaded earlier
      obtain ⟨_, _, answered, _⟩ := Cleanup.exists_pass_ok onStore leads.ready mode declared
      rw [answered] at refused
      cases refused
  | @left after outcome steps pending cause =>
      have leads := Cleanup.Steps.leads onStore listed ready loaded steps
      refine ⟨outcome, after, rfl, leads, Or.inr ?_⟩
      rcases cause with spent | charged
      · have reached := leads.ready.inTime.ceiling_le_total spent
        exact Nat.lt_of_lt_of_le leads.ready.ceiling reached
      · exact charged
  | @unmarked before firstId lastId error after range steps exhausted refused =>
      have leads := Cleanup.Steps.leads onStore listed ready loaded steps
      have present := loaded.of_log_eq (steps.log_eq onStore)
      obtain ⟨_, _, marks, _, _⟩ :=
        Cleanup.mark_advances onStore listed leads.ready present range
      rw [marks] at refused
      cases refused
  | @marked before firstId lastId count after outcome range steps exhausted answered finalized
      within =>
      have leads := Cleanup.Steps.leads onStore listed ready loaded steps
      have present := loaded.of_log_eq (steps.log_eq onStore)
      obtain ⟨_, _, marks, onward, falls⟩ :=
        Cleanup.mark_advances onStore listed leads.ready present range
      rw [marks] at answered
      cases answered
      have told := Run.Leads.told onward.ready cleanup.observer
        (.finalized cleanup.batch.parentTable count)
      refine ⟨outcome, _, rfl, (leads.trans onward).trans told, Or.inl ?_⟩
      exact Nat.lt_of_lt_of_le falls leads.measure

end Batches

section Sweeps

variable {sweep : Sweep Store ω} (onStore : sweep.storage = Store.storage)
  (accepted : sweep.settings.validate = .ok sweep.settings)
include onStore accepted

/-- The cleanup of parent tables answers, and the run advances unless none of them has a pending
record. -/
theorem sweepTables_advances {tables : List String} :
    (∀ parentTable ∈ tables, parentTable ∈ sweep.registry.parentTables) →
      ∀ {run : Run Store ω}, run.Ready sweep.registry →
        ∃ ended after, sweepTables sweep tables run = (.ok ended, after) ∧
          run.Leads sweep.registry after ∧
          (run.Advances sweep.registry after ∨
            ∀ parentTable ∈ tables, run.state.pendingOf parentTable = []) := by
  induction tables with
  | nil =>
      intro _ run ready
      exact ⟨_, run, rfl, .refl ready, Or.inr (by simp)⟩
  | cons parentTable rest ih =>
      intro listed run ready
      obtain ⟨here, others⟩ := List.forall_mem_cons.mp listed
      have ticked := Run.Leads.ticked ready
      have positive := Settings.recordsPerTable_pos accepted
      have cleans {state : Store} {batch : Batch}
          (loads : sweep.Loads id parentTable run.state state batch) :
          ∃ outcome middle, cleanBatch (sweep.cleanup batch) sweep.registry
              { run with state, budget := run.budget.tick } = (.ok outcome, middle) ∧
            run.Leads sweep.registry middle ∧ run.Advances sweep.registry middle := by
        obtain ⟨rfl, rfl, _, loaded⟩ := loads
        have cleaned : (sweep.cleanup batch).storage = Store.storage := onStore
        obtain ⟨outcome, middle, ended, leads, advances⟩ :=
          cleanBatch_advances cleaned here ticked.ready loaded
        exact ⟨outcome, middle, ended, ticked.trans leads, ticked.advances_trans advances⟩
      have ends := sweepTables_cons_ends (Store.holds_of_eq onStore) parentTable rest run
      generalize sweepTables sweep (parentTable :: rest) run = reply at ends ⊢
      cases ends with
      | spent spent =>
          have reached := ready.inTime.tick.ceiling_le_total spent
          have charged := Nat.lt_of_lt_of_le ready.ceiling reached
          exact ⟨_, _, rfl, ticked, Or.inl (Or.inr charged)⟩
      | idle within shown nothing =>
          cases shown
          have idleHere := Store.pendingOf_eq_nil_of_take positive nothing
          obtain ⟨ended, after, swept, leads, advances⟩ := ih others ticked.ready
          refine ⟨ended, after, swept, ticked.trans leads, ?_⟩
          rcases advances with advances | idle
          · exact Or.inl (ticked.advances_trans advances)
          · exact Or.inr (List.forall_mem_cons.mpr ⟨idleHere, idle⟩)
      | failed within loads refused =>
          obtain ⟨_, _, ended, _⟩ := cleans loads
          cases refused.symm.trans ended
      | overLimit within loads cleaned stops =>
          obtain ⟨_, _, ended, leads, advances⟩ := cleans loads
          cases cleaned.symm.trans ended
          exact ⟨_, _, rfl, leads, Or.inl advances⟩
      | next within loads cleaned goes =>
          obtain ⟨_, _, ended, leads, advances⟩ := cleans loads
          cases cleaned.symm.trans ended
          obtain ⟨further, after, swept, onward, _⟩ := ih others leads.ready
          rw [swept]
          exact ⟨_, after, rfl, leads.trans onward, Or.inl (onward.advances_of advances)⟩

/-- An invocation answers, and its run advances unless no parent table has a pending record. -/
theorem Sweep.run_advances {store : Store} {notes : ω}
    (ready : (sweep.start store notes).Ready sweep.registry) :
    ∃ report after, sweep.run store notes = (.ok report, after) ∧
      (sweep.start store notes).Leads sweep.registry after ∧
      ((sweep.start store notes).Advances sweep.registry after ∨
        store.pendingCount sweep.registry = 0) := by
  obtain ⟨⟨batches, overLimit⟩, after, swept, leads, advances⟩ :=
    sweepTables_advances onStore accepted (fun _ member => member) ready
  have ended : sweep.run store notes
      = (.ok { batches, stats := after.budget.stats, overLimit }, after) := by
    unfold start at swept
    rw [Sweep.run, swept]
  refine ⟨_, after, ended, leads, advances.imp_right ?_⟩
  intro idle
  rw [Store.pendingCount_eq_zero_iff]
  intro record member pending listed
  have waits : record ∈ store.pendingOf record.table :=
    Store.mem_pendingOf.mpr ⟨member, rfl, pending⟩
  have nothing : store.pendingOf record.table = [] := idle record.table listed
  rw [nothing] at waits
  cases waits

end Sweeps

namespace Invocation

variable {registry : Registry}

/-- Nothing disturbs the invocation: its settings are accepted, no failure is armed before it,
and its time does not run out. -/
structure Steady (invocation : Invocation ω) : Prop where
  accepted : invocation.settings.validate = .ok invocation.settings
  unfailing : invocation.failure = none
  inTime : ∀ limit, invocation.settings.maxRuntime? = some limit →
    invocation.delays.sum < limit

/-- A steady invocation on a ready store answers and leaves a ready store, with less to do unless
nothing was pending. -/
theorem Steady.progress {invocation : Invocation ω} (steady : invocation.Steady) {store : Store}
    (ready : store.Ready registry) :
    (∃ report, (invocation.run registry store).1 = .ok report) ∧
      (invocation.leaves registry store).Ready registry ∧
      (0 < store.pendingCount registry →
        (invocation.leaves registry store).workload registry < store.workload registry) := by
  have begins : invocation.begins store = store := by
    unfold begins
    rw [steady.unfailing]
  have start : ((invocation.sweep registry).start store invocation.notes).Ready registry := by
    refine ⟨ready, ?_, Settings.maxModifications_pos steady.accepted⟩
    intro limit limited
    have below := steady.inTime limit limited
    change 0 + invocation.delays.sum < limit
    omega
  obtain ⟨report, after, ended, leads, advances⟩ :=
    (invocation.sweep registry).run_advances rfl steady.accepted start
  unfold leaves run
  rw [begins, ended]
  refine ⟨⟨report, rfl⟩, leads.ready.store, ?_⟩
  intro pending
  change after.state.workload registry < store.workload registry
  -- At the start nothing has been charged, so the measure is the workload.
  have measure : after.measure registry ≤ store.workload registry := leads.measure
  unfold Run.measure at measure
  rcases advances with (falls | charged) | idle
  · have less : after.measure registry < store.workload registry := falls
    unfold Run.measure at less
    omega
  · omega
  · exact absurd idle (Nat.ne_of_gt pending)

/-- Steady invocations leave a ready store. -/
theorem runAll_ready {invocations : List (Invocation ω)} :
    (∀ invocation ∈ invocations, invocation.Steady) →
      ∀ {store : Store}, store.Ready registry →
        (runAll registry invocations store).Ready registry := by
  induction invocations with
  | nil =>
      intro _ store ready
      exact ready
  | cons invocation rest ih =>
      intro steady store ready
      obtain ⟨here, others⟩ := List.forall_mem_cons.mp steady
      obtain ⟨_, left, _⟩ := here.progress ready
      exact ih others left

/-- As many steady invocations as there is to do leave nothing pending. -/
theorem runAll_pendingCount {invocations : List (Invocation ω)} :
    (∀ invocation ∈ invocations, invocation.Steady) →
      ∀ {store : Store}, store.Ready registry → store.workload registry ≤ invocations.length →
        (runAll registry invocations store).pendingCount registry = 0 := by
  induction invocations with
  | nil =>
      intro _ store _ enough
      change store.workload registry ≤ 0 at enough
      change store.pendingCount registry = 0
      unfold Store.workload at enough
      omega
  | cons invocation rest ih =>
      intro steady store ready enough
      obtain ⟨here, others⟩ := List.forall_mem_cons.mp steady
      by_cases idle : store.pendingCount registry = 0
      · have accepted := fun other member => (steady other member).accepted
        have settles := runAll_settles registry accepted store
        exact settles.evolves.pendingCount_eq_zero idle
      · obtain ⟨_, left, less⟩ := here.progress ready
        have falls := less (Nat.pos_of_ne_zero idle)
        apply ih others left
        rw [List.length_cons] at enough
        omega

/-- Steady invocations drain the log of a store that has all child tables.  As long as a parent
table has a pending record each of them answers and leaves less to do, so as many as there was to do
leave no such record, and no child row of a record that was pending. -/
theorem runAll_drains {store : Store} (unarmed : store.armed = none)
    (tables : ∀ relation ∈ registry.relations, (store.table? relation.childTable).isSome) :
    (∀ (earlier : List (Invocation ω)) (invocation : Invocation ω),
      (∀ other ∈ earlier, other.Steady) → invocation.Steady →
        0 < (runAll registry earlier store).pendingCount registry →
          (∃ report, (invocation.run registry (runAll registry earlier store)).1 = .ok report) ∧
            (runAll registry (earlier ++ [invocation]) store).workload registry
              < (runAll registry earlier store).workload registry) ∧
    ∀ invocations : List (Invocation ω), (∀ invocation ∈ invocations, invocation.Steady) →
      store.workload registry ≤ invocations.length →
        (∀ record ∈ (runAll registry invocations store).log, record.isPending →
          record.table ∉ registry.parentTables) ∧
        ∀ record ∈ store.log, record.isPending →
          ∀ relation ∈ registry.relationsFor record.table,
            (runAll registry invocations store).IsClear relation record.primaryKey := by
  have ready : store.Ready registry := ⟨unarmed, tables⟩
  constructor
  · intro earlier invocation steady last pending
    obtain ⟨answers, _, less⟩ := last.progress (runAll_ready steady ready)
    constructor
    · exact answers
    · rw [runAll_concat]
      exact less pending
  · intro invocations steady enough
    have idle := runAll_pendingCount steady ready enough
    rw [Store.pendingCount_eq_zero_iff] at idle
    constructor
    · exact idle
    · intro record member pending relation ofParent
      have accepted := fun other ofList => (steady other ofList).accepted
      have settles := runAll_settles registry accepted store
      -- The record is not pending any more, so it was marked on the way.
      rcases settles.evolves.mem_log_after member with unmarked | ⟨_, marked⟩
      · have listed := Registry.mem_parentTables_of_mem_relationsFor ofParent
        rw [store.history.qualified record member] at listed
        exact absurd listed (idle record unmarked pending)
      · exact settles.clear record member pending marked relation ofParent

/-- Two references and one record make three; each of three invocations with a budget of one row
takes one off. -/
theorem runAll_drains_in_sample :
    (runAll Sample.registry [Sample.invocation 1] Sample.store).workload Sample.registry
        < Sample.store.workload Sample.registry ∧
      ∀ relation ∈ Sample.registry.relationsFor "public.users",
        (runAll Sample.registry (List.replicate 3 (Sample.invocation 1)) Sample.store).IsClear
          relation 7 := by
  have steady : (Sample.invocation 1).Steady := by
    refine ⟨rfl, rfl, ?_⟩
    intro limit limited
    cases limited
    decide
  have ofOnes : ∀ invocation ∈ List.replicate 3 (Sample.invocation 1), invocation.Steady := by
    intro invocation member
    rw [List.eq_of_mem_replicate member]
    exact steady
  have tables : ∀ relation ∈ Sample.registry.relations,
      (Sample.store.table? relation.childTable).isSome := by decide +kernel
  have pending : 0 < Sample.store.pendingCount Sample.registry := by decide +kernel
  have enough : Sample.store.workload Sample.registry ≤ 3 := by decide +kernel
  have member : Sample.record ∈ Sample.store.log := by decide +kernel
  obtain ⟨each, whole⟩ := runAll_drains rfl tables
  obtain ⟨_, less⟩ := each [] (Sample.invocation 1) (by simp) steady pending
  obtain ⟨_, clear⟩ := whole (List.replicate 3 (Sample.invocation 1)) ofOnes enough
  exact ⟨less, clear Sample.record member rfl⟩

end Invocation

end LooseKeys
