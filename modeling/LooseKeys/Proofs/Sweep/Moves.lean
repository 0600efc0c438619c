/-
Module: LooseKeys.Proofs.Sweep.Moves
Purpose: What an invocation on the store in memory does, move by move.
Main exports: Sweep.Move, Sweep.Moves, Sweep.run_moves, Registry.mandate, Sweep.Moves.evolves
-/
import LooseKeys.Proofs.Cleanup.Effects
import LooseKeys.Proofs.Registry
import LooseKeys.Proofs.Sweep.Tables

/-!
An invocation makes four kinds of moves, however it ends: a notice, a change of the budget, a
pass, and a marking.  `Sweep.Move` gives each with all that is known when it is made: a pass
looks for keys that the log waits for, and what is marked under accepted settings has no child
row left.  What is kept by every move is kept by every invocation.
-/

namespace LooseKeys

/-- What the log of a store allows a cleanup to do under a registry: a relation may take a row
for a key that a pending record of its parent table has, and records of parent tables may be
marked. -/
def Registry.mandate (registry : Registry) (store : Store) : Mandate where
  modify kind table column key := ∃ relation ∈ registry.relations,
    relation.strategy.kind = kind ∧ relation.childTable = table ∧ relation.column = column ∧
      store.Awaits relation.parentTable key
  mark record := record.table ∈ registry.parentTables

/-- What the log allows later, it allowed before: a record that is pending was pending. -/
theorem Store.Evolves.under_earlier_mandate {registry : Registry} {mandate : Mandate}
    {start before after : Store} (earlier : start.Evolves mandate before)
    (evolves : before.Evolves (registry.mandate before) after) :
    before.Evolves (registry.mandate start) after := by
  apply evolves.mono
  · rintro kind table column key ⟨relation, ofRegistry, how, onTable, onColumn, awaits⟩
    exact ⟨relation, ofRegistry, how, onTable, onColumn, earlier.awaits_before awaits⟩
  · exact fun _ listed => listed

namespace Sweep

variable {ω : Type}

/-- The cleanup of one batch in an invocation. -/
abbrev cleanup (sweep : Sweep Store ω) (batch : Batch) : Cleanup Store ω :=
  { storage := sweep.storage, observer := sweep.observer, settings := sweep.settings, batch }

/-- What an invocation on the store can do next. -/
inductive Move (sweep : Sweep Store ω) : Run Store ω → Run Store ω → Prop where
  | told (run : Run Store ω) (notice : Notice) : Move sweep run (run.tell sweep.observer notice)
  | charged (run : Run Store ω) (budget : Budget) : Move sweep run { run with budget }
  | passed (run : Run Store ω) (pass : Pass) (parentTable : String)
      (listed : parentTable ∈ sweep.registry.parentTables)
      (declared : pass.relation ∈ sweep.registry.relationsFor parentTable)
      (awaited : ∀ key ∈ pass.parentIds, run.state.Awaits parentTable key) :
      Move sweep run { run with state := (pass.run Store.storage run.state).2 }
  | marked (run : Run Store ω) (parentTable : String) (firstId lastId : Int)
      (listed : parentTable ∈ sweep.registry.parentTables)
      (settled : sweep.settings.validate = .ok sweep.settings →
        ∀ record ∈ run.state.log, Store.isMarkable parentTable firstId lastId record →
          ∀ relation ∈ sweep.registry.relationsFor parentTable,
            run.state.IsClear relation record.primaryKey) :
      Move sweep run
        { run with state := (Store.markProcessed parentTable firstId lastId run.state).2 }

/-- Any number of moves. -/
abbrev Moves (sweep : Sweep Store ω) : Run Store ω → Run Store ω → Prop :=
  Relation.ReflTransGen (Move sweep)

variable {sweep : Sweep Store ω}

/-- A move does nothing to the store but what its log allows. -/
theorem Move.evolves {run later : Run Store ω} (move : Move sweep run later) :
    run.state.Evolves (sweep.registry.mandate run.state) later.state := by
  cases move with
  | told notice => exact .refl run.state
  | charged budget => exact .refl run.state
  | passed pass parentTable listed declared awaited =>
      apply pass.evolves
      intro key ofPass
      have parent := Registry.parentTable_eq listed declared
      refine ⟨pass.relation, Registry.mem_relations_of_mem_relationsFor declared, rfl, rfl, rfl, ?_⟩
      rw [parent]
      exact awaited key ofPass
  | marked parentTable firstId lastId listed settled =>
      apply Store.markProcessed_evolves
      intro record _ markable
      have ofTable := (Store.isMarkable_iff.mp markable).1
      change record.table ∈ sweep.registry.parentTables
      rwa [ofTable]

/-- Moves do nothing to the store but what the log allowed at the start. -/
theorem Moves.evolves {run later : Run Store ω} (moves : Moves sweep run later) :
    run.state.Evolves (sweep.registry.mandate run.state) later.state := by
  induction moves with
  | refl => exact .refl run.state
  | tail _ move ih => exact ih.trans (ih.under_earlier_mandate move.evolves)

variable (onStore : sweep.storage = Store.storage)
include onStore

/-- A pass for the keys of a loaded batch is a move, whatever it answers. -/
theorem move_of_pass {batch : Batch} (listed : batch.parentTable ∈ sweep.registry.parentTables)
    {run : Run Store ω} (loaded : batch.LoadedFrom run.state) {relation : Relation}
    {mode : LockMode} (declared : relation ∈ sweep.registry.relationsFor batch.parentTable)
    {result : Except CleanupError PassResult} {after : Store}
    (answered : ((sweep.cleanup batch).pass relation mode).run sweep.storage run.state
      = (result, after)) :
    Move sweep run { run with state := after } := by
  have moved := Move.passed run ((sweep.cleanup batch).pass relation mode) batch.parentTable
    listed declared (fun _ ofBatch => loaded.awaits ofBatch)
  rw [onStore] at answered
  rwa [answered] at moved

/-- A marking of what is settled is a move, whatever it answers. -/
theorem move_of_markProcessed {run : Run Store ω} {parentTable : String} {firstId lastId : Int}
    (listed : parentTable ∈ sweep.registry.parentTables)
    (settled : sweep.settings.validate = .ok sweep.settings →
      ∀ record ∈ run.state.log, Store.isMarkable parentTable firstId lastId record →
        ∀ relation ∈ sweep.registry.relationsFor parentTable,
          run.state.IsClear relation record.primaryKey)
    {result : Except CleanupError Nat} {after : Store}
    (answered : sweep.storage.markProcessed parentTable firstId lastId run.state
      = (result, after)) :
    Move sweep run { run with state := after } := by
  have marked := Move.marked run parentTable firstId lastId listed settled
  rw [onStore] at answered
  change Store.markProcessed _ _ _ _ = _ at answered
  rwa [answered] at marked

/-- The steps of a cleanup are moves as long as its batch is the one loaded. -/
theorem moves_of_steps {batch : Batch}
    (listed : batch.parentTable ∈ sweep.registry.parentTables) {run later : Run Store ω}
    (loaded : batch.LoadedFrom run.state)
    (steps : Cleanup.Steps (sweep.cleanup batch)
      (sweep.registry.relationsFor batch.parentTable) run later) :
    Moves sweep run later := by
  have cleaned : (sweep.cleanup batch).storage = Store.storage := onStore
  induction steps with
  | refl => exact .refl
  | @tail middle _ earlier step ih =>
      apply ih.trans
      have present := loaded.of_log_eq (Cleanup.Steps.log_eq cleaned earlier)
      cases step with
      | told notice => exact .single (.told middle notice)
      | passed declared answered =>
          have moved := move_of_pass onStore listed present declared answered
          exact (Relation.ReflTransGen.single moved).tail (.charged _ _)
      | failed declared refused =>
          exact .single (move_of_pass onStore listed present declared refused)

/-- When every relation was exhausted, what the range of the batch marks has no child row
left. -/
theorem settled_of_exhausted {batch : Batch} {run before : Run Store ω}
    (loaded : batch.LoadedFrom run.state)
    (steps : Cleanup.Steps (sweep.cleanup batch)
      (sweep.registry.relationsFor batch.parentTable) run before)
    (exhausted : ∀ relation ∈ sweep.registry.relationsFor batch.parentTable,
      Cleanup.Exhausts (sweep.cleanup batch) (sweep.registry.relationsFor batch.parentTable)
        relation run before)
    {firstId lastId : Int} (range : batch.idRange? = some (firstId, lastId))
    (accepted : sweep.settings.validate = .ok sweep.settings) :
    ∀ record ∈ before.state.log, Store.isMarkable batch.parentTable firstId lastId record →
      ∀ relation ∈ sweep.registry.relationsFor batch.parentTable,
        before.state.IsClear relation record.primaryKey := by
  have cleaned : (sweep.cleanup batch).storage = Store.storage := onStore
  intro record member markable relation declared
  rw [steps.log_eq cleaned] at member
  have ofBatch := loaded.key_of_markable range member markable
  exact (exhausted relation declared).isClear cleaned accepted _ ofBatch

/-- The cleanup of a loaded batch is a chain of moves, however it ends. -/
theorem cleanBatch_moves {batch : Batch}
    (listed : batch.parentTable ∈ sweep.registry.parentTables) {run : Run Store ω}
    (loaded : batch.LoadedFrom run.state) :
    Moves sweep run (cleanBatch (sweep.cleanup batch) sweep.registry run).2 := by
  have cleaned : (sweep.cleanup batch).storage = Store.storage := onStore
  have ends : Cleanup.BatchEnds (sweep.cleanup batch)
      (sweep.registry.relationsFor batch.parentTable) run
      (cleanBatch (sweep.cleanup batch) sweep.registry run) := cleanBatch_ends sweep.registry run
  generalize cleanBatch (sweep.cleanup batch) sweep.registry run = reply at ends ⊢
  cases ends with
  | empty nothing pending => exact .refl
  | @failed before relation mode error after declared earlier refused =>
      apply moves_of_steps onStore listed loaded
      exact earlier.tail (.failed declared refused)
  | left steps pending cause => exact moves_of_steps onStore listed loaded steps
  | @unmarked before firstId lastId error after range steps exhausted refused =>
      have settled := settled_of_exhausted onStore loaded steps exhausted range
      apply (moves_of_steps onStore listed loaded steps).tail
      exact move_of_markProcessed onStore listed settled refused
  | @marked before firstId lastId count after outcome range steps exhausted answered finalized
      within =>
      have settled := settled_of_exhausted onStore loaded steps exhausted range
      have marked := move_of_markProcessed onStore listed settled answered
      exact ((moves_of_steps onStore listed loaded steps).tail marked).tail (.told _ _)

/-- The cleanup of parent tables in order is a chain of moves, however it ends. -/
theorem sweepTables_moves {tables : List String} :
    (∀ parentTable ∈ tables, parentTable ∈ sweep.registry.parentTables) →
      ∀ run : Run Store ω, Moves sweep run (sweepTables sweep tables run).2 := by
  induction tables with
  | nil =>
      intro _ run
      exact .refl
  | cons parentTable rest ih =>
      intro listed run
      obtain ⟨here, others⟩ := List.forall_mem_cons.mp listed
      have ticked : Moves sweep run { run with budget := run.budget.tick } :=
        .single (.charged run run.budget.tick)
      have toCleaned {state : Store} {batch : Batch}
          (loads : sweep.Loads id parentTable run.state state batch) :
          Moves sweep run (cleanBatch (sweep.cleanup batch) sweep.registry
            { run with state, budget := run.budget.tick }).2 := by
        obtain ⟨rfl, rfl, _, loaded⟩ := loads
        exact ticked.trans (cleanBatch_moves onStore here loaded)
      have ends := sweepTables_cons_ends (Store.holds_of_eq onStore) parentTable rest run
      generalize sweepTables sweep (parentTable :: rest) run = reply at ends ⊢
      cases ends with
      | spent spent => exact ticked
      | idle within shown nothing =>
          cases shown
          exact ticked.trans (ih others _)
      | failed within loads refused =>
          have cleaning := toCleaned loads
          rwa [refused] at cleaning
      | overLimit within loads cleaned stops =>
          have cleaning := toCleaned loads
          rwa [cleaned] at cleaning
      | next within loads cleaned goes =>
          have cleaning := toCleaned loads
          rw [cleaned] at cleaning
          rw [Reply.snd_andThen_ok]
          exact cleaning.trans (ih others _)

/-- The run with which an invocation starts. -/
def start (sweep : Sweep Store ω) (store : Store) (notes : ω) : Run Store ω :=
  { state := store, budget := { Budget.ofSettings sweep.settings with delays := sweep.delays },
    notes }

/-- An invocation is a chain of moves, however it ends. -/
theorem run_moves (store : Store) (notes : ω) :
    Moves sweep (sweep.start store notes) (sweep.run store notes).2 := by
  have moves : Moves sweep (sweep.start store notes)
      (sweepTables sweep sweep.registry.parentTables (sweep.start store notes)).2 :=
    sweepTables_moves onStore (fun _ member => member) _
  unfold run
  unfold start at moves ⊢
  split
  · rename_i ended
    rwa [ended] at moves
  · rename_i ended
    rwa [ended] at moves

end Sweep

end LooseKeys
