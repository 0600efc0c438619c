/-
Module: LooseKeys.Proofs.Marking
Purpose: Which records the outcome of a batch accounts for, and which tables an invocation visits.
Main exports: BatchOutcome.records, Store.logMarking, Sweep.Visit, Sweep.Visits,
  Sweep.sweepTables_visits_held, Sweep.sweepTables_visits, Sweep.Visits.accounts
-/
import LooseKeys.Proofs.Batch
import LooseKeys.Proofs.Spans
import LooseKeys.Proofs.Store.Held
import LooseKeys.Proofs.Sweep.Moves
import LooseKeys.Proofs.Turns

/-!
An outcome that says finalized stands for the records that were loaded with its batch, and any
other outcome for none.  A visit to a parent table marks those and no others, and counts them.
Since no parent table is visited twice, each visit finds the records of its table as they were at
the start, so the outcomes together can be read against the first log.
-/

namespace LooseKeys

/-- The log with some records marked. -/
def Store.logMarking (store : Store) (records : List DeletedRecord) : List DeletedRecord :=
  store.log.map (fun record => if record ∈ records then record.processed else record)

/-- Those of some tables that have pending records. -/
def Store.pendingTables (store : Store) (tables : List String) : List String :=
  tables.filter (fun table => !(store.pendingOf table).isEmpty)

/-- The records for which an outcome accounts: the first pending ones of its table when it was
finalized, and else none. -/
def BatchOutcome.records (outcome : BatchOutcome) (limit : Nat) (store : Store) :
    List DeletedRecord :=
  if outcome.finalized then (store.pendingOf outcome.parentTable).take limit else []

/-- Where the log is the same, the same tables have pending records. -/
theorem Store.pendingTables_of_log_eq {store later : Store} (same : later.log = store.log)
    (tables : List String) : later.pendingTables tables = store.pendingTables tables := by
  unfold pendingTables
  simp only [pendingOf_of_log_eq same]

/-- An outcome accounts for pending records of its table. -/
theorem BatchOutcome.of_mem_records {outcome : BatchOutcome} {limit : Nat} {store : Store}
    {record : DeletedRecord} (member : record ∈ outcome.records limit store) :
    record ∈ store.log ∧ record.table = outcome.parentTable ∧ record.isPending := by
  unfold records at member
  split at member
  · exact Store.mem_pendingOf.mp (List.mem_of_mem_take member)
  · cases member

theorem BatchOutcome.records_congr {outcome : BatchOutcome} {store later : Store}
    (same : later.pendingOf outcome.parentTable = store.pendingOf outcome.parentTable)
    (limit : Nat) : outcome.records limit later = outcome.records limit store := by
  rw [records, same, records]

section Answers

variable {σ ω : Type}

/-- What it means that the cleanup of a batch answers. -/
inductive Cleanup.Answers (cleanup : Cleanup σ ω) (relations : List Relation) (run : Run σ ω) :
    BatchOutcome → Run σ ω → Prop where
  | left {after : Run σ ω} {overLimit : Bool} {summaries : List RelationSummary}
      (steps : Steps cleanup relations run after) :
      Answers cleanup relations run
        { parentTable := cleanup.batch.parentTable, overLimit, relations := summaries } after
  | marked {before : Run σ ω} {firstId lastId : Int} {count : Nat} {state : σ}
      {summaries : List RelationSummary}
      (range : cleanup.batch.idRange? = some (firstId, lastId))
      (steps : Steps cleanup relations run before)
      (answered : cleanup.storage.markProcessed cleanup.batch.parentTable firstId lastId
        before.state = (.ok count, state)) :
      Answers cleanup relations run
        { parentTable := cleanup.batch.parentTable, finalized := true, markedProcessed := count,
          relations := summaries }
        (({ before with state } : Run σ ω).tell cleanup.observer
          (.finalized cleanup.batch.parentTable count))

theorem cleanBatch_answers {cleanup : Cleanup σ ω} {registry : Registry} {run after : Run σ ω}
    {outcome : BatchOutcome} (answered : cleanBatch cleanup registry run = (.ok outcome, after)) :
    cleanup.Answers (registry.relationsFor cleanup.batch.parentTable) run outcome after := by
  cases range : cleanup.batch.idRange? with
  | none =>
      rw [cleanBatch_eq_andThen, range] at answered
      cases answered
      exact .left .refl
  | some ids =>
      cases cleanBatch_spanned range answered with
      | left spanned cause => exact .left (spanned.steps (fun _ member => member)).1
      | marked range spanned drained marks =>
          exact .marked range (spanned.steps (fun _ member => member)).1 marks

end Answers

/-- The log that a storage shows stays as it is until the marking. -/
theorem Cleanup.Steps.log_seen {τ ω : Type} {cleanup : Cleanup τ ω} {view : τ → Store}
    {newly : τ → Option String} (holds : cleanup.storage.Holds view newly)
    {relations : List Relation} {run later : Run τ ω} (steps : Steps cleanup relations run later) :
    (view later.state).log = (view run.state).log := by
  have kept : ∀ relation ∈ relations, ∀ mode state, (view state).log = (view run.state).log →
      (view ((cleanup.pass relation mode).run cleanup.storage state).2).log
        = (view run.state).log := by
    intro relation _ mode state same
    rw [holds.log_pass]
    exact same
  exact steps.keep_state kept rfl

namespace Store

/-- It is the log that the history has when the records are marked in it. -/
theorem logMarking_eq_records (store : Store) (records : List DeletedRecord) :
    store.logMarking records = (store.history.marking (· ∈ records)).records := by
  simp only [logMarking, Log.marking, DeletedRecord.processed, decide_eq_true_eq]

@[simp] theorem logMarking_nil (store : Store) : store.logMarking [] = store.log := by
  simp [logMarking]

/-- Marking the range of a batch marks its records. -/
theorem log_afterMark {store : Store} {batch : Batch} (loaded : batch.LoadedFrom store)
    {firstId lastId : Int} (range : batch.idRange? = some (firstId, lastId)) :
    (store.afterMark batch.parentTable firstId lastId).log = store.logMarking batch.records := by
  apply List.map_congr_left
  intro record member
  have same : isMarkable batch.parentTable firstId lastId record ↔ record ∈ batch.records := by
    rw [← loaded.filter_markable range, List.mem_filter]
    exact (and_iff_right member).symm
  simp only [same]
  rfl

/-- As many records are pending no more as the marking finds. -/
theorem countP_isPending_afterMark (store : Store) (parentTable : String) (firstId lastId : Int) :
    store.log.countP (·.isPending)
      = (store.afterMark parentTable firstId lastId).log.countP (·.isPending)
        + (store.log.filter (isMarkable parentTable firstId lastId)).length := by
  rw [log_afterMark_eq_map, List.countP_map, ← List.countP_eq_length_filter]
  induction store.log with
  | nil => rfl
  | cons record rest ih =>
      simp only [List.countP_cons, Function.comp]
      by_cases markable : isMarkable parentTable firstId lastId record
      · have pending : record.isPending = true := (isMarkable_iff.mp markable).2.1
        have done : ({ record with status := .processed } : DeletedRecord).isPending = false := rfl
        simp only [markable, pending, done, Bool.false_eq_true, if_true, if_false]
        omega
      · simp only [markable, Bool.false_eq_true, if_false]
        omega

/-- Of two markings one after the other, the second of records that are pending in the log as it
was at first, the records may be put together. -/
theorem logMarking_logMarking {store middle : Store} {first second : List DeletedRecord}
    (log : middle.log = store.logMarking first)
    (pending : ∀ record ∈ second, record.isPending) :
    middle.logMarking second = store.logMarking (first ++ second) := by
  unfold logMarking at log ⊢
  rw [log, List.map_map]
  apply List.map_congr_left
  intro record _
  simp only [Function.comp, List.mem_append]
  by_cases early : record ∈ first
  · have marked : record.processed ∉ second := by
      intro member
      cases pending _ member
    simp only [early, marked, true_or, if_true, if_false]
  · simp only [early, false_or, if_false]

/-- Marking records of one table leaves the pending records of the others. -/
theorem pendingOf_of_logMarking {store after : Store} {records : List DeletedRecord}
    (log : after.log = store.logMarking records) {parentTable : String}
    (others : ∀ record ∈ records, record.table ≠ parentTable) :
    after.pendingOf parentTable = store.pendingOf parentTable := by
  have fixed : ∀ record ∈ store.pendingOf parentTable,
      (if record ∈ records then record.processed else record) = record := by
    intro record member
    apply if_neg
    exact fun marked => others record marked (mem_pendingOf.mp member).2.1
  have pending : ∀ record ∈ store.log,
      ((fun record : DeletedRecord => record.table = parentTable && record.isPending)
        (if record ∈ records then record.processed else record))
      = (record.table = parentTable && record.isPending) := by
    intro record _
    split
    · rename_i marked
      simp [others record marked, DeletedRecord.processed]
    · rfl
  calc after.pendingOf parentTable
      = (store.logMarking records).filter
          (fun record => record.table = parentTable && record.isPending) := by rw [pendingOf, log]
    _ = (store.pendingOf parentTable).map
          (fun record => if record ∈ records then record.processed else record) := by
        rw [logMarking, List.filter_map, pendingOf]
        exact congrArg _ (List.filter_congr pending)
    _ = store.pendingOf parentTable := by
        rw [List.map_congr_left fixed, List.map_id']

end Store

namespace Sweep

/-- The cleanup of the pending records of a table: the outcome accounts for the records that were
marked, and the table had some to begin with. -/
structure Visit (limit : Nat) (table : String) (store : Store) (outcome : BatchOutcome)
    (after : Store) : Prop where
  pending : store.pendingOf table ≠ []
  parentTable : outcome.parentTable = table
  log : after.log = store.logMarking (outcome.records limit store)
  marked : outcome.markedProcessed = (outcome.records limit store).length
  falls : store.log.countP (·.isPending)
    = after.log.countP (·.isPending) + outcome.markedProcessed

/-- The way of an invocation through tables: those with nothing pending are passed over, and a
visit that ends on the budget is the last. -/
inductive Visits (limit : Nat) :
    List String → Store → List BatchOutcome → Bool → Store → Prop where
  | done (store : Store) : Visits limit [] store [] false store
  | idle {table : String} {rest : List String} {store after : Store}
      {outcomes : List BatchOutcome} {stopped : Bool} (nothing : store.pendingOf table = [])
      (onward : Visits limit rest store outcomes stopped after) :
      Visits limit (table :: rest) store outcomes stopped after
  | stopped {table : String} {rest : List String} {store after : Store} {outcome : BatchOutcome}
      (visit : Visit limit table store outcome after) (overLimit : outcome.overLimit = true) :
      Visits limit (table :: rest) store [outcome] true after
  | next {table : String} {rest : List String} {store middle after : Store}
      {outcome : BatchOutcome} {outcomes : List BatchOutcome} {stopped : Bool}
      (visit : Visit limit table store outcome middle) (within : outcome.overLimit = false)
      (onward : Visits limit rest middle outcomes stopped after) :
      Visits limit (table :: rest) store (outcome :: outcomes) stopped after

/-- The pending records of other tables stay as they are. -/
theorem Visit.pendingOf_of_ne {limit : Nat} {table : String} {store after : Store}
    {outcome : BatchOutcome} (visit : Visit limit table store outcome after) {other : String}
    (ne : other ≠ table) : after.pendingOf other = store.pendingOf other := by
  apply Store.pendingOf_of_logMarking visit.log
  intro record member
  rw [(BatchOutcome.of_mem_records member).2.1, visit.parentTable]
  exact ne.symm

section Walk

variable {τ ω : Type} {sweep : Sweep τ ω} {view : τ → Store} {newly : τ → Option String}
  (holds : sweep.storage.Holds view newly)
include holds

/-- The cleanup of a batch that holds the first pending records of its table is a visit. -/
theorem cleanBatch_visit {batch : Batch} {run after : Run τ ω} {outcome : BatchOutcome}
    {limit : Nat} (loaded : batch.LoadedFrom (view run.state))
    (records : batch.records = ((view run.state).pendingOf batch.parentTable).take limit)
    (answered : cleanBatch ⟨sweep.storage, sweep.observer, sweep.settings, batch⟩ sweep.registry
      run = (.ok outcome, after)) :
    Visit limit batch.parentTable (view run.state) outcome (view after.state) := by
  have pending : (view run.state).pendingOf batch.parentTable ≠ [] := by
    intro nothing
    apply loaded.nonempty
    rw [records, nothing, List.take_nil]
  cases cleanBatch_answers answered with
  | left steps =>
      have log := steps.log_seen holds
      refine ⟨pending, rfl, ?_, rfl, ?_⟩
      · exact log.trans (view run.state).logMarking_nil.symm
      · rw [log]
        rfl
  | @marked before firstId lastId count state summaries range steps marking =>
      have log := steps.log_seen holds
      have present := loaded.of_log_eq log
      obtain ⟨rfl, shown⟩ := holds.mark_ok marking
      have outcomeRecords : BatchOutcome.records
          { parentTable := batch.parentTable, finalized := true,
            markedProcessed := ((view before.state).log.filter
              (Store.isMarkable batch.parentTable firstId lastId)).length,
            relations := summaries } limit (view run.state) = batch.records := records.symm
      have fallen := (view before.state).countP_isPending_afterMark batch.parentTable firstId
        lastId
      change Visit limit batch.parentTable (view run.state) _ (view state)
      rw [shown]
      refine ⟨pending, rfl, ?_, ?_, ?_⟩
      · rw [outcomeRecords]
        exact (Store.log_afterMark present range).trans
          (by simp only [Store.logMarking, log])
      · rw [outcomeRecords]
        exact congrArg List.length (present.filter_markable range)
      · rw [← log]
        exact fallen

/-- An invocation that answers visits tables one after the other, if it was not cut short or its
budget is unspent at first and its time does not run out. -/
theorem sweepTables_visits_held (loads : 0 < sweep.settings.recordsPerTable)
    {tables : List String} :
    ∀ (run : Run τ ω) {after : Run τ ω} {outcomes : List BatchOutcome} {stopped : Bool},
      (stopped = true → run.budget.InTime ∧ run.budget.Within run.budget.ceiling) →
      sweepTables sweep tables run = (.ok (outcomes, stopped), after) →
        Visits sweep.settings.recordsPerTable.toNat tables (view run.state) outcomes stopped
          (view after.state) := by
  induction tables with
  | nil =>
      intro run after outcomes stopped _ answered
      cases answered
      exact .done _
  | cons table rest ih =>
      intro run after outcomes stopped timely answered
      have visits {state : τ} {batch : Batch} {outcome : BatchOutcome} {middle : Run τ ω}
          (loads : sweep.Loads view table run.state state batch)
          (cleaned : cleanBatch ⟨sweep.storage, sweep.observer, sweep.settings, batch⟩
            sweep.registry { run with state, budget := run.budget.tick } = (.ok outcome, middle)) :
          Visit sweep.settings.recordsPerTable.toNat table (view state) outcome
            (view middle.state) := by
        obtain ⟨shown, rfl, records, loaded⟩ := loads
        rw [← shown] at records
        exact cleanBatch_visit holds loaded records cleaned
      have ends := sweepTables_cons_ends holds table rest run
      rw [answered] at ends
      generalize same : ((.ok (outcomes, stopped), after) : Reply (Run τ ω) _) = reply at ends
      cases ends with
      | spent spent =>
          -- The look at the budget before the table would find it unspent.
          cases same
          obtain ⟨inTime, within⟩ := timely rfl
          have reached := inTime.tick.ceiling_le_total spent
          exact absurd within.total (Nat.not_lt.mpr reached)
      | idle within shown nothing =>
          have onward := ih _
            (fun stops => ⟨(timely stops).1.tick, (timely stops).2.tick⟩) same.symm
          have seen : Visits sweep.settings.recordsPerTable.toNat rest (view run.state) outcomes
              stopped (view after.state) := by
            rwa [← shown]
          exact .idle (Store.pendingOf_eq_nil_of_take loads nothing) seen
      | failed within loading refused => cases same
      | overLimit within loading cleaned stops =>
          cases same
          have visit := visits loading cleaned
          rw [loading.shown] at visit
          exact .stopped visit stops
      | @next state batch outcome middle within loading cleaned goes =>
          obtain ⟨further, final, swept, ended⟩ := Reply.exists_of_andThen_eq_ok same.symm
          cases ended
          have visit := visits loading cleaned
          have timelyStill : further.2 = true →
              middle.budget.InTime ∧ middle.budget.Within middle.budget.ceiling := by
            intro cut
            obtain ⟨inTime, unspent⟩ := timely cut
            let loaded : Run τ ω := { run with state, budget := run.budget.tick }
            have unspentLoaded : loaded.budget.Within run.budget.ceiling := unspent.tick
            have proceeds := cleanBatch_proceeds
              ⟨sweep.storage, sweep.observer, sweep.settings, batch⟩ sweep.registry unspentLoaded
            rw [cleaned] at proceeds
            have ceiling : middle.budget.ceiling = run.budget.ceiling := proceeds.turns.ceiling_eq
            rw [ceiling]
            exact ⟨proceeds.turns.inTime inTime.tick, proceeds.within outcome rfl goes⟩
          have onward := ih middle timelyStill swept
          rw [loading.shown] at visit
          exact .next visit (Bool.eq_false_iff.mpr goes) onward

end Walk

/-- With an unspent budget whose time does not run out, an invocation on the store that answers
visits tables one after the other. -/
theorem sweepTables_visits {ω : Type} {sweep : Sweep Store ω}
    (onStore : sweep.storage = Store.storage) (loads : 0 < sweep.settings.recordsPerTable)
    {tables : List String} (run : Run Store ω) {after : Run Store ω}
    {outcomes : List BatchOutcome} {stopped : Bool}
    (inTime : run.budget.InTime) (within : run.budget.Within run.budget.ceiling)
    (answered : sweepTables sweep tables run = (.ok (outcomes, stopped), after)) :
    Visits sweep.settings.recordsPerTable.toNat tables run.state outcomes stopped after.state :=
  sweepTables_visits_held (Store.holds_of_eq onStore) loads run
    (fun _ => ⟨inTime, within⟩) answered

namespace Visits

variable {limit : Nat} {tables : List String} {store after : Store}
  {outcomes : List BatchOutcome} {stopped : Bool}
  (visits : Visits limit tables store outcomes stopped after)
include visits

/-- The way was cut short exactly when the last visit ended on the budget. -/
theorem stopped_iff :
    stopped = true ↔ ∃ last, outcomes.getLast? = some last ∧ last.overLimit = true := by
  induction visits with
  | done => simp
  | idle _ _ ih => exact ih
  | stopped _ overLimit => simp [overLimit]
  | @next _ _ _ _ _ outcome outcomes _ _ within _ ih =>
      rw [ih]
      cases outcomes with
      | nil => simp [within]
      | cons second others => rw [List.getLast?_cons_cons]

/-- No visit but the last ended on the budget. -/
theorem overLimit_dropLast : ∀ outcome ∈ outcomes.dropLast, outcome.overLimit = false := by
  induction visits with
  | done => simp
  | idle _ _ ih => exact ih
  | stopped _ _ => simp
  | @next _ _ _ _ _ outcome outcomes _ _ within _ ih =>
      cases outcomes with
      | nil => simp
      | cons second others =>
          rw [List.dropLast_cons_cons]
          exact List.forall_mem_cons.mpr ⟨within, ih⟩

theorem parentTable_mem : ∀ outcome ∈ outcomes, outcome.parentTable ∈ tables := by
  induction visits with
  | done => simp
  | idle _ _ ih => exact fun outcome member => List.mem_cons_of_mem _ (ih outcome member)
  | stopped visit _ =>
      intro outcome member
      rw [List.mem_singleton.mp member, visit.parentTable]
      exact List.mem_cons_self
  | next visit _ _ ih =>
      intro outcome member
      rcases List.mem_cons.mp member with rfl | later
      · rw [visit.parentTable]
        exact List.mem_cons_self
      · exact List.mem_cons_of_mem _ (ih outcome later)

/-- As many records are pending no more as the outcomes say. -/
theorem falls : store.log.countP (·.isPending)
    = after.log.countP (·.isPending) + (outcomes.map (·.markedProcessed)).sum := by
  induction visits with
  | done => simp
  | idle _ _ ih => exact ih
  | stopped visit _ =>
      rw [visit.falls]
      simp
  | next visit _ _ ih =>
      rw [visit.falls, ih, List.map_cons, List.sum_cons]
      omega

section Distinct

variable (distinct : tables.Nodup)
include distinct

/-- The tables are visited in order that have pending records at the start, all of them unless the
way was cut short. -/
theorem parentTables :
    outcomes.map (·.parentTable) <+: store.pendingTables tables ∧
      (stopped = false → outcomes.map (·.parentTable) = store.pendingTables tables) := by
  induction visits with
  | done => exact ⟨List.prefix_rfl, fun _ => rfl⟩
  | @idle table rest store _ _ _ nothing _ ih =>
      have skipped : store.pendingTables (table :: rest) = store.pendingTables rest := by
        simp [Store.pendingTables, nothing]
      rw [skipped]
      exact ih distinct.of_cons
  | @stopped table rest store _ outcome visit _ =>
      have here : store.pendingTables (table :: rest) = table :: store.pendingTables rest := by
        simp [Store.pendingTables, visit.pending]
      rw [here, List.map_singleton, visit.parentTable]
      refine ⟨⟨_, rfl⟩, ?_⟩
      intro impossible
      cases impossible
  | @next table rest store middle _ outcome outcomes _ visit _ _ ih =>
      have here : store.pendingTables (table :: rest) = table :: store.pendingTables rest := by
        simp [Store.pendingTables, visit.pending]
      have others : middle.pendingTables rest = store.pendingTables rest := by
        apply List.filter_congr
        intro other member
        have ne : other ≠ table := fun same => (List.nodup_cons.mp distinct).1 (same ▸ member)
        rw [visit.pendingOf_of_ne ne]
      obtain ⟨front, whole⟩ := ih distinct.of_cons
      rw [others] at front whole
      rw [here, List.map_cons, visit.parentTable]
      exact ⟨List.prefix_cons_inj _ |>.mpr front, fun unstopped => congrArg _ (whole unstopped)⟩

/-- What the outcomes account for, read against the first log, is what was marked, and each says
how many records that were. -/
theorem accounts :
    after.log = store.logMarking (outcomes.flatMap (·.records limit store)) ∧
      ∀ outcome ∈ outcomes, outcome.markedProcessed = (outcome.records limit store).length := by
  induction visits with
  | done => exact ⟨(Store.logMarking_nil _).symm, by simp⟩
  | idle _ _ ih => exact ih distinct.of_cons
  | stopped visit _ =>
      refine ⟨?_, ?_⟩
      · rw [visit.log]
        simp
      · intro outcome member
        rw [List.mem_singleton.mp member]
        exact visit.marked
  | @next table rest store middle after outcome outcomes stopped visit _ onward ih =>
      obtain ⟨log, marked⟩ := ih distinct.of_cons
      have same : ∀ other ∈ outcomes, other.records limit middle = other.records limit store := by
        intro other member
        apply BatchOutcome.records_congr
        apply visit.pendingOf_of_ne
        intro same
        exact (List.nodup_cons.mp distinct).1 (same ▸ onward.parentTable_mem other member)
      have together : outcomes.flatMap (·.records limit middle)
          = outcomes.flatMap (·.records limit store) := List.flatMap_congr same
      refine ⟨?_, ?_⟩
      · rw [log, together, List.flatMap_cons]
        apply Store.logMarking_logMarking visit.log
        intro record member
        obtain ⟨other, _, ofOther⟩ := List.mem_flatMap.mp member
        exact (BatchOutcome.of_mem_records ofOther).2.2
      · intro other member
        rcases List.mem_cons.mp member with rfl | later
        · exact visit.marked
        · rw [marked other later, same other later]

end Distinct

end Visits

end Sweep

end LooseKeys
