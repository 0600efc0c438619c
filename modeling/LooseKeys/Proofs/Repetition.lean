/-
Module: LooseKeys.Proofs.Repetition
Purpose: The cleanup of a batch that is finalized already.
Main exports: Store.Exhausted, Store.Finished, Store.OnlyLogs, Run.Idles, idleEntries, idleSummary,
  cleanBatch_idles, finished_of_finalized, Attempt.finalized_again
-/
import LooseKeys.Proofs.Batch
import LooseKeys.Proofs.Budget
import LooseKeys.Proofs.Invocation
import LooseKeys.Proofs.Reduction
import LooseKeys.Proofs.Spans

/-!
A finalized batch leaves a store in which nothing is left to do for it: its relations are clear, and
no record of its range is pending (`Store.Finished`).  There each phase makes one pass that finds no
row and is drained by it.  `Run.Idles` is what such passes do, and it composes along a phase, a
relation, and the relations of a batch: passes are logged, the clock is looked at, and that is all.
-/

namespace LooseKeys

namespace Table

variable (table : Table)

/-- Where no row references a key no row is selected. -/
theorem selection_of_clear {column : String} {keys : List Int}
    (clear : ∀ row ∈ table.rows, ¬ row.references column keys) (mode : LockMode) (limit : Int) :
    table.selection column keys mode limit = [] := by
  have exhausted : table.eligible column keys mode = [] := by
    apply List.eq_nil_iff_forall_not_mem.mpr
    intro row member
    obtain ⟨ofTable, references⟩ := mem_eligible member
    exact clear row ofTable references
  unfold selection
  rw [exhausted, List.take_nil, List.map_nil]

end Table

namespace Store

/-- Passes over the child table of a relation are answered and find no row with one of the keys. -/
structure Exhausted (store : Store) (relation : Relation) (keys : List Int) : Prop where
  unarmed : store.armed = none
  present : (store.table? relation.childTable).isSome
  clear : ∀ key ∈ keys, store.IsClear relation key

/-- Nothing is left to do for a batch under some relations. -/
structure Finished (store : Store) (relations : List Relation) (batch : Batch) : Prop where
  unarmed : store.armed = none
  exhausted : ∀ relation ∈ relations, store.Exhausted relation batch.parentIds
  /-- No record of the range is pending. -/
  marked : ∀ firstId lastId, batch.idRange? = some (firstId, lastId) →
    ∀ record ∈ store.log, ¬ isMarkable batch.parentTable firstId lastId record

/-- Between two stores nothing was done but that passes were logged. -/
structure OnlyLogs (entries : List PassEntry) (before after : Store) : Prop where
  tables : ∀ name, after.table? name = before.table? name
  passes : after.passes = before.passes ++ entries
  log : after.log = before.log
  waits : after.waits = before.waits
  armed : after.armed = before.armed

namespace OnlyLogs

variable {entries others : List PassEntry} {first second third : Store}

theorem refl (store : Store) : store.OnlyLogs [] store :=
  ⟨fun _ => rfl, (List.append_nil _).symm, rfl, rfl, rfl⟩

theorem trans (one : first.OnlyLogs entries second) (two : second.OnlyLogs others third) :
    first.OnlyLogs (entries ++ others) third where
  tables name := (two.tables name).trans (one.tables name)
  passes := by rw [two.passes, one.passes, List.append_assoc]
  log := two.log.trans one.log
  waits := two.waits.trans one.waits
  armed := two.armed.trans one.armed

theorem exhausted (logs : first.OnlyLogs entries second) {relation : Relation} {keys : List Int}
    (exhausted : first.Exhausted relation keys) : second.Exhausted relation keys := by
  refine ⟨logs.armed.trans exhausted.unarmed, ?_, ?_⟩
  · rw [logs.tables]
    exact exhausted.present
  · intro key sought row member
    apply exhausted.clear key sought row
    unfold rowsOf at member ⊢
    rwa [logs.tables] at member

end OnlyLogs

/-- A pass that selects no row is logged, and nothing else is changed. -/
theorem afterPass_nil_onlyLogs {store : Store} {relation : Relation} {table : Table}
    (found : store.table? relation.childTable = some table) (kind : ModificationKind)
    (mode : LockMode) :
    store.OnlyLogs [⟨relation.childTable, mode, 0⟩]
      (store.afterPass kind relation mode table []) :=
  ⟨table?_afterPass_nil found kind mode, rfl, rfl, rfl, rfl⟩

end Store

namespace Store

/-- Marking a range of which no record is pending changes nothing. -/
theorem markProcessed_of_marked {store : Store} (unarmed : store.armed = none)
    {parentTable : String} {firstId lastId : Int}
    (marked : ∀ record ∈ store.log, ¬ isMarkable parentTable firstId lastId record) :
    markProcessed parentTable firstId lastId store = (.ok 0, store) := by
  have unmarkable : store.log.filter (isMarkable parentTable firstId lastId) = [] :=
    List.filter_eq_nil_iff.mpr marked
  have same : store.afterMark parentTable firstId lastId = store := by
    have kept : store.history.marking (isMarkable parentTable firstId lastId) = store.history := by
      apply Log.ext
      refine (List.map_congr_left ?_).trans (List.map_id _)
      exact fun record member => if_neg (marked record member)
    unfold afterMark
    rw [kept]
  rcases markProcessed_cases parentTable firstId lastId store with
    ⟨_, armed, _⟩ | ⟨_, ended⟩
  · cases unarmed.symm.trans armed
  · rw [ended, unmarkable, same]
    rfl

end Store

/-- A pass for a relation that is clear finds nothing. -/
theorem Pass.exists_run_idle (pass : Pass) (parents : pass.parentIds ≠ []) {store : Store}
    (exhausted : store.Exhausted pass.relation pass.parentIds) :
    ∃ after, pass.run Store.storage store = (.ok (pass.result 0), after) ∧
      store.OnlyLogs [⟨pass.relation.childTable, pass.lockMode, 0⟩] after := by
  obtain ⟨table, found⟩ := Option.isSome_iff_exists.mp exhausted.present
  have unselected : pass.selected table = [] := by
    apply table.selection_of_clear
    intro row member references
    obtain ⟨key, sought, holds⟩ := Row.references_iff.mp references
    rw [← Store.rowsOf_of_table? found] at member
    exact exhausted.clear key sought row member holds
  have ran := run_of_table? parents exhausted.unarmed found
  unfold leaves at ran
  rw [unselected] at ran
  exact ⟨_, ran, Store.afterPass_nil_onlyLogs found _ _⟩

/-! ### Passes that find nothing -/

variable {ω : Type}

/-- From a run to a later one passes found nothing: they are logged, and only the clock of the
budget has moved. -/
structure Run.Idles (entries : List PassEntry) (run later : Run Store ω) : Prop where
  store : run.state.OnlyLogs entries later.state
  stats : later.budget.stats = run.budget.stats
  ceiling : later.budget.ceiling = run.budget.ceiling
  inTime : run.budget.InTime → later.budget.InTime

namespace Run.Idles

variable {entries others : List PassEntry} {run middle later : Run Store ω}

theorem refl (run : Run Store ω) : run.Idles [] run :=
  ⟨.refl _, rfl, rfl, id⟩

theorem told (run : Run Store ω) (observer : Observer Store ω) (notice : Notice) :
    run.Idles [] (run.tell observer notice) :=
  ⟨.refl _, rfl, rfl, id⟩

theorem trans (one : run.Idles entries middle) (two : middle.Idles others later) :
    run.Idles (entries ++ others) later where
  store := one.store.trans two.store
  stats := two.stats.trans one.stats
  ceiling := two.ceiling.trans one.ceiling
  inTime := fun start => two.inTime (one.inTime start)

/-- A budget that could not end by its time is within its limit still. -/
theorem within (idles : run.Idles entries later) (inTime : run.budget.InTime)
    (unspent : ¬ run.budget.isOverLimit) : ¬ later.budget.isOverLimit := by
  intro spent
  have total : later.budget.total = run.budget.total := congrArg BudgetStats.total idles.stats
  have reached := (idles.inTime inTime).ceiling_le_total spent
  rw [total, idles.ceiling] at reached
  have below := Budget.total_lt_ceiling unspent
  omega

end Run.Idles

/-- The lock modes of the phases that settings ask for. -/
def Settings.phaseModes (settings : Settings) : List LockMode :=
  if settings.skipLockedPass then [.skipLocked, .blocking] else [.blocking]

/-- What is logged for a relation that is clear: one empty pass in each phase. -/
def idleEntries (settings : Settings) (relation : Relation) : List PassEntry :=
  settings.phaseModes.map (fun mode => ⟨relation.childTable, mode, 0⟩)

/-- What is told of a relation that is clear. -/
def idleSummary (settings : Settings) (relation : Relation) : RelationSummary :=
  { RelationSummary.ofRelation relation with
    passes := settings.phaseModes.length
    drained := true }

section Idling

variable {cleanup : Cleanup Store ω} {run : Run Store ω}
  (onStore : cleanup.storage = Store.storage) (inTime : run.budget.InTime)
  (unspent : ¬ run.budget.isOverLimit)
include onStore inTime unspent

/-- A phase of a relation that is clear is drained by its first pass. -/
theorem runPhase_idles (pass : Pass) (parents : pass.parentIds ≠ [])
    (exhausted : run.state.Exhausted pass.relation pass.parentIds) (summary : RelationSummary) :
    ∃ later,
      runPhase cleanup pass 0 summary run
        = (.ok (.drained, summary.count (pass.result 0)), later) ∧
      run.Idles [⟨pass.relation.childTable, pass.lockMode, 0⟩] later := by
  obtain ⟨after, answered, logs⟩ := pass.exists_run_idle parents exhausted
  have uncounted : run.budget.record (pass.result 0) = run.budget :=
    run.budget.record_of_nothing rfl
  have idles : run.Idles [⟨pass.relation.childTable, pass.lockMode, 0⟩]
      (run.counted cleanup.observer pass (pass.result 0) after) := by
    refine ⟨logs, ?_, ?_, fun _ => (inTime.record _).tick⟩
    · change (run.budget.record (pass.result 0)).tick.stats = run.budget.stats
      rw [uncounted]
      rfl
    · exact run.budget.ceiling_record _
  rw [← onStore] at answered
  have rounds : Rounds cleanup pass 0 summary run _ :=
    .drained answered (idles.within inTime unspent) rfl
  exact ⟨_, rounds.runPhase_eq, idles⟩

/-- So the relation is drained after one pass in each phase. -/
theorem cleanRelation_idles {relation : Relation} (parents : cleanup.batch.parentIds ≠ [])
    (exhausted : run.state.Exhausted relation cleanup.batch.parentIds) :
    ∃ later,
      cleanRelation cleanup relation run
        = (.ok (.drained, { idleSummary cleanup.settings relation with drained := false }),
            later) ∧
      run.Idles (idleEntries cleanup.settings relation) later := by
  rw [cleanRelation_eq_andThen]
  unfold idleEntries idleSummary Settings.phaseModes
  by_cases skips : cleanup.settings.skipLockedPass = true
  · obtain ⟨middle, first, skipped⟩ := runPhase_idles onStore inTime unspent
      (cleanup.pass relation .skipLocked) parents exhausted (.ofRelation relation)
    obtain ⟨later, second, waited⟩ := runPhase_idles onStore (skipped.inTime inTime)
      (skipped.within inTime unspent) (cleanup.pass relation .blocking) parents
      (skipped.store.exhausted exhausted)
      ((RelationSummary.ofRelation relation).count
        ((cleanup.pass relation .skipLocked).result 0))
    rw [if_pos skips, if_pos skips, first, Reply.andThen_ok]
    exact ⟨later, second, skipped.trans waited⟩
  · obtain ⟨later, only, waited⟩ := runPhase_idles onStore inTime unspent
      (cleanup.pass relation .blocking) parents exhausted (.ofRelation relation)
    rw [if_neg skips, if_neg skips]
    exact ⟨later, only, waited⟩

/-- All relations of a batch are drained by empty passes when all are clear. -/
theorem cleanRelations_idles (parents : cleanup.batch.parentIds ≠ []) (relations : List Relation)
    (exhausted : ∀ relation ∈ relations, run.state.Exhausted relation cleanup.batch.parentIds) :
    ∃ later,
      cleanRelations cleanup relations run
        = (.ok (relations.map (idleSummary cleanup.settings), false), later) ∧
      run.Idles (relations.flatMap (idleEntries cleanup.settings)) later := by
  induction relations generalizing run with
  | nil => exact ⟨run, rfl, .refl run⟩
  | cons relation rest ih =>
      obtain ⟨here, others⟩ := List.forall_mem_cons.mp exhausted
      have begun : run.Idles [] (run.tell cleanup.observer (.beforeRelation relation)) :=
        .told run _ _
      obtain ⟨middle, cleaned, idles⟩ := cleanRelation_idles onStore
        (begun.inTime inTime) (begun.within inTime unspent) parents (begun.store.exhausted here)
      have ended : run.Idles (idleEntries cleanup.settings relation)
          (middle.tell cleanup.observer
            (.afterRelation relation (idleSummary cleanup.settings relation))) := by
        have ended := (begun.trans idles).trans (.told middle cleanup.observer
          (.afterRelation relation (idleSummary cleanup.settings relation)))
        rwa [List.append_nil] at ended
      obtain ⟨later, cleanedRest, idlesRest⟩ := ih (ended.inTime inTime)
        (ended.within inTime unspent)
        (fun other member => ended.store.exhausted (others other member))
      refine ⟨later, ?_, ended.trans idlesRest⟩
      rw [cleanRelations_cons_eq_andThen, cleaned, Reply.andThen_ok]
      change (cleanRelations cleanup rest (middle.tell cleanup.observer
        (.afterRelation relation (idleSummary cleanup.settings relation)))).andThen _ = _
      rw [cleanedRest]
      rfl

/-- The cleanup of a batch for which nothing is left to do. -/
theorem cleanBatch_idles {registry : Registry} (records : cleanup.batch.records ≠ [])
    (finished : run.state.Finished (registry.relationsFor cleanup.batch.parentTable)
      cleanup.batch) :
    ∃ later,
      cleanBatch cleanup registry run
        = (.ok { parentTable := cleanup.batch.parentTable, finalized := true, markedProcessed := 0,
                 overLimit := false,
                 relations := (registry.relationsFor cleanup.batch.parentTable).map
                   (idleSummary cleanup.settings) }, later) ∧
      run.Idles ((registry.relationsFor cleanup.batch.parentTable).flatMap
        (idleEntries cleanup.settings)) later := by
  obtain ⟨⟨firstId, lastId⟩, range⟩ := Batch.exists_idRange? records
  obtain ⟨middle, cleaned, idles⟩ := cleanRelations_idles onStore inTime unspent
    (Batch.parentIds_ne_nil records) _ finished.exhausted
  have marked : cleanup.storage.markProcessed cleanup.batch.parentTable firstId lastId middle.state
      = (.ok 0, middle.state) := by
    rw [onStore]
    apply Store.markProcessed_of_marked (idles.store.armed.trans finished.unarmed)
    rw [idles.store.log]
    exact finished.marked firstId lastId range
  have drained : ((registry.relationsFor cleanup.batch.parentTable).map
      (idleSummary cleanup.settings)).all (·.drained) = true := by
    simp [idleSummary]
  have told := idles.trans (.told middle cleanup.observer
    (.finalized cleanup.batch.parentTable 0))
  rw [List.append_nil] at told
  refine ⟨_, ?_, told⟩
  rw [cleanBatch_eq_andThen, range]
  simp only [cleaned, drained, marked, Reply.andThen_ok, Reply.onRun, Bool.not_true, Bool.or_self,
    Bool.false_eq_true, if_false]

end Idling

/-! ### After a batch is finalized -/

section Finalized

variable {cleanup : Cleanup Store ω} {registry : Registry} {run after : Run Store ω}
  (onStore : cleanup.storage = Store.storage)
include onStore

/-- A relation that was exhausted has its child table. -/
theorem Cleanup.Exhausts.present {relations : List Relation} {relation : Relation}
    (parents : cleanup.batch.parentIds ≠ [])
    (exhausts : Exhausts cleanup relations relation run after) :
    (run.state.table? relation.childTable).isSome := by
  obtain ⟨earlier, answered, _, _⟩ := exhausts
  rw [onStore] at answered
  rcases Pass.cases_of_run_ok answered with ⟨nobody, _⟩ | ⟨table, _, _, found, _⟩
  · exact absurd nobody parents
  · rw [← (earlier.evolves_any onStore).isSome_table?]
    exact Option.isSome_of_eq_some found

/-- A batch that is finalized leaves nothing to do. -/
theorem finished_of_finalized (accepted : cleanup.settings.validate = .ok cleanup.settings)
    {outcome : BatchOutcome} (answered : cleanBatch cleanup registry run = (.ok outcome, after))
    (finalized : outcome.finalized) :
    cleanup.batch.records ≠ [] ∧
      after.state.Finished (registry.relationsFor cleanup.batch.parentTable) cleanup.batch := by
  have clear := isClear_of_finalized onStore accepted answered finalized
  have ends : Cleanup.BatchEnds cleanup (registry.relationsFor cleanup.batch.parentTable) run
      (cleanBatch cleanup registry run) := cleanBatch_ends registry run
  rw [answered] at ends
  cases ends with
  | empty nothing pending =>
      rw [finalized] at pending
      cases pending
  | left steps pending cause =>
      rw [finalized] at pending
      cases pending
  | @marked before firstId lastId count state _ range steps exhausted called _ within =>
      have records : cleanup.batch.records ≠ [] := by
        intro empty
        unfold Batch.idRange? Batch.first? at range
        rw [empty] at range
        cases range
      rw [onStore] at called
      change Store.markProcessed _ _ _ _ = _ at called
      rcases Store.markProcessed_cases cleanup.batch.parentTable firstId lastId before.state with
        ⟨_, _, ended⟩ | ⟨unarmed, ended⟩
      · cases called.symm.trans ended
      cases called.symm.trans ended
      refine ⟨records, unarmed, ?_, ?_⟩
      · intro relation declared
        refine ⟨unarmed, ?_, clear relation declared⟩
        change (before.state.table? relation.childTable).isSome
        rw [(steps.evolves_any onStore).isSome_table?]
        exact (exhausted relation declared).present onStore (Batch.parentIds_ne_nil records)
      · intro firstId' lastId' range' record member
        cases range.symm.trans range'
        exact Store.not_isMarkable_of_mem_afterMark member

end Finalized

/-- An attempt at a batch that is finalized already, with nothing written in between, is answered
with nothing done: every relation is drained without a row, no record is marked, and the store keeps
its tables, locks and records.  Only one empty pass for each phase of each relation is logged.  The
settings may be others than before; the budget may be any that is within its limit and cannot end by
its time, and keeps its counts. -/
theorem Attempt.finalized_again {ω' : Type} {registry : Registry} {batch : Batch}
    {first : Attempt ω} {again : Attempt ω'}
    (accepted : first.settings.validate = .ok first.settings) {store : Store}
    {outcome : BatchOutcome} {after : Run Store ω}
    (answered : first.run registry batch store = (.ok outcome, after))
    (finalized : outcome.finalized) (undisturbed : again.meanwhile after.state = after.state)
    (inTime : again.budget.InTime) (unspent : ¬ again.budget.isOverLimit) :
    ∃ later,
      again.run registry batch after.state
        = (.ok { parentTable := batch.parentTable, finalized := true, markedProcessed := 0,
                 overLimit := false,
                 relations := (registry.relationsFor batch.parentTable).map
                   (idleSummary again.settings) }, later) ∧
      after.state.OnlyLogs
        ((registry.relationsFor batch.parentTable).flatMap (idleEntries again.settings))
        later.state ∧
      later.budget.stats = again.budget.stats := by
  let second : Cleanup Store ω' := ⟨Store.storage, again.observer, again.settings, batch⟩
  let run : Run Store ω' := ⟨after.state, again.budget, again.notes⟩
  obtain ⟨records, finished⟩ := finished_of_finalized rfl accepted answered finalized
  have repeated : ∃ later, cleanBatch second registry run = _ ∧ run.Idles _ later :=
    cleanBatch_idles rfl inTime unspent records finished
  obtain ⟨later, ended, idles⟩ := repeated
  refine ⟨later, ?_, idles.store, idles.stats⟩
  unfold Attempt.run
  rw [undisturbed]
  exact ended

/-- An attempt with one phase and a small budget. -/
def Sample.repetition : Attempt Unit :=
  { settings := { skipLockedPass := false }, budget := .ofCeiling 1, observer := .silent,
    notes := () }

/-- A batch is finalized, and attempted again with other settings. -/
theorem Attempt.finalized_again_in_sample :
    ∃ outcome after later,
      (Sample.attempt 9 id).run Sample.registry Sample.userBatch Sample.store
        = (.ok outcome, after) ∧ outcome.markedProcessed = 1 ∧
      Sample.repetition.run Sample.registry Sample.userBatch after.state
        = (.ok { parentTable := "public.users", finalized := true, markedProcessed := 0,
                 overLimit := false,
                 relations := [⟨"posts", "user_id", .asyncDelete, 0, 0, 1, true⟩] }, later) ∧
      later.state.passes = after.state.passes ++ [⟨"posts", .blocking, 0⟩] := by
  have ends : ((Sample.attempt 9 id).run Sample.registry Sample.userBatch
      Sample.store).1.toOption.map (fun outcome => (outcome.finalized, outcome.markedProcessed))
        = some (true, 1) := by
    decide +kernel
  have inTime : Sample.repetition.budget.InTime := fun _ limited => nomatch limited
  cases answered : (Sample.attempt 9 id).run Sample.registry Sample.userBatch Sample.store with
  | mk result after =>
      rw [answered] at ends
      cases result with
      | error error => cases ends
      | ok outcome =>
          have both := Option.some.inj ends
          have finalized : outcome.finalized = true := congrArg Prod.fst both
          have marked : outcome.markedProcessed = 1 := congrArg Prod.snd both
          obtain ⟨later, again, logs, _⟩ := finalized_again rfl answered finalized
            (rfl : Sample.repetition.meanwhile after.state = after.state) inTime (by decide)
          exact ⟨outcome, after, later, rfl, marked, again, logs.passes⟩

end LooseKeys
