/-
Module: LooseKeys.Proofs.Truncation
Purpose: A smaller budget cuts an invocation short and changes nothing else.
Main exports: Storage.Onward, Turns.onward, Truncates, Truncates.andThen, sweepTables_truncates,
  Store.Continues, Invocation.Tightens, Invocation.smaller_budget_truncates
-/
import LooseKeys.Proofs.Budget
import LooseKeys.Proofs.Invocation
import LooseKeys.Proofs.Turns

/-!
Two runs that differ in the ceiling of their budgets only, and in what their observers note, go
abreast as long as neither budget is over its limit: the same calls with the same answers.  The
budget with the lower ceiling is over its limit first.  Then that run is stopped, and whatever the
other one still does starts from the state where the first one ended.  `Truncates` says this of
two replies, and passes through calls in sequence.
-/

namespace LooseKeys

variable {σ ω ω' α β : Type}

/-- A preorder on the states of a storage in which no call leads back. -/
structure Storage.Onward (storage : Storage σ) (ahead : σ → σ → Prop) : Prop where
  refl : ∀ state, ahead state state
  trans : ∀ {first second third}, ahead first second → ahead second third → ahead first third
  passes : ∀ (pass : Pass) state, ahead state (pass.run storage state).2
  marks : ∀ parentTable firstId lastId state,
    ahead state (storage.markProcessed parentTable firstId lastId state).2
  loads : ∀ parentTable limit state, ahead state (storage.loadPending parentTable limit state).2

section Onward

variable {storage : Storage σ} {ahead : σ → σ → Prop} (forward : storage.Onward ahead)
  {observer : Observer σ ω} {settings : Settings} {cap : Nat} {run later : Run σ ω}
include forward

theorem Turn.onward (turn : Turn storage observer settings cap run later) :
    ahead run.state later.state := by
  cases turn with
  | told notice other => exact forward.refl _
  | ticked => exact forward.refl _
  | @loaded parentTable limit answer after answered =>
      have next := forward.loads parentTable limit run.state
      rwa [answered] at next
  | @passed batch relation mode result after within answered =>
      have next := forward.passes (Pass.plan settings batch relation mode) run.state
      rwa [answered] at next
  | @failed batch relation mode error after within refused =>
      have next := forward.passes (Pass.plan settings batch relation mode) run.state
      rwa [refused] at next
  | @marked parentTable firstId lastId answer after answered =>
      have next := forward.marks parentTable firstId lastId run.state
      rwa [answered] at next

theorem Turns.onward (turns : Turns storage observer settings cap run later) :
    ahead run.state later.state := by
  induction turns with
  | refl => exact forward.refl _
  | tail _ turn ih => exact forward.trans ih (turn.onward forward)

end Onward

/-- A budget and one with a ceiling at least as high that have been charged the same; the time of
the second will not be used up. -/
structure Budget.Abreast (lower higher : Budget) : Prop where
  deletions : lower.deletions = higher.deletions
  updates : lower.updates = higher.updates
  ceiling : lower.ceiling ≤ higher.ceiling
  inTime : higher.InTime

namespace Budget.Abreast

variable {lower higher : Budget} (abreast : lower.Abreast higher)
include abreast

theorem total : lower.total = higher.total := by
  unfold Budget.total deleted updated
  rw [abreast.deletions, abreast.updates]

theorem stats : lower.stats = higher.stats := by
  unfold Budget.stats
  rw [abreast.deletions, abreast.updates, abreast.total]

theorem tick : lower.tick.Abreast higher.tick :=
  ⟨abreast.deletions, abreast.updates, abreast.ceiling, abreast.inTime.tick⟩

theorem record (result : PassResult) : (lower.record result).Abreast (higher.record result) := by
  refine ⟨?_, ?_, by simpa using abreast.ceiling, abreast.inTime.record result⟩
  · unfold Budget.record
    cases result.kind with
    | deletion => exact congrArg (Tally.add · result.table result.affectedRows) abreast.deletions
    | update => exact abreast.deletions
  · unfold Budget.record
    cases result.kind with
    | deletion => exact abreast.updates
    | update => exact congrArg (Tally.add · result.table result.affectedRows) abreast.updates

/-- The budget with the lower ceiling is over its limit first. -/
theorem isOverLimit (spent : higher.isOverLimit) : lower.isOverLimit := by
  have reached := abreast.inTime.ceiling_le_total spent
  have total := abreast.total
  have ceiling := abreast.ceiling
  simp only [Budget.isOverLimit, Bool.or_eq_true, decide_eq_true_eq]
  omega

end Budget.Abreast

/-- Two runs in the same state of the storage, with budgets abreast. -/
structure Run.Abreast (first : Run σ ω) (second : Run σ ω') : Prop where
  state : first.state = second.state
  budget : first.budget.Abreast second.budget

/-- Of two replies the runs are abreast and the results the same, or the first was stopped and the
second went on from its state. -/
inductive Truncates (ahead : σ → σ → Prop) (stopped : α → Prop) :
    Reply (Run σ ω) α → Reply (Run σ ω') α → Prop where
  | together {result : Except CleanupError α} {first : Run σ ω} {second : Run σ ω'}
      (abreast : first.Abreast second) : Truncates ahead stopped (result, first) (result, second)
  | cut {answer : α} {first : Run σ ω} {reply : Reply (Run σ ω') α} (stops : stopped answer)
      (goes : ahead first.state reply.2.state) :
      Truncates ahead stopped (.ok answer, first) reply

section Loops

variable {storage : Storage σ} {ahead : σ → σ → Prop} (forward : storage.Onward ahead)
include forward

/-- Calls in sequence: a run that was stopped makes no further call, and the other one only goes
on. -/
theorem Truncates.andThen {stopped : α → Prop} {stopped' : β → Prop}
    {first : Reply (Run σ ω) α} {second : Reply (Run σ ω') α}
    {next : α → Run σ ω → Reply (Run σ ω) β} {next' : α → Run σ ω' → Reply (Run σ ω') β}
    (truncates : Truncates ahead stopped first second)
    (together : ∀ answer run run', run.Abreast run' →
      Truncates ahead stopped' (next answer run) (next' answer run'))
    (stops : ∀ answer run, stopped answer →
      ∃ answer' run', next answer run = (.ok answer', run') ∧ stopped' answer' ∧
        run'.state = run.state)
    (goes : ∀ answer run, ahead run.state (next' answer run).2.state) :
    Truncates ahead stopped' (first.andThen next) (second.andThen next') := by
  cases truncates with
  | @together result run run' abreast =>
      cases result with
      | error error => exact .together abreast
      | ok answer => exact together answer run run' abreast
  | @cut answer run _ stop further =>
      obtain ⟨answer', run', ended, stop', same⟩ := stops answer run stop
      change Truncates ahead stopped' (next answer run) _
      rw [ended]
      apply Truncates.cut stop'
      rw [same]
      obtain ⟨result, after⟩ := second
      cases result with
      | error error => exact further
      | ok answer => exact forward.trans further (goes answer after)

/-- Answers that are put in another form. -/
theorem Truncates.andThen_ok {stopped : α → Prop} {stopped' : β → Prop}
    {first : Reply (Run σ ω) α} {second : Reply (Run σ ω') α} {form : α → β}
    (truncates : Truncates ahead stopped first second)
    (stops : ∀ answer, stopped answer → stopped' (form answer)) :
    Truncates ahead stopped' (first.andThen fun answer after => (.ok (form answer), after))
      (second.andThen fun answer after => (.ok (form answer), after)) := by
  refine truncates.andThen forward ?_ ?_ ?_
  · intro answer run run' abreast
    exact .together abreast
  · intro answer run stop
    exact ⟨_, run, rfl, stops answer stop, rfl⟩
  · intro answer run
    exact forward.refl _

/-- Either way the second run ends where the first one does, or further on. -/
theorem Truncates.reaches {stopped : α → Prop} {first : Reply (Run σ ω) α}
    {second : Reply (Run σ ω') α} (truncates : Truncates ahead stopped first second) :
    ahead first.2.state second.2.state := by
  cases truncates with
  | together abreast =>
      rw [← abreast.state]
      exact forward.refl _
  | cut stops goes => exact goes

omit forward in
/-- When the first run was not stopped the second one answers the same. -/
theorem Truncates.of_not_stopped {stopped : α → Prop} {answer : α} {run : Run σ ω}
    {second : Reply (Run σ ω') α} (truncates : Truncates ahead stopped (.ok answer, run) second)
    (unstopped : ¬ stopped answer) : ∃ run', second = (.ok answer, run') ∧ run.Abreast run' := by
  cases truncates with
  | together abreast => exact ⟨_, rfl, abreast⟩
  | cut stops goes => exact absurd stops unstopped

end Loops

/-- The first reply may be told by the rounds of its phase. -/
theorem Truncates.of_rounds {ahead : σ → σ → Prop} {cleanup : Cleanup σ ω} {pass : Pass}
    {found : Nat} {summary : RelationSummary} {run : Run σ ω}
    {first : Reply (Run σ ω) (PhaseEnd × RelationSummary)}
    {second : Reply (Run σ ω') (PhaseEnd × RelationSummary)}
    {stopped : PhaseEnd × RelationSummary → Prop}
    (rounds : Rounds cleanup pass found summary run first)
    (truncates : Truncates ahead stopped first second) :
    Truncates ahead stopped (runPhase cleanup pass found summary run) second := by
  rw [rounds.runPhase_eq]
  exact truncates

/-- The same cleanup with another observer, under another number of modifications. -/
def Cleanup.capped (cleanup : Cleanup σ ω') (observer : Observer σ ω) (maxModifications : Nat) :
    Cleanup σ ω :=
  ⟨cleanup.storage, observer, { cleanup.settings with maxModifications }, cleanup.batch⟩

section Capped

variable (cleanup : Cleanup σ ω') (observer : Observer σ ω) (maxModifications : Nat)

@[simp] theorem Cleanup.skipLockedPass_capped :
    (cleanup.capped observer maxModifications).settings.skipLockedPass
      = cleanup.settings.skipLockedPass := rfl

@[simp] theorem Cleanup.batch_capped :
    (cleanup.capped observer maxModifications).batch = cleanup.batch := rfl

@[simp] theorem Cleanup.storage_capped :
    (cleanup.capped observer maxModifications).storage = cleanup.storage := rfl

/-- The number of modifications does not bear on the passes that are planned. -/
@[simp] theorem Cleanup.plan_capped (batch : Batch) (relation : Relation) (mode : LockMode) :
    Pass.plan (cleanup.capped observer maxModifications).settings batch relation mode
      = Pass.plan cleanup.settings batch relation mode := by
  unfold Pass.plan Pass.limitFor
  rfl

end Capped

/-- The same invocation with another observer and another clock, under another number of
modifications. -/
def Sweep.capped (sweep : Sweep σ ω') (observer : Observer σ ω) (maxModifications : Nat)
    (delays : List Nat) : Sweep σ ω :=
  ⟨sweep.storage, observer, sweep.registry, { sweep.settings with maxModifications }, delays⟩

theorem Run.Abreast.tell {first : Run σ ω} {second : Run σ ω'} (abreast : first.Abreast second)
    (observer : Observer σ ω) (observer' : Observer σ ω') (notice notice' : Notice) :
    (first.tell observer notice).Abreast (second.tell observer' notice') :=
  ⟨abreast.state, abreast.budget⟩

section Batches

variable (cleanup : Cleanup σ ω') {ahead : σ → σ → Prop} (forward : cleanup.storage.Onward ahead)
  (observer : Observer σ ω) (maxModifications : Nat)
include forward

theorem runPhase_truncates (relation : Relation) (mode : LockMode) (found : Nat)
    (summary : RelationSummary) (second : Run σ ω') :
    ∀ first : Run σ ω, first.Abreast second →
      Truncates ahead (·.1 = .overLimit)
        (runPhase (cleanup.capped observer maxModifications)
          (Pass.plan cleanup.settings cleanup.batch relation mode) found summary first)
        (runPhase cleanup (Pass.plan cleanup.settings cleanup.batch relation mode) found summary
          second) := by
  have rounds := runPhase_rounds cleanup (Pass.plan cleanup.settings cleanup.batch relation mode)
    found summary second
  generalize runPhase cleanup (Pass.plan cleanup.settings cleanup.batch relation mode) found summary
    second = reply at rounds ⊢
  -- The induction follows the second run, which is the one that goes on for longer.
  induction rounds with
  | failed refused =>
      rintro ⟨_, budget, notes⟩ ⟨rfl, abreast⟩
      exact .of_rounds (.failed refused) (.together ⟨rfl, abreast⟩)
  | @overLimit _ _ _ result after answered spent =>
      rintro ⟨_, budget, notes⟩ ⟨rfl, abreast⟩
      have charged := (abreast.record result).tick
      exact .of_rounds (.overLimit answered (charged.isOverLimit spent)) (.together ⟨rfl, charged⟩)
  | @drained _ _ _ result after answered unspent nothing =>
      rintro ⟨_, budget, notes⟩ ⟨rfl, abreast⟩
      by_cases spent : (budget.record result).tick.isOverLimit
      · exact .of_rounds (.overLimit answered spent) (.cut rfl (forward.refl after))
      · exact .of_rounds (.drained answered spent nothing)
          (.together ⟨rfl, (abreast.record result).tick⟩)
  | @passLimit _ _ _ result after answered unspent affected limit =>
      rintro ⟨_, budget, notes⟩ ⟨rfl, abreast⟩
      by_cases spent : (budget.record result).tick.isOverLimit
      · exact .of_rounds (.overLimit answered spent) (.cut rfl (forward.refl after))
      · exact .of_rounds (.passLimit answered spent affected limit)
          (.together ⟨rfl, (abreast.record result).tick⟩)
  | @again found summary run result after _ answered unspent affected more rest ih =>
      rintro ⟨_, budget, notes⟩ ⟨rfl, abreast⟩
      by_cases spent : (budget.record result).tick.isOverLimit
      -- Only the first budget is over its limit: the second run goes on by turns.
      · let next : Run σ ω' := run.counted cleanup.observer
          (Pass.plan cleanup.settings cleanup.batch relation mode) result after
        have turns := (runPhase_proceeds cleanup relation mode (found + 1) (summary.count result)
          next next.budget.within_max).turns
        rw [rest.runPhase_eq] at turns
        exact .of_rounds (.overLimit answered spent) (.cut rfl (turns.onward forward))
      · exact .of_rounds (.again answered spent affected more (runPhase_rounds _ _ _ _ _))
          (ih _ ⟨rfl, (abreast.record result).tick⟩)

theorem cleanRelation_truncates (relation : Relation) {first : Run σ ω} {second : Run σ ω'}
    (abreast : first.Abreast second) :
    Truncates ahead (·.1 = .overLimit)
      (cleanRelation (cleanup.capped observer maxModifications) relation first)
      (cleanRelation cleanup relation second) := by
  have phase := runPhase_truncates cleanup forward observer maxModifications relation
  rw [cleanRelation_eq_andThen, cleanRelation_eq_andThen]
  simp only [Cleanup.skipLockedPass_capped, Cleanup.batch_capped, Cleanup.plan_capped]
  split
  · refine (phase .skipLocked 0 _ second first abreast).andThen forward ?_ ?_ ?_
    · intro ended run run' abreast
      split
      · exact .together abreast
      · exact phase .blocking 0 _ run' run abreast
    · intro ended run stops
      exact ⟨_, run, if_pos stops, rfl, rfl⟩
    · intro ended run
      split
      · exact forward.refl _
      · exact (runPhase_proceeds cleanup relation .blocking 0 ended.2 run
          run.budget.within_max).turns.onward forward
  · exact phase .blocking 0 _ second first abreast

theorem cleanRelations_truncates (relations : List Relation) :
    ∀ {first : Run σ ω} {second : Run σ ω'}, first.Abreast second →
      Truncates ahead (·.2 = true)
        (cleanRelations (cleanup.capped observer maxModifications) relations first)
        (cleanRelations cleanup relations second) := by
  induction relations with
  | nil => exact fun abreast => .together abreast
  | cons relation rest ih =>
      intro first second abreast
      rw [cleanRelations_cons_eq_andThen, cleanRelations_cons_eq_andThen]
      refine (cleanRelation_truncates cleanup forward observer maxModifications relation
        (abreast.tell _ _ _ _)).andThen forward ?_ ?_ ?_
      · intro ended run run' abreast
        simp only
        split
        · exact .together (abreast.tell _ _ _ _)
        · exact (ih (abreast.tell _ _ _ _)).andThen_ok forward (fun _ stops => stops)
      · intro ended run stops
        exact ⟨_, _, if_pos stops, rfl, rfl⟩
      · intro ended run
        simp only
        split
        · exact forward.refl _
        · rw [Reply.snd_andThen_ok]
          exact (cleanRelations_proceeds cleanup rest
            (run.tell cleanup.observer _).budget.within_max).turns.onward forward

theorem cleanBatch_truncates (registry : Registry) {first : Run σ ω} {second : Run σ ω'}
    (abreast : first.Abreast second) :
    Truncates ahead (·.overLimit = true)
      (cleanBatch (cleanup.capped observer maxModifications) registry first)
      (cleanBatch cleanup registry second) := by
  rw [cleanBatch_eq_andThen, cleanBatch_eq_andThen]
  simp only [Cleanup.batch_capped, Cleanup.storage_capped]
  cases cleanup.batch.idRange? with
  | none => exact .together abreast
  | some ids =>
      refine (cleanRelations_truncates cleanup forward observer maxModifications _ abreast).andThen
        forward ?_ ?_ ?_
      · rintro ended ⟨_, budget, notes⟩ run' ⟨rfl, abreast⟩
        simp only [Reply.onRun]
        split
        · exact .together ⟨rfl, abreast⟩
        · cases cleanup.storage.markProcessed cleanup.batch.parentTable ids.1 ids.2 run'.state with
          | mk result state =>
              cases result with
              | error error => exact .together ⟨rfl, abreast⟩
              | ok marked => exact .together ⟨rfl, abreast⟩
      · intro ended run stops
        simp only [stops, Bool.true_or, if_true]
        exact ⟨_, run, rfl, rfl, rfl⟩
      · intro ended run
        split
        · exact forward.refl _
        · have marked := forward.marks cleanup.batch.parentTable ids.1 ids.2 run.state
          simp only [Reply.onRun]
          generalize cleanup.storage.markProcessed _ _ _ _ = marking at marked ⊢
          obtain ⟨result, state⟩ := marking
          cases result with
          | error error => exact marked
          | ok count => exact marked

end Batches

section Sweeps

variable (sweep : Sweep σ ω') {ahead : σ → σ → Prop} (forward : sweep.storage.Onward ahead)
  (observer : Observer σ ω) (maxModifications : Nat) (delays : List Nat)
include forward

theorem sweepTables_truncates (tables : List String) :
    ∀ {first : Run σ ω} {second : Run σ ω'}, first.Abreast second →
      Truncates ahead (·.2 = true)
        (sweepTables (sweep.capped observer maxModifications delays) tables first)
        (sweepTables sweep tables second) := by
  induction tables with
  | nil => exact fun abreast => .together abreast
  | cons parentTable rest ih =>
      rintro ⟨_, budget, notes⟩ second ⟨rfl, abreast⟩
      have ticked := abreast.tick
      have goes : ahead second.state (sweepTables sweep (parentTable :: rest) second).2.state :=
        (sweepTables_turns sweep (Nat.le_refl _)).onward forward
      rw [sweepTables_cons_eq_andThen] at goes ⊢
      rw [sweepTables_cons_eq_andThen]
      simp only [Sweep.capped] at goes ⊢
      by_cases spent : second.budget.tick.isOverLimit
      · simp only [spent, ticked.isOverLimit spent, if_true]
        exact .together ⟨rfl, ticked⟩
      · by_cases spentFirst : budget.tick.isOverLimit
        · simp only [spentFirst, if_true]
          exact .cut rfl goes
        · simp only [spent, spentFirst, Bool.false_eq_true, if_false, Reply.onRun]
          generalize sweep.storage.loadPending parentTable sweep.settings.recordsPerTable
            second.state = loading
          obtain ⟨result, state⟩ := loading
          cases result with
          | error error => exact .together ⟨rfl, ticked⟩
          | ok records =>
              simp only [Reply.andThen_ok]
              split
              · exact ih ⟨rfl, ticked⟩
              · cases Batch.ofRecords parentTable records with
                | error error => exact .together ⟨rfl, ticked⟩
                | ok batch =>
                    let cleanup : Cleanup σ ω' :=
                      ⟨sweep.storage, sweep.observer, sweep.settings, batch⟩
                    let loaded : Run σ ω := ⟨state, budget.tick, notes⟩
                    let loaded' : Run σ ω' := ⟨state, second.budget.tick, second.notes⟩
                    have abreast : loaded.Abreast loaded' := ⟨rfl, ticked⟩
                    refine (cleanBatch_truncates cleanup forward observer maxModifications
                      sweep.registry abreast).andThen forward ?_ ?_ ?_
                    · intro outcome run run' abreast
                      split
                      · exact .together abreast
                      · exact (ih abreast).andThen_ok forward (fun _ stops => stops)
                    · intro outcome run stops
                      exact ⟨_, run, if_pos stops, rfl, rfl⟩
                    · intro outcome run
                      split
                      · exact forward.refl _
                      · rw [Reply.snd_andThen_ok]
                        exact (sweepTables_turns sweep (Nat.le_refl _)).onward forward

/-- An invocation with the smaller of two numbers of modifications is the other one cut short. -/
theorem Sweep.run_truncates (le : maxModifications ≤ sweep.settings.maxModifications)
    (inTime : ∀ limit, sweep.settings.maxRuntime? = some limit → sweep.delays.sum < limit)
    (state : σ) (notes : ω) (notes' : ω') :
    Truncates ahead (·.overLimit = true)
      ((sweep.capped observer maxModifications delays).run state notes)
      (sweep.run state notes') := by
  let capped : Sweep σ ω := sweep.capped observer maxModifications delays
  let start : Run σ ω := ⟨state, capped.budget, notes⟩
  let start' : Run σ ω' := ⟨state, sweep.budget, notes'⟩
  have unused : capped.budget.Abreast sweep.budget :=
    ⟨rfl, rfl, le, sweep.inTime_budget inTime⟩
  have abreast : start.Abreast start' := ⟨rfl, unused⟩
  rw [run_eq_andThen, run_eq_andThen]
  -- The report holds the counts of the budget, so it takes budgets abreast to be the same.
  refine (sweepTables_truncates sweep forward observer maxModifications delays
    sweep.registry.parentTables abreast).andThen forward ?_ ?_ ?_
  · intro ended run run' abreast
    simp only [abreast.budget.stats]
    exact .together abreast
  · intro ended run stops
    exact ⟨_, run, rfl, stops, rfl⟩
  · intro ended run
    exact forward.refl _

end Sweeps

namespace Store

/-- A store some time later: passes have been added, and records have been marked. -/
structure Continues (before after : Store) : Prop where
  passes : before.passes <+: after.passes
  log : List.Forall₂ (DeletedRecord.Evolves (fun _ => True)) before.log after.log

theorem Continues.of_eq {before after : Store} (passes : after.passes = before.passes)
    (log : after.log = before.log) : before.Continues after := by
  constructor
  · exact ⟨[], (List.append_nil _).trans passes.symm⟩
  · rw [log]
    exact List.forall₂_same.mpr (fun _ _ => Or.inl rfl)

theorem Continues.refl (store : Store) : store.Continues store := .of_eq rfl rfl

/-- No call on the store takes back a pass or a mark. -/
theorem storage_onward : storage.Onward Continues where
  refl := .refl
  trans one two := ⟨one.passes.trans two.passes, DeletedRecord.evolve_trans one.log two.log⟩
  passes pass store := by
    rcases pass.run_leaves_cases store with ended | ended | ⟨table, _, ended⟩
    · rw [ended]
      exact .refl store
    · rw [ended]
      exact .of_eq rfl rfl
    · rw [ended]
      exact ⟨List.prefix_append _ _, List.forall₂_same.mpr (fun _ _ => Or.inl rfl)⟩
  marks parentTable firstId lastId store := by
    have evolves := markProcessed_evolves_any parentTable firstId lastId store
    have passes := passes_markProcessed parentTable firstId lastId store
    exact ⟨⟨[], (List.append_nil _).trans passes.symm⟩, evolves.log⟩
  loads _ _ := .refl

end Store

namespace Invocation

/-- An invocation makes passes and marks, and takes none back. -/
theorem continues (invocation : Invocation ω) (registry : Registry) (store : Store) :
    store.Continues (invocation.leaves registry store) := by
  have begun : store.Continues (invocation.begins store) := by
    refine .of_eq ?_ (invocation.log_begins store)
    unfold begins
    split <;> rfl
  have turns := (invocation.sweep registry).run_turns (invocation.begins store) invocation.notes
  exact Store.storage_onward.trans begun (turns.onward Store.storage_onward)

/-- The first invocation has the settings of the second one but for the number of modifications,
which is no greater; the time of the second does not run out. -/
structure Tightens (first : Invocation ω) (second : Invocation ω') : Prop where
  settings : first.settings
    = { second.settings with maxModifications := first.settings.maxModifications }
  le : first.settings.maxModifications ≤ second.settings.maxModifications
  failure : first.failure = second.failure
  inTime : ∀ limit, second.settings.maxRuntime? = some limit → second.delays.sum < limit

section Tightens

variable {first : Invocation ω} {second : Invocation ω'} (tightens : first.Tightens second)
  (registry : Registry) (store : Store)
include tightens

/-- The invocation with the smaller budget is the other one cut short. -/
theorem Tightens.run_truncates :
    Truncates Store.Continues (·.overLimit = true) (first.run registry store)
      (second.run registry store) := by
  have capped : first.sweep registry = (second.sweep registry).capped first.observer
      first.settings.maxModifications first.delays := by
    simp only [sweep, Sweep.capped, ← tightens.settings]
  have begins : first.begins store = second.begins store := by
    simp only [Invocation.begins, tightens.failure]
  unfold run
  rw [capped, begins]
  exact (second.sweep registry).run_truncates Store.storage_onward first.observer
    first.settings.maxModifications first.delays tightens.le tightens.inTime _ _ _

/-- An invocation with a smaller budget makes the first of the passes that it makes with a larger
one, and marks no record that is not marked with the larger one.  If the smaller budget did not
stop it, the larger one makes no difference to the report or to the store. -/
theorem Tightens.smaller_budget_truncates :
    (∃ made more, (first.leaves registry store).passes = store.passes ++ made ∧
      (second.leaves registry store).passes = store.passes ++ made ++ more) ∧
    (∀ (index : Nat) (record : DeletedRecord), store.log[index]? = some record →
      record.isPending → (first.leaves registry store).log[index]? = some record.processed →
        (second.leaves registry store).log[index]? = some record.processed) ∧
    ∀ report after, first.run registry store = (.ok report, after) → report.overLimit = false →
      ∃ after', second.run registry store = (.ok report, after') ∧ after'.state = after.state := by
  have truncates := tightens.run_truncates registry store
  have further : (first.leaves registry store).Continues (second.leaves registry store) :=
    truncates.reaches Store.storage_onward
  refine ⟨?_, ?_, ?_⟩
  · obtain ⟨made, passes⟩ := (first.continues registry store).passes
    obtain ⟨more, passes'⟩ := further.passes
    refine ⟨made, more, passes.symm, ?_⟩
    rw [passes, passes']
  · intro index record _ _ marked
    obtain ⟨later, found, evolves⟩ := DeletedRecord.evolve_getElem? further.log marked
    rcases evolves with rfl | ⟨pending, _, _⟩
    · exact found
    · cases pending
  · intro report after answered within
    rw [answered] at truncates
    obtain ⟨after', answered', abreast⟩ := truncates.of_not_stopped (by simp [within])
    exact ⟨after', answered', abreast.state.symm⟩

end Tightens

/-- With a budget of one row fewer passes are made than with nine, and ten rows are no more than
nine when two are to be deleted. -/
theorem smaller_budget_truncates_in_sample :
    ((Sample.invocation 1).leaves Sample.registry Sample.store).passes = [⟨"posts", .skipLocked, 1⟩]
      ∧ (∃ more, ((Sample.invocation 9).leaves Sample.registry Sample.store).passes
        = ((Sample.invocation 1).leaves Sample.registry Sample.store).passes ++ more) ∧
      (Sample.invocation 10).leaves Sample.registry Sample.store
        = (Sample.invocation 9).leaves Sample.registry Sample.store := by
  have tighter : ∀ {smaller larger : Nat}, smaller ≤ larger →
      (Sample.invocation smaller).Tightens (Sample.invocation larger) := by
    intro smaller larger le
    refine ⟨rfl, le, rfl, ?_⟩
    intro limit limited
    cases limited
    exact (by decide : 0 < 30)
  obtain ⟨⟨made, more, passes, passes'⟩, _⟩ :=
    (tighter (by decide : 1 ≤ 9)).smaller_budget_truncates Sample.registry Sample.store
  obtain ⟨_, _, unchanged⟩ := (tighter (by decide : 9 ≤ 10)).smaller_budget_truncates
    Sample.registry Sample.store
  refine ⟨by decide +kernel, ⟨more, by rw [passes, passes']⟩, ?_⟩
  have within : ((Sample.invocation 9).run Sample.registry Sample.store).1.toOption.map
      (·.overLimit) = some false := by decide +kernel
  unfold leaves
  cases answered : (Sample.invocation 9).run Sample.registry Sample.store with
  | mk result after =>
      rw [answered] at within
      cases result with
      | error error => cases within
      | ok report =>
          obtain ⟨after', answered', same⟩ :=
            unchanged report after answered (Option.some.inj within)
          rw [answered']
          exact same

end Invocation

end LooseKeys
