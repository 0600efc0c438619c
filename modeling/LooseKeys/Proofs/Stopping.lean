/-
Module: LooseKeys.Proofs.Stopping
Purpose: What a cleanup does no more once its budget is over the limit, whatever the budget was at
  first.
Main exports: budgetsAtPasses, Run.moments, Journaled.marks, Run.Heeds, Reply.Heeds,
  cleanRelations_heeds, Budget.spent_stops_batch, Budget.spent_at_entry
-/
import LooseKeys.Proofs.Invocation
import LooseKeys.Proofs.Record
import LooseKeys.Proofs.Reduction

/-!
The budget is looked at after every pass and not before the first one: whoever hands it in is to
look at it before.  So a cleanup with a budget that is over its limit makes one pass, if there is a
relation to make it for, and is stopped by it.  No other pass starts over the limit.

A budget that is over its limit stays so.  Therefore what ends a relation also ends the batch
without a marking, at whatever moment the budget went over its limit (`Run.Heeds`).  Only a parent
table without relations is not stopped: nothing is to be drained for it, and its batch is marked at
once.
-/

namespace LooseKeys

namespace Budget

theorem isOverLimit_tick {budget : Budget} (spent : budget.isOverLimit) :
    budget.tick.isOverLimit := by
  unfold isOverLimit at spent ⊢
  rw [Bool.or_eq_true] at spent ⊢
  refine spent.imp id (fun late => ?_)
  unfold isOverTime at late ⊢
  rw [Option.any_eq_true] at late ⊢
  obtain ⟨limit, limited, reached⟩ := late
  exact ⟨limit, limited,
    decide_eq_true (Nat.le_add_right_of_le (of_decide_eq_true reached))⟩

theorem isOverLimit_record {budget : Budget} (spent : budget.isOverLimit) (result : PassResult) :
    (budget.record result).isOverLimit := by
  have time : (budget.record result).isOverTime = budget.isOverTime := by
    unfold record
    cases result.kind <;> rfl
  unfold isOverLimit at spent ⊢
  rw [time, ceiling_record, total_record]
  rw [Bool.or_eq_true, decide_eq_true_eq] at spent ⊢
  exact spent.imp_left Nat.le_add_right_of_le

end Budget

variable {σ α β : Type}

/-! ### What is on record -/

/-- The budget with which a notice announces a pass. -/
def Notice.budget? : Notice → Option Budget
  | .passStarting _ budget => some budget
  | _ => none

/-- The budgets with which passes started, in order. -/
def budgetsAtPasses (notices : List Notice) : List Budget := notices.filterMap Notice.budget?

theorem budgetsAtPasses_passStarting (notices : List Notice) (pass : Pass) (budget : Budget) :
    budgetsAtPasses (notices ++ [.passStarting pass budget])
      = budgetsAtPasses notices ++ [budget] := by
  simp [budgetsAtPasses, Notice.budget?]

theorem budgetsAtPasses_of_other (notices : List Notice) {notice : Notice}
    (other : notice.budget? = none) :
    budgetsAtPasses (notices ++ [notice]) = budgetsAtPasses notices := by
  simp [budgetsAtPasses, other]

/-- The budgets at all moments of a recorded run: at the start of each pass, and now.  In between a
budget does not change. -/
def Run.moments (run : Run σ (List Notice)) : List Budget :=
  budgetsAtPasses run.notes ++ [run.budget]

theorem Run.moments_tell (run : Run σ (List Notice)) {notice : Notice}
    (other : notice.budget? = none) : (run.tell .recording notice).moments = run.moments :=
  congrArg (· ++ [run.budget]) (budgetsAtPasses_of_other run.notes other)

def StoreCall.isMark : StoreCall → Bool
  | .mark .. => true
  | _ => false

/-- The markings in a journal, whether they were answered or not. -/
def Journaled.marks (journal : Journaled σ) : List StoreCall :=
  journal.calls.filter StoreCall.isMark

theorem Pass.marks_run (pass : Pass) (storage : Storage σ) (interfere : Nat → σ → σ)
    (journal : Journaled σ) :
    (pass.run (storage.journaled interfere) journal).2.marks = journal.marks := by
  have called : (pass.call (storage.journaled interfere) journal).2.marks = journal.marks := by
    unfold Pass.call
    cases pass.relation.strategy <;> exact (List.filter_append _ _).trans (List.append_nil _)
  unfold Pass.run
  split
  · rfl
  · generalize pass.call (storage.journaled interfere) journal = reply at called ⊢
    obtain ⟨result, after⟩ := reply
    cases result <;> exact called

/-! ### The limit is heeded -/

/-- The first pass of a recorded run started with a budget that was handed in, and no other one
started over the limit.  Once over its limit the budget stays so.  Nothing is marked. -/
structure Run.Heeds (start : Budget) (run : Run (Journaled σ) (List Notice)) : Prop where
  first : run.moments.head? = some start
  within : ∀ found ∈ (budgetsAtPasses run.notes).tail, ¬ found.isOverLimit
  lasting : run.moments.Pairwise (fun earlier later => earlier.isOverLimit → later.isOverLimit)
  unmarked : run.state.marks = []

/-- A pass may start: it is the first one, or the budget is within its limit. -/
def Run.MayStart (run : Run σ (List Notice)) : Prop :=
  budgetsAtPasses run.notes = [] ∨ ¬ run.budget.isOverLimit

theorem Run.MayStart.told {run : Run σ (List Notice)} (may : run.MayStart) {notice : Notice}
    (other : notice.budget? = none) : (run.tell .recording notice).MayStart := by
  refine may.imp_left (fun noPass => ?_)
  exact (budgetsAtPasses_of_other run.notes other).trans noPass

/-- A call heeds the limit, and is within it unless it answers that it was stopped. -/
structure Reply.Heeds (stopped : α → Prop) (start : Budget)
    (reply : Reply (Run (Journaled σ) (List Notice)) α) : Prop where
  run : reply.2.Heeds start
  goes : ∀ answer, reply.1 = .ok answer → ¬ stopped answer → ¬ reply.2.budget.isOverLimit

namespace Run.Heeds

variable {start : Budget} {run later : Run (Journaled σ) (List Notice)}

/-- A notice other than of a pass. -/
theorem told (heeds : run.Heeds start) {notice : Notice} (other : notice.budget? = none) :
    (run.tell .recording notice).Heeds start := by
  have moments := run.moments_tell other
  have budgets : budgetsAtPasses (run.tell .recording notice).notes = budgetsAtPasses run.notes :=
    budgetsAtPasses_of_other run.notes other
  exact ⟨moments ▸ heeds.first, budgets ▸ heeds.within, moments ▸ heeds.lasting, heeds.unmarked⟩

/-- A budget that was over its limit at some moment is so now. -/
theorem latched (heeds : run.Heeds start) {moment : Budget} (member : moment ∈ run.moments)
    (spent : moment.isOverLimit) : run.budget.isOverLimit := by
  rcases List.mem_append.mp member with before | now
  · exact (List.pairwise_append.mp heeds.lasting).2.2 moment before run.budget
      (List.mem_singleton_self _) spent
  · rwa [← List.mem_singleton.mp now]

/-- A pass that may start, whatever comes of it. -/
theorem started (heeds : run.Heeds start) (may : run.MayStart) {pass : Pass}
    (notes : later.notes = run.notes ++ [.passStarting pass run.budget])
    (onward : run.budget.isOverLimit → later.budget.isOverLimit)
    (unmarked : later.state.marks = []) : later.Heeds start := by
  have budgets : budgetsAtPasses later.notes = run.moments := by
    rw [notes]
    exact budgetsAtPasses_passStarting run.notes pass run.budget
  constructor
  · unfold moments
    rw [budgets, List.head?_append, heeds.first]
    rfl
  · rw [budgets]
    intro found member
    unfold moments at member
    by_cases noPass : budgetsAtPasses run.notes = []
    · rw [noPass] at member
      exact absurd member List.not_mem_nil
    · rw [List.tail_append_singleton_of_ne_nil noPass] at member
      rcases List.mem_append.mp member with before | now
      · exact heeds.within found before
      · rw [List.mem_singleton.mp now]
        exact may.resolve_left noPass
  · unfold moments
    rw [budgets]
    refine List.pairwise_append.mpr ⟨heeds.lasting, List.pairwise_singleton _ _, ?_⟩
    intro moment member last now spent
    rw [List.mem_singleton.mp now]
    exact onward (heeds.latched member spent)
  · exact unmarked

/-- With a budget that is over its limit no second pass starts. -/
theorem length_le_one (heeds : run.Heeds start) (spent : start.isOverLimit) :
    (budgetsAtPasses run.notes).length ≤ 1 := by
  have first := heeds.first
  have within := heeds.within
  have lasting := heeds.lasting
  unfold moments at first lasting
  cases budgets : budgetsAtPasses run.notes with
  | nil => exact Nat.zero_le 1
  | cons begun others =>
      rw [budgets] at first within lasting
      cases first
      cases others with
      | nil => exact Nat.le_refl 1
      | cons second rest =>
          have still := (List.pairwise_cons.mp lasting).1 second List.mem_cons_self spent
          exact absurd still (within second List.mem_cons_self)

end Run.Heeds

/-- A call after another one. -/
theorem Reply.Heeds.andThen {start : Budget} {stopped : α → Prop} {stopped' : β → Prop}
    {reply : Reply (Run (Journaled σ) (List Notice)) α} (heeds : reply.Heeds stopped start)
    {next : α → Run (Journaled σ) (List Notice) → Reply (Run (Journaled σ) (List Notice)) β}
    (onward : ∀ answer after, after.Heeds start →
      (¬ stopped answer → ¬ after.budget.isOverLimit) →
      (next answer after).Heeds stopped' start) : (reply.andThen next).Heeds stopped' start := by
  obtain ⟨result, after⟩ := reply
  cases result with
  | error error => exact ⟨heeds.run, fun _ answered => nomatch answered⟩
  | ok answer => exact onward answer after heeds.run (heeds.goes answer rfl)

section Loops

variable {storage : Storage σ} {interfere : Nat → σ → σ} {settings : Settings} {batch : Batch}
  {start : Budget} {run : Run (Journaled σ) (List Notice)}

/-- The first pass of a phase may start over the limit, no later one does. -/
theorem runPhase_heeds (pass : Pass) (found : Nat) (summary : RelationSummary)
    (heeds : run.Heeds start) (may : run.MayStart) :
    (runPhase ⟨storage.journaled interfere, .recording, settings, batch⟩ pass found summary
      run).Heeds (·.1 = .overLimit) start := by
  let cleanup : Cleanup (Journaled σ) (List Notice) :=
    ⟨storage.journaled interfere, .recording, settings, batch⟩
  have rounds := runPhase_rounds cleanup pass found summary run
  change (runPhase cleanup pass found summary run).Heeds _ _
  generalize runPhase cleanup pass found summary run = reply at rounds ⊢
  have counted : ∀ {run : Run (Journaled σ) (List Notice)} {result : PassResult}
      {after : Journaled σ}, run.Heeds start → run.MayStart →
      pass.run cleanup.storage run.state = (.ok result, after) →
      (run.counted cleanup.observer pass result after).Heeds start := by
    intro run result after heeds may answered
    have marks := pass.marks_run storage interfere run.state
    change pass.run (storage.journaled interfere) run.state = _ at answered
    rw [answered, heeds.unmarked] at marks
    exact heeds.started may rfl
      (fun spent => Budget.isOverLimit_tick (Budget.isOverLimit_record spent result)) marks
  induction rounds with
  | @failed found summary run error after refused =>
      have marks := pass.marks_run storage interfere run.state
      change pass.run (storage.journaled interfere) run.state = _ at refused
      rw [refused, heeds.unmarked] at marks
      exact ⟨heeds.started may rfl id marks, fun _ answered => nomatch answered⟩
  | overLimit answered spent =>
      refine ⟨counted heeds may answered, ?_⟩
      intro answer same goes
      cases same
      exact absurd rfl goes
  | drained answered within nothing => exact ⟨counted heeds may answered, fun _ _ _ => within⟩
  | passLimit answered within affected limit =>
      exact ⟨counted heeds may answered, fun _ _ _ => within⟩
  | again answered within affected more rest ih =>
      exact ih (counted heeds may answered) (Or.inr within)

/-- A relation is stopped by the phase that the budget ends. -/
theorem cleanRelation_heeds (relation : Relation) (heeds : run.Heeds start) (may : run.MayStart) :
    (cleanRelation ⟨storage.journaled interfere, .recording, settings, batch⟩ relation run).Heeds
      (·.1 = .overLimit) start := by
  rw [cleanRelation_eq_andThen]
  split
  · refine (runPhase_heeds _ 0 _ heeds may).andThen ?_
    intro ended after still goes
    split
    · refine ⟨still, ?_⟩
      intro answer same unstopped
      cases same
      exact absurd rfl unstopped
    · rename_i goesOn
      exact runPhase_heeds _ 0 _ still (Or.inr (goes goesOn))
  · exact runPhase_heeds _ 0 _ heeds may

/-- Relations are stopped by the first one that the budget ends; where there are none, nothing
stops them. -/
theorem cleanRelations_heeds (relations : List Relation) (heeds : run.Heeds start)
    (may : run.MayStart) :
    (cleanRelations ⟨storage.journaled interfere, .recording, settings, batch⟩ relations run).Heeds
      (fun answer => answer.2 = true ∨ relations = [] ∧ run.budget.isOverLimit) start := by
  induction relations generalizing run with
  | nil => exact ⟨heeds, fun _ _ unstopped spent => unstopped (Or.inr ⟨rfl, spent⟩)⟩
  | cons relation rest ih =>
      rw [cleanRelations_cons_eq_andThen]
      refine (cleanRelation_heeds relation (heeds.told rfl) (may.told rfl)).andThen ?_
      intro ended after still goes
      simp only
      split
      · refine ⟨still.told rfl, ?_⟩
        intro answer same unstopped
        cases same
        exact absurd (Or.inl rfl) unstopped
      · rename_i goesOn
        have within := goes goesOn
        refine (ih (still.told rfl) (Or.inr within)).andThen ?_
        intro others final still' goes'
        refine ⟨still', ?_⟩
        intro answer same unstopped
        cases same
        apply goes'
        rintro (stopped | ⟨_, spent⟩)
        · exact unstopped (Or.inl stopped)
        · exact within spent

/-- What the limit means for the cleanup of a batch: only its first pass may start over the limit,
and with a budget that was over it at first there is no other one.  When the budget was over the
limit at any moment, nothing is marked for a parent table with relations. -/
structure Reply.Stops (declared : List Relation) (start : Budget)
    (reply : Reply (Run (Journaled σ) (List Notice)) BatchOutcome) : Prop where
  first : reply.2.moments.head? = some start
  within : ∀ found ∈ (budgetsAtPasses reply.2.notes).tail, ¬ found.isOverLimit
  single : start.isOverLimit → (budgetsAtPasses reply.2.notes).length ≤ 1
  unmarked : declared ≠ [] → (∃ moment ∈ reply.2.moments, moment.isOverLimit) →
    reply.2.state.marks = [] ∧ ∀ outcome, reply.1 = .ok outcome → outcome.finalized = false

/-- A batch that is left pending. -/
theorem Run.Heeds.stops_of_pending (heeds : run.Heeds start) {declared : List Relation}
    {result : Except CleanupError BatchOutcome}
    (pending : ∀ outcome, result = .ok outcome → outcome.finalized = false) :
    Reply.Stops declared start (result, run) :=
  ⟨heeds.first, heeds.within, heeds.length_le_one, fun _ _ => ⟨heeds.unmarked, pending⟩⟩

/-- A batch that is marked, or was to be, with a budget that is within its limit if the parent table
has relations. -/
theorem Run.Heeds.stops_of_marking (heeds : run.Heeds start) {declared : List Relation}
    (unspent : declared ≠ [] → ¬ run.budget.isOverLimit)
    {reply : Reply (Run (Journaled σ) (List Notice)) BatchOutcome}
    (moments : reply.2.moments = run.moments)
    (budgets : budgetsAtPasses reply.2.notes = budgetsAtPasses run.notes) :
    reply.Stops declared start := by
  constructor
  · exact moments ▸ heeds.first
  · exact budgets ▸ heeds.within
  · exact budgets ▸ heeds.length_le_one
  · rintro related ⟨moment, member, spent⟩
    rw [moments] at member
    exact absurd (heeds.latched member spent) (unspent related)

theorem cleanBatch_stops (registry : Registry) (heeds : run.Heeds start) (may : run.MayStart) :
    (cleanBatch ⟨storage.journaled interfere, .recording, settings, batch⟩ registry run).Stops
      (registry.relationsFor batch.parentTable) start := by
  rw [cleanBatch_eq_andThen]
  simp only
  split
  · exact heeds.stops_of_pending (fun outcome same => by cases same; rfl)
  · rename_i firstId lastId range
    have cleaned : (cleanRelations ⟨storage.journaled interfere, .recording, settings, batch⟩
        (registry.relationsFor batch.parentTable) run).Heeds _ start :=
      cleanRelations_heeds _ heeds may
    generalize cleanRelations _ (registry.relationsFor batch.parentTable) run = reply at cleaned ⊢
    obtain ⟨result, after⟩ := reply
    cases result with
    | error error => exact cleaned.run.stops_of_pending (fun _ same => nomatch same)
    | ok ended =>
        rw [Reply.andThen_ok]
        split
        · exact cleaned.run.stops_of_pending (fun outcome same => by cases same; rfl)
        · rename_i done
          have unspent : registry.relationsFor batch.parentTable ≠ [] →
              ¬ after.budget.isOverLimit := by
            intro related
            apply cleaned.goes ended rfl
            rintro (stopped | ⟨unrelated, _⟩)
            · rw [stopped] at done
              exact done rfl
            · exact related unrelated
          unfold Reply.onRun
          generalize (storage.journaled interfere).markProcessed batch.parentTable firstId lastId
            after.state = marking
          obtain ⟨answer, state⟩ := marking
          cases answer with
          | error error => exact cleaned.run.stops_of_marking unspent rfl rfl
          | ok marked =>
              exact cleaned.run.stops_of_marking unspent (after.moments_tell rfl)
                (budgetsAtPasses_of_other after.notes rfl)

end Loops

/-- Whatever the storage answers, whoever else writes to it, and whatever budget is handed in: in
the cleanup of a batch no pass but the first one starts over the limit, the first one only if the
budget was handed in so, and then it is the only one.  If the parent table has relations and the
budget is over its limit at any moment, from the first to the last, nothing is marked.  The passes
on record are the calls that reach the storage. -/
theorem Budget.spent_stops_batch (storage : Storage σ) (interfere : Nat → σ → σ)
    (settings : Settings) (registry : Registry) (batch : Batch) (state : σ) (budget : Budget) :
    let reply := cleanBatch ⟨storage.journaled interfere, .recording, settings, batch⟩ registry
      ⟨{ state }, budget, []⟩
    reply.2.OnRecord ∧ reply.Stops (registry.relationsFor batch.parentTable) budget := by
  have fresh : Run.Heeds budget (⟨{ state }, budget, []⟩ : Run (Journaled σ) (List Notice)) :=
    ⟨rfl, fun _ member => absurd member List.not_mem_nil, List.pairwise_singleton _ _, rfl⟩
  exact ⟨cleanBatch_onRecord storage interfere settings registry batch state budget,
    cleanBatch_stops registry fresh (Or.inl rfl)⟩

/-- A budget that is over its limit when it is handed in does not keep the first pass from
starting, and where no relation is declared it does not keep the batch from being marked. -/
theorem Budget.spent_at_entry :
    let budget := Budget.ofCeiling 0
    let declared := (cleanBatch
      ⟨Store.storage.journaled (fun _ => id), .recording, {}, Sample.userBatch⟩ Sample.registry
      ⟨{ state := Sample.store }, budget, []⟩).2
    let undeclared := (cleanBatch
      ⟨Store.storage.journaled (fun _ => id), .recording, {}, Sample.userBatch⟩ {}
      ⟨{ state := Sample.store }, budget, []⟩).2
    budget.isOverLimit ∧ budgetsAtPasses declared.notes = [budget] ∧ declared.state.marks = [] ∧
      budgetsAtPasses undeclared.notes = [] ∧
      undeclared.state.marks = [.mark "public.users" 1 1 (some 1)] := by
  decide +kernel

end LooseKeys
