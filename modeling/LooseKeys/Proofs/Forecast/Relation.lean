/-
Module: LooseKeys.Proofs.Forecast.Relation
Purpose: On the store in memory the cleanup of a relation goes as forecast.
Main exports: Forecast.Stands, Forecast.Stands.advance, Forecast.Stands.runPhase_eq,
  Cleanup.forecast, Cleanup.GoesAs, Cleanup.relation_goes_as_forecast
-/
import LooseKeys.Proofs.Budget
import LooseKeys.Proofs.Forecast.Numbers
import LooseKeys.Proofs.Invocation
import LooseKeys.Proofs.Settings
import LooseKeys.Proofs.Store.Takeable

/-!
`Forecast.Stands` is what holds after each pass of a phase: so many rows are left and so much room.
One pass leads from one number of passes to the next, and the phase ends where its forecast does.

Both phases of a relation are forecast from the rows that are unlocked and locked when it begins.
The first phase takes unlocked rows only, and passes that wait for locks can take so many fewer
afterwards; so the forecast of the second phase needs no look at the store in between.
-/

namespace LooseKeys

/-! ### One phase on the store in memory -/

section OnStore

variable {ω : Type} {cleanup : Cleanup Store ω} {pass : Pass} {run later : Run Store ω}

namespace Forecast

/-- A run in which a number of passes of a phase went as forecast. -/
structure Stands (forecast : Forecast) (pass : Pass) (made : Nat) (run : Run Store ω) : Prop where
  answers : run.state.Answers pass.relation
  inTime : run.budget.InTime
  left : run.state.takeable pass.relation pass.parentIds pass.lockMode + forecast.taken made
    = forecast.rows
  room : run.budget.total + forecast.room = run.budget.ceiling + forecast.taken made

namespace Stands

variable {forecast : Forecast} {made : Nat}

/-- Before its first pass. -/
theorem start (answers : run.state.Answers pass.relation) (inTime : run.budget.InTime)
    (rows : run.state.takeable pass.relation pass.parentIds pass.lockMode = forecast.rows)
    (room : run.budget.total + forecast.room = run.budget.ceiling) :
    forecast.Stands pass 0 run := by
  constructor
  · exact answers
  · exact inTime
  · rw [forecast.taken_zero, Nat.add_zero, rows]
  · rw [forecast.taken_zero, Nat.add_zero, room]

theorem isOverLimit_iff (stands : forecast.Stands pass made run) :
    run.budget.isOverLimit ↔ forecast.room ≤ forecast.taken made := by
  have room := stands.room
  unfold Budget.isOverLimit
  rw [stands.inTime.not_isOverTime, Bool.or_false, decide_eq_true_eq]
  omega

section Phase

variable (onStore : cleanup.storage = Store.storage) (parents : pass.parentIds ≠ [])
  (size : pass.limit.toNat = forecast.size)
include onStore parents size

/-- One more pass goes as forecast. -/
theorem advance (stands : forecast.Stands pass made run) :
    ∃ after,
      pass.run cleanup.storage run.state = (.ok (pass.result (forecast.take made)), after) ∧
      forecast.Stands pass (made + 1)
        (run.counted cleanup.observer pass (pass.result (forecast.take made)) after) := by
  obtain ⟨after, ran, answers, fewer⟩ := pass.exists_run_takes parents stands.answers
  have takes := forecast.take_eq_min made
  have taken := forecast.taken_add_take made
  have left := stands.left
  have room := stands.room
  have least : min (run.state.takeable pass.relation pass.parentIds pass.lockMode)
      pass.limit.toNat = forecast.take made := by
    rw [size, takes]
    omega
  simp only [least] at ran fewer
  have fewer := fewer pass.lockMode (Or.inl rfl)
  rw [onStore]
  refine ⟨after, ran, answers, (stands.inTime.record _).tick, ?_, ?_⟩
  · change after.takeable _ _ _ + _ = _
    omega
  · have total : (run.budget.record (pass.result (forecast.take made))).tick.total
        = run.budget.total + forecast.take made := by
      rw [Budget.total_tick, Budget.total_record]
      rfl
    change (run.budget.record _).tick.total + _ = (run.budget.record _).tick.ceiling + _
    rw [total, Budget.ceiling_tick, Budget.ceiling_record]
    omega

variable (limit : cleanup.settings.maxPassesPerPhase = forecast.limit)
include limit

/-- The rounds that are left of a phase go as forecast. -/
theorem rounds {remaining : Nat} (stands : forecast.Stands pass made run)
    (last : made + remaining + 1 = forecast.passes) (summary : RelationSummary) :
    let results := (List.range' made (remaining + 1)).map
      (fun earlier => pass.result (forecast.take earlier))
    ∃ later, Rounds cleanup pass made summary run
        (.ok (forecast.phaseEnd, results.foldl RelationSummary.count summary), later) ∧
      Passes cleanup pass run results later ∧ forecast.Stands pass forecast.passes later := by
  induction remaining generalizing made run summary with
  | zero =>
      obtain ⟨after, answered, advanced⟩ := stands.advance onStore parents size
      have spent := advanced.isOverLimit_iff
      have reason : forecast.StopsAfter (made + 1) := last ▸ forecast.stopsAfter_passes
      rw [Forecast.stopsAfter_succ_iff] at reason
      rw [forecast.phaseEnd_of_last last, ← last]
      refine ⟨_, ?_, .more answered (.nil _), advanced⟩
      by_cases reached : forecast.room ≤ forecast.taken (made + 1)
      · rw [if_pos reached]
        exact .overLimit answered (spent.mpr reached)
      · have within := fun isOver => reached (spent.mp isOver)
        rw [if_neg reached]
        by_cases drained : forecast.take made = 0
        · rw [if_pos drained]
          exact .drained answered within drained
        · rw [if_neg drained]
          refine .passLimit answered within drained ?_
          rw [limit]
          exact (reason.resolve_left reached).resolve_left drained
  | succ remaining ih =>
      obtain ⟨after, answered, advanced⟩ := stands.advance onStore parents size
      have goesOn : ¬ forecast.StopsAfter (made + 1) :=
        forecast.not_stopsAfter (Nat.succ_pos made) (by omega)
      rw [Forecast.stopsAfter_succ_iff, not_or, not_or] at goesOn
      obtain ⟨within, found, allowed⟩ := goesOn
      obtain ⟨later, rest, passes, ends⟩ := ih advanced (by omega)
        (summary.count (pass.result (forecast.take made)))
      refine ⟨later, .again answered ?_ found ?_ rest, .more answered passes, ends⟩
      · exact fun isOver => within (advanced.isOverLimit_iff.mp isOver)
      · rwa [limit]

/-- A phase goes as forecast. -/
theorem runPhase_eq (stands : forecast.Stands pass 0 run) (summary : RelationSummary) :
    ∃ later, runPhase cleanup pass 0 summary run
        = (.ok (forecast.phaseEnd, (forecast.results pass).foldl RelationSummary.count summary),
            later) ∧
      Passes cleanup pass run (forecast.results pass) later ∧
      forecast.Stands pass forecast.passes later := by
  have positive := forecast.passes_pos
  have last : 0 + (forecast.passes - 1) + 1 = forecast.passes := by omega
  obtain ⟨later, rounds, passes, ends⟩ :=
    stands.rounds onStore parents size limit last summary
  have all : (List.range' 0 (forecast.passes - 1 + 1)).map
      (fun earlier => pass.result (forecast.take earlier)) = forecast.results pass := by
    unfold results
    rw [List.range_eq_range', Nat.sub_add_cancel positive]
  simp only [all] at rounds passes
  exact ⟨later, rounds.runPhase_eq, passes, ends⟩

end Phase

end Stands

end Forecast

/-- Whatever passes take, passes that wait for locks can take no more. -/
theorem Passes.takeable_blocking_add {results : List PassResult}
    (onStore : cleanup.storage = Store.storage) (parents : pass.parentIds ≠ [])
    (passes : Passes cleanup pass run results later) :
    run.state.Answers pass.relation →
      later.state.takeable pass.relation pass.parentIds .blocking
          + (results.map (·.affectedRows)).sum
        = run.state.takeable pass.relation pass.parentIds .blocking := by
  induction passes with
  | nil run => exact fun _ => rfl
  | @more run later result after results answered rest ih =>
      intro answers
      obtain ⟨_, ran, answersStill, fewer⟩ := pass.exists_run_takes parents answers
      rw [onStore] at answered
      cases answered.symm.trans ran
      have first := fewer .blocking (Or.inr rfl)
      have others : later.state.takeable pass.relation pass.parentIds .blocking
          + (results.map (·.affectedRows)).sum
        = after.takeable pass.relation pass.parentIds .blocking := ih answersStill
      rw [← first, ← others, List.map_cons, List.sum_cons,
        Nat.add_comm (pass.result _).affectedRows, Nat.add_assoc]
      rfl

/-! ### Both phases of a relation -/

/-- The forecast for a relation that comes next in a run. -/
def Cleanup.forecast (cleanup : Cleanup Store ω)
    (accepted : cleanup.settings.validate = .ok cleanup.settings) (relation : Relation)
    (run : Run Store ω) : RelationForecast where
  unlocked := run.state.referencing relation cleanup.batch.parentIds false
  locked := run.state.referencing relation cleanup.batch.parentIds true
  size := (Pass.limitFor cleanup.settings relation.strategy).toNat
  positive := Int.pos_iff_toNat_pos.mp (Settings.limitFor_pos accepted relation.strategy)
  limit := cleanup.settings.maxPassesPerPhase
  room := run.budget.ceiling - run.budget.total
  skips := cleanup.settings.skipLockedPass

/-- The cleanup of a relation goes as forecast. -/
def Cleanup.GoesAs (cleanup : Cleanup Store ω) (forecast : RelationForecast) (relation : Relation)
    (run : Run Store ω) : Prop :=
  ∃ middle later,
    cleanRelation cleanup relation run
      = (.ok (forecast.phaseEnd, forecast.summary relation), later) ∧
    Passes cleanup (cleanup.pass relation .skipLocked) run
      (forecast.skippedResults (cleanup.pass relation .skipLocked)) middle ∧
    Passes cleanup (cleanup.pass relation .blocking) middle
      (forecast.waitedResults (cleanup.pass relation .blocking)) later

theorem Cleanup.foldl_count (cleanup : Cleanup Store ω) (forecast : RelationForecast)
    (relation : Relation) :
    (forecast.skippedResults (cleanup.pass relation .skipLocked)
        ++ forecast.waitedResults (cleanup.pass relation .blocking)).foldl RelationSummary.count
          (.ofRelation relation)
      = forecast.summary relation :=
  forecast.foldl_count relation rfl rfl

section Relation

variable (onStore : cleanup.storage = Store.storage)
  (accepted : cleanup.settings.validate = .ok cleanup.settings)
  (records : cleanup.batch.records ≠ []) (relation : Relation)

/-- The phase that leaves locked rows alone begins as forecast. -/
theorem first_stands (answers : run.state.Answers relation) (inTime : run.budget.InTime)
    (below : run.budget.total < run.budget.ceiling) :
    (cleanup.forecast accepted relation run).first.Stands (cleanup.pass relation .skipLocked) 0
      run := by
  apply Forecast.Stands.start answers inTime
  · exact run.state.takeable_skipLocked relation cleanup.batch.parentIds
  · exact Nat.add_sub_of_le (Nat.le_of_lt below)

include onStore records

/-- So does the waiting phase, after passes that went as forecast. -/
theorem second_stands {middle : Run Store ω} (answers : run.state.Answers relation)
    (passes : Passes cleanup (cleanup.pass relation .skipLocked) run
      ((cleanup.forecast accepted relation run).skippedResults (cleanup.pass relation .skipLocked))
      middle)
    (answersStill : middle.state.Answers relation) (inTime : middle.budget.InTime)
    (below : middle.budget.total < middle.budget.ceiling) :
    (cleanup.forecast accepted relation run).second.Stands (cleanup.pass relation .blocking) 0
      middle := by
  have rows := passes.takeable_blocking_add onStore (Batch.parentIds_ne_nil records) answers
  have total := passes.total_eq
  have ceiling := passes.ceiling_eq
  rw [RelationForecast.sum_skippedResults] at rows total
  rw [run.state.takeable_blocking] at rows
  apply Forecast.Stands.start answersStill inTime
  · exact Nat.eq_sub_of_add_eq rows
  · change middle.budget.total + (run.budget.ceiling - run.budget.total - _) = _
    omega

/-- Wherever it is reached the waiting phase ends the relation. -/
theorem runPhase_second {middle : Run Store ω}
    (goes : (cleanup.forecast accepted relation run).isCut = false)
    (stands : (cleanup.forecast accepted relation run).second.Stands
      (cleanup.pass relation .blocking) 0 middle) :
    let forecast := cleanup.forecast accepted relation run
    ∃ later,
      runPhase cleanup (cleanup.pass relation .blocking) 0
          ((forecast.skippedResults (cleanup.pass relation .skipLocked)).foldl
            RelationSummary.count (.ofRelation relation)) middle
        = (.ok (forecast.phaseEnd, forecast.summary relation), later) ∧
      Passes cleanup (cleanup.pass relation .blocking) middle
        (forecast.waitedResults (cleanup.pass relation .blocking)) later := by
  intro forecast
  obtain ⟨later, answered, waited, _⟩ := stands.runPhase_eq onStore
    (Batch.parentIds_ne_nil records) rfl rfl
    ((forecast.skippedResults (cleanup.pass relation .skipLocked)).foldl
      RelationSummary.count (.ofRelation relation))
  refine ⟨later, ?_, ?_⟩
  · rw [← cleanup.foldl_count, List.foldl_append]
    unfold RelationForecast.phaseEnd RelationForecast.waitedResults
    rwa [goes]
  · unfold RelationForecast.waitedResults
    rwa [goes]

/-- With both phases: unless the budget ends the first one, the second one ends the relation. -/
theorem goesAs_of_skips (skips : cleanup.settings.skipLockedPass = true)
    (answers : run.state.Answers relation) (inTime : run.budget.InTime)
    (below : run.budget.total < run.budget.ceiling) :
    cleanup.GoesAs (cleanup.forecast accepted relation run) relation run := by
  let forecast := cleanup.forecast accepted relation run
  have results : forecast.skippedResults (cleanup.pass relation .skipLocked)
      = forecast.first.results (cleanup.pass relation .skipLocked) := if_pos skips
  have isCut : forecast.isCut = decide (forecast.first.phaseEnd = .overLimit) := by
    unfold RelationForecast.isCut
    rw [show forecast.skips = true from skips, Bool.true_and]
  obtain ⟨middle, answered, skipped, stands⟩ :=
    (first_stands accepted relation answers inTime below).runPhase_eq onStore
      (Batch.parentIds_ne_nil records) rfl rfl (.ofRelation relation)
  change Passes cleanup _ run (forecast.first.results _) middle at skipped
  rw [← results] at answered skipped
  unfold Cleanup.GoesAs
  rw [cleanRelation_eq_andThen, if_pos skips, answered, Reply.andThen_ok]
  by_cases reached : forecast.first.phaseEnd = .overLimit
  · have cut : forecast.isCut = true := isCut.trans (decide_eq_true reached)
    have unwaited : forecast.waitedResults (cleanup.pass relation .blocking) = [] := if_pos cut
    have ends : forecast.phaseEnd = .overLimit := if_pos cut
    have counted := cleanup.foldl_count forecast relation
    rw [unwaited, List.append_nil] at counted
    rw [if_pos reached, counted]
    refine ⟨middle, middle, ?_, skipped, ?_⟩
    · rw [ends]
    · rw [unwaited]
      exact .nil middle
  · have goes : forecast.isCut = false := isCut.trans (decide_eq_false reached)
    have within : ¬ middle.budget.isOverLimit := by
      rw [stands.isOverLimit_iff]
      exact fun spent => reached (if_pos spent)
    obtain ⟨later, ended, waited⟩ := runPhase_second onStore accepted records relation goes
      (second_stands onStore accepted records relation answers skipped stands.answers
        stands.inTime (Budget.total_lt_ceiling within))
    rw [if_neg reached]
    exact ⟨middle, later, ended, skipped, waited⟩

/-- With the waiting phase only. -/
theorem goesAs_of_not_skips (skips : ¬ cleanup.settings.skipLockedPass = true)
    (answers : run.state.Answers relation) (inTime : run.budget.InTime)
    (below : run.budget.total < run.budget.ceiling) :
    cleanup.GoesAs (cleanup.forecast accepted relation run) relation run := by
  let forecast := cleanup.forecast accepted relation run
  have results : forecast.skippedResults (cleanup.pass relation .skipLocked) = [] :=
    if_neg skips
  have goes : forecast.isCut = false := by
    unfold RelationForecast.isCut
    rw [show forecast.skips = false from Bool.eq_false_iff.mpr skips, Bool.false_and]
  have skipped : Passes cleanup (cleanup.pass relation .skipLocked) run
      (forecast.skippedResults (cleanup.pass relation .skipLocked)) run := by
    rw [results]
    exact .nil run
  obtain ⟨later, ended, waited⟩ := runPhase_second onStore accepted records relation goes
    (second_stands onStore accepted records relation answers skipped answers inTime below)
  change runPhase cleanup _ 0 (List.foldl _ _ (forecast.skippedResults _)) run = _ at ended
  rw [results] at ended
  unfold Cleanup.GoesAs
  rw [cleanRelation_eq_andThen, if_neg skips]
  exact ⟨run, later, ended, skipped, waited⟩

/-- The cleanup of a relation in closed form.  On the store in memory, where its passes are answered
and nothing but the ceiling ends the budget, the number of passes of each phase, the rows that they
take and the way in which the relation ends are those that the numbers of unlocked and locked rows,
the size of a pass, the limit of passes and the room of the budget foretell. -/
theorem Cleanup.relation_goes_as_forecast (answers : run.state.Answers relation)
    (inTime : run.budget.InTime) (below : run.budget.total < run.budget.ceiling) :
    let forecast := cleanup.forecast accepted relation run
    (∃ later,
      cleanRelation cleanup relation run
        = (.ok (forecast.phaseEnd, forecast.summary relation), later) ∧
      later.budget.total = run.budget.total + (forecast.skippedRows + forecast.waitedRows) ∧
      later.state.passes = run.state.passes ++ forecast.entries relation.childTable) ∧
    (cleanRelations cleanup [relation] run).1 =
      .ok ([{ forecast.summary relation with drained := decide (forecast.phaseEnd = .drained) }],
        decide (forecast.phaseEnd = .overLimit)) := by
  intro forecast
  have goes : ∀ {run : Run Store ω}, run.state.Answers relation → run.budget.InTime →
      run.budget.total < run.budget.ceiling →
      cleanup.GoesAs (cleanup.forecast accepted relation run) relation run := by
    intro run answers inTime below
    by_cases skips : cleanup.settings.skipLockedPass = true
    · exact goesAs_of_skips onStore accepted records relation skips answers inTime below
    · exact goesAs_of_not_skips onStore accepted records relation skips answers inTime below
  constructor
  · obtain ⟨middle, later, answered, skipped, waited⟩ := goes answers inTime below
    have parents : cleanup.batch.parentIds ≠ [] := Batch.parentIds_ne_nil records
    refine ⟨later, answered, ?_, ?_⟩
    · rw [waited.total_eq, skipped.total_eq, RelationForecast.sum_skippedResults,
        RelationForecast.sum_waitedResults, Nat.add_assoc]
    · rw [waited.logged onStore parents, skipped.logged onStore parents, List.append_assoc,
        ← List.map_append]
      exact congrArg (run.state.passes ++ ·) (forecast.map_entry_results rfl rfl rfl rfl)
  · -- Making a relation known changes neither the store nor the budget.
    have told : cleanup.GoesAs forecast relation
        (run.tell cleanup.observer (.beforeRelation relation)) := goes answers inTime below
    obtain ⟨_, later, answered, _⟩ := told
    rw [cleanRelations_cons_eq_andThen, answered, Reply.andThen_ok]
    change (if forecast.phaseEnd = .overLimit then _ else _ : Reply _ _).1 = _
    by_cases reached : forecast.phaseEnd = .overLimit
    · rw [if_pos reached, decide_eq_true reached]
    · rw [if_neg reached, decide_eq_false reached]
      rfl

end Relation

end OnStore

/-! A cleanup that takes one row with each pass, of a table with one locked row and one that is not
locked. -/
namespace Sample

def single : Cleanup Store Unit :=
  { storage := Store.storage, observer := .silent, settings := { deleteBatchSize := 1 }
    batch := { parentTable := "public.users", records := [record] } }

theorem busy_answers : busy.Answers relation :=
  ⟨rfl, by decide⟩

end Sample

/-- The last row brings the budget to its ceiling, and the relation ends without a pass that finds
none. -/
theorem Cleanup.relation_goes_as_forecast_in_sample :
    Sample.busy.Answers Sample.relation ∧ (Budget.ofCeiling 2).InTime ∧
      (cleanRelations Sample.single [Sample.relation] ⟨Sample.busy, .ofCeiling 2, ()⟩).1 =
        .ok ([⟨"posts", "user_id", .asyncDelete, 1, 1, 3, false⟩], true) := by
  have inTime : (Budget.ofCeiling 2).InTime := fun _ limited => nomatch limited
  obtain ⟨_, foretold⟩ := @relation_goes_as_forecast Unit Sample.single
    ⟨Sample.busy, .ofCeiling 2, ()⟩ rfl rfl (List.cons_ne_nil _ _) Sample.relation
    Sample.busy_answers inTime (by decide)
  refine ⟨Sample.busy_answers, inTime, foretold.trans ?_⟩
  decide +kernel

end LooseKeys
