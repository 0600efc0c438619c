/-
Module: LooseKeys.Proofs.Phases
Purpose: What the passes of a phase, and of a relation, found before it answered.
Main exports: Passes, PhaseResults, runPhase_results, RelationResults, cleanRelation_results,
  RelationSummary.foldl_count
-/
import LooseKeys.Proofs.Budget
import LooseKeys.Proofs.Cleanup.Steps
import LooseKeys.Proofs.Sequence

/-!
A phase that answers made passes that all answered, and everything that it tells can be read off
their results: the summary counts them, the budget is charged with them, and the last of them is
why the phase ended.  `PhaseResults` says so of one phase and is shown by induction on its rounds;
`RelationResults` puts the two phases of a relation together.
-/

namespace LooseKeys

variable {σ ω : Type}

/-- The rows that the passes of one lock mode took. -/
def rowsIn (mode : LockMode) (results : List PassResult) : Nat :=
  ((results.filter (·.lockMode = mode)).map (·.affectedRows)).sum

@[simp] theorem rowsIn_nil (mode : LockMode) : rowsIn mode [] = 0 := rfl

theorem rowsIn_cons (mode : LockMode) (result : PassResult) (rest : List PassResult) :
    rowsIn mode (result :: rest) =
      (if result.lockMode = mode then result.affectedRows else 0) + rowsIn mode rest := by
  unfold rowsIn
  by_cases same : result.lockMode = mode
  · rw [List.filter_cons_of_pos (by simpa using same), List.map_cons, List.sum_cons, if_pos same]
  · rw [List.filter_cons_of_neg (by simpa using same), if_neg same, Nat.zero_add]

theorem rowsIn_append (mode : LockMode) (front rest : List PassResult) :
    rowsIn mode (front ++ rest) = rowsIn mode front + rowsIn mode rest := by
  unfold rowsIn
  rw [List.filter_append, List.map_append, List.sum_append]

/-- A pass is of one lock mode or of the other. -/
theorem sum_affectedRows (results : List PassResult) :
    (results.map (·.affectedRows)).sum = rowsIn .skipLocked results + rowsIn .blocking results := by
  induction results with
  | nil => rfl
  | cons result rest ih =>
      rw [List.map_cons, List.sum_cons, rowsIn_cons, rowsIn_cons, ih]
      cases result.lockMode with
      | skipLocked => simp [Nat.add_assoc]
      | blocking => simp [Nat.add_left_comm]

/-- A summary counts the passes, and their rows by lock mode; the rest of it stays. -/
theorem RelationSummary.foldl_count (summary : RelationSummary) (results : List PassResult) :
    results.foldl RelationSummary.count summary =
      { summary with
        passes := summary.passes + results.length
        skipLockedRows := summary.skipLockedRows + rowsIn .skipLocked results
        blockingRows := summary.blockingRows + rowsIn .blocking results } := by
  induction results generalizing summary with
  | nil => rfl
  | cons result rest ih =>
      rw [List.foldl_cons, ih, rowsIn_cons, rowsIn_cons, List.length_cons]
      unfold count
      cases mode : result.lockMode with
      | skipLocked => simp [Nat.add_assoc, Nat.add_comm 1]
      | blocking => simp [Nat.add_assoc, Nat.add_comm 1]

/-- The results of a pass are its own. -/
theorem Pass.lockMode_of_run_eq_ok {storage : Storage σ} {pass : Pass} {state after : σ}
    {result : PassResult} (answered : pass.run storage state = (.ok result, after)) :
    result.lockMode = pass.lockMode := by
  unfold run at answered
  split at answered
  · cases answered
    rfl
  · generalize pass.call storage state = reply at answered
    obtain ⟨answer, left⟩ := reply
    cases answer with
    | error error => cases answered
    | ok affectedRows =>
        cases answered
        rfl

/-! ### One phase -/

/-- Passes that were made in a row from one run to a later one, each of which answered. -/
inductive Passes (cleanup : Cleanup σ ω) (pass : Pass) :
    Run σ ω → List PassResult → Run σ ω → Prop where
  | nil (run : Run σ ω) : Passes cleanup pass run [] run
  | more {run later : Run σ ω} {result : PassResult} {after : σ} {results : List PassResult}
      (answered : pass.run cleanup.storage run.state = (.ok result, after))
      (rest : Passes cleanup pass (run.counted cleanup.observer pass result after) results later) :
      Passes cleanup pass run (result :: results) later

namespace Passes

variable {cleanup : Cleanup σ ω} {pass : Pass} {run later : Run σ ω} {results : List PassResult}

theorem ceiling_eq (passes : Passes cleanup pass run results later) :
    later.budget.ceiling = run.budget.ceiling := by
  induction passes with
  | nil run => rfl
  | more answered rest ih => exact ih.trans (Budget.ceiling_record _ _)

/-- The budget is charged with what the passes took. -/
theorem total_eq (passes : Passes cleanup pass run results later) :
    later.budget.total = run.budget.total + (results.map (·.affectedRows)).sum := by
  induction passes with
  | nil run => rfl
  | @more run later result after results answered rest ih =>
      rw [ih, List.map_cons, List.sum_cons, ← Nat.add_assoc]
      apply congrArg (· + (results.map (·.affectedRows)).sum)
      exact Budget.total_record run.budget result

theorem lockMode_eq (passes : Passes cleanup pass run results later) :
    ∀ result ∈ results, result.lockMode = pass.lockMode := by
  induction passes with
  | nil run => simp
  | more answered rest ih =>
      exact List.forall_mem_cons.mpr ⟨Pass.lockMode_of_run_eq_ok answered, ih⟩

end Passes

/-- What a phase did that answered; `found` passes before it have found rows. -/
structure PhaseResults (cleanup : Cleanup σ ω) (pass : Pass) (found : Nat)
    (summary : RelationSummary) (run : Run σ ω) (results : List PassResult)
    (phaseEnd : PhaseEnd) (counted : RelationSummary) (later : Run σ ω) : Prop where
  passes : Passes cleanup pass run results later
  counted : counted = results.foldl RelationSummary.count summary
  within : phaseEnd ≠ .overLimit → ¬ later.budget.isOverLimit
  spent : phaseEnd = .overLimit → later.budget.isOverLimit
  /-- The budget was over its limit only after the last pass. -/
  reached : phaseEnd = .overLimit → ¬ run.budget.isOverLimit →
    ∃ front last before, results = front ++ [last] ∧ Passes cleanup pass run front before ∧
      ¬ before.budget.isOverLimit
  drained : phaseEnd = .drained → ∃ result ∈ results, result.affectedRows = 0
  /-- As many passes found rows as are allowed, and no more. -/
  limited : phaseEnd = .passLimit → (∀ result ∈ results, result.affectedRows ≠ 0) ∧
    (¬ cleanup.settings.maxPassesPerPhase.any (· ≤ found) →
      cleanup.settings.maxPassesPerPhase = some (found + results.length))

/-- A limit that is first reached by one more is that number. -/
theorem eq_some_of_any_le {limit : Option Nat} {found : Nat} (reached : limit.any (· ≤ found + 1))
    (earlier : ¬ limit.any (· ≤ found)) : limit = some (found + 1) := by
  cases limit with
  | none => cases reached
  | some most =>
      have above : most ≤ found + 1 := of_decide_eq_true reached
      have below : ¬ most ≤ found := fun le => earlier (decide_eq_true le)
      exact congrArg some (by omega)

theorem not_any_le_zero {limit : Option Nat} (positive : limit ≠ some 0) :
    ¬ limit.any (· ≤ 0) := by
  cases limit with
  | none => simp
  | some most =>
      intro reached
      have zero : most = 0 := Nat.le_zero.mp (of_decide_eq_true reached)
      exact positive (congrArg some zero)

/-- Every phase that answers has its results. -/
theorem Rounds.results {cleanup : Cleanup σ ω} {pass : Pass} {found : Nat}
    {summary : RelationSummary} {run : Run σ ω}
    {reply : Reply (Run σ ω) (PhaseEnd × RelationSummary)}
    (rounds : Rounds cleanup pass found summary run reply) :
    ∀ {phaseEnd counted later}, reply = (.ok (phaseEnd, counted), later) →
      ∃ results, PhaseResults cleanup pass found summary run results phaseEnd counted later := by
  induction rounds with
  | failed refused =>
      intro _ _ _ same
      cases same
  | @overLimit found summary run result after answered spent =>
      intro _ _ _ same
      cases same
      refine ⟨[result], ⟨.more answered (.nil _), rfl, ?_, fun _ => spent, ?_, ?_, ?_⟩⟩
      · exact fun goes => absurd rfl goes
      · exact fun _ unspent => ⟨[], result, run, rfl, .nil run, unspent⟩
      · exact fun ends => nomatch ends
      · exact fun ends => nomatch ends
  | @drained found summary run result after answered within nothing =>
      intro _ _ _ same
      cases same
      refine ⟨[result], ⟨.more answered (.nil _), rfl, fun _ => within, ?_, ?_, ?_, ?_⟩⟩
      · exact fun ends => nomatch ends
      · exact fun ends => nomatch ends
      · exact fun _ => ⟨result, List.mem_cons_self, nothing⟩
      · exact fun ends => nomatch ends
  | @passLimit found summary run result after answered within affected limit =>
      intro _ _ _ same
      cases same
      refine ⟨[result], ⟨.more answered (.nil _), rfl, fun _ => within, ?_, ?_, ?_, ?_⟩⟩
      · exact fun ends => nomatch ends
      · exact fun ends => nomatch ends
      · exact fun ends => nomatch ends
      · exact fun _ => ⟨List.forall_mem_singleton.mpr affected, eq_some_of_any_le limit⟩
  | @again found summary run result after reply answered within affected more rest ih =>
      intro phaseEnd counted later same
      obtain ⟨results, others⟩ := ih same
      refine ⟨result :: results,
        ⟨.more answered others.passes, others.counted, others.within, others.spent, ?_, ?_, ?_⟩⟩
      · intro ends _
        obtain ⟨front, last, before, split, passes, unspent⟩ := others.reached ends within
        exact ⟨result :: front, last, before, by rw [split]; rfl, .more answered passes, unspent⟩
      · intro ends
        obtain ⟨other, member, nothing⟩ := others.drained ends
        exact ⟨other, List.mem_cons_of_mem result member, nothing⟩
      · intro ends
        obtain ⟨filled, exactly⟩ := others.limited ends
        refine ⟨List.forall_mem_cons.mpr ⟨affected, filled⟩, fun _ => ?_⟩
        rw [exactly more, List.length_cons, Nat.add_right_comm, Nat.add_assoc]

theorem runPhase_results {cleanup : Cleanup σ ω} {pass : Pass} {summary counted : RelationSummary}
    {run later : Run σ ω} {phaseEnd : PhaseEnd}
    (answered : runPhase cleanup pass 0 summary run = (.ok (phaseEnd, counted), later)) :
    ∃ results, PhaseResults cleanup pass 0 summary run results phaseEnd counted later :=
  (runPhase_rounds cleanup pass 0 summary run).results answered

/-! ### One relation -/

/-- What the cleanup of a relation did that answered: the results of the passes that left locked
rows alone, and of those that waited. -/
structure RelationResults (cleanup : Cleanup σ ω) (relation : Relation) (run : Run σ ω)
    (skipped waited : List PassResult) (phaseEnd : PhaseEnd) (counted : RelationSummary)
    (later : Run σ ω) : Prop where
  passes : ∃ middle, Passes cleanup (cleanup.pass relation .skipLocked) run skipped middle ∧
    Passes cleanup (cleanup.pass relation .blocking) middle waited later
  counted : counted = (skipped ++ waited).foldl RelationSummary.count (.ofRelation relation)
  within : phaseEnd ≠ .overLimit → ¬ later.budget.isOverLimit
  spent : phaseEnd = .overLimit → later.budget.isOverLimit
  /-- Before the last pass the budget was below its ceiling. -/
  reached : phaseEnd = .overLimit → ¬ run.budget.isOverLimit →
    ∃ front last, skipped ++ waited = front ++ [last] ∧
      run.budget.total + (front.map (·.affectedRows)).sum < run.budget.ceiling
  drained : phaseEnd = .drained → ∃ result ∈ waited, result.affectedRows = 0
  limited : phaseEnd = .passLimit → (∀ result ∈ waited, result.affectedRows ≠ 0) ∧
    (cleanup.settings.maxPassesPerPhase ≠ some 0 →
      cleanup.settings.maxPassesPerPhase = some waited.length)

namespace RelationResults

variable {cleanup : Cleanup σ ω} {relation : Relation} {run later : Run σ ω}
  {skipped waited : List PassResult} {phaseEnd : PhaseEnd} {counted : RelationSummary}
  (results : RelationResults cleanup relation run skipped waited phaseEnd counted later)
include results

theorem ceiling_eq : later.budget.ceiling = run.budget.ceiling := by
  obtain ⟨middle, first, second⟩ := results.passes
  exact second.ceiling_eq.trans first.ceiling_eq

theorem total_eq :
    later.budget.total = run.budget.total + ((skipped ++ waited).map (·.affectedRows)).sum := by
  obtain ⟨middle, first, second⟩ := results.passes
  rw [second.total_eq, first.total_eq, List.map_append, List.sum_append, Nat.add_assoc]

end RelationResults

namespace PhaseResults

variable {cleanup : Cleanup σ ω} {relation : Relation} {run middle later : Run σ ω}
  {results skipped : List PassResult} {phaseEnd : PhaseEnd} {counted : RelationSummary}

/-- Up to the last pass of a phase that ended over the limit. -/
theorem reached_total {pass : Pass} {summary : RelationSummary}
    (phase : PhaseResults cleanup pass 0 summary run results phaseEnd counted later)
    (ends : phaseEnd = .overLimit) (unspent : ¬ run.budget.isOverLimit) :
    ∃ front last, results = front ++ [last] ∧
      run.budget.total + (front.map (·.affectedRows)).sum < run.budget.ceiling := by
  obtain ⟨front, last, before, split, passes, within⟩ := phase.reached ends unspent
  refine ⟨front, last, split, ?_⟩
  rw [← passes.total_eq, ← passes.ceiling_eq]
  exact Budget.total_lt_ceiling within

/-- The waiting phase, after passes of the other one that left the budget within its limit. -/
theorem relation_of_waited (earlier : Passes cleanup (cleanup.pass relation .skipLocked) run
      skipped middle) (within : ¬ run.budget.isOverLimit → ¬ middle.budget.isOverLimit)
    (phase : PhaseResults cleanup (cleanup.pass relation .blocking) 0
      (skipped.foldl RelationSummary.count (.ofRelation relation)) middle results phaseEnd counted
      later) :
    RelationResults cleanup relation run skipped results phaseEnd counted later where
  passes := ⟨middle, earlier, phase.passes⟩
  counted := by rw [List.foldl_append, phase.counted]
  within := phase.within
  spent := phase.spent
  reached := by
    intro ends unspent
    obtain ⟨front, last, split, below⟩ := phase.reached_total ends (within unspent)
    refine ⟨skipped ++ front, last, by rw [split, List.append_assoc], ?_⟩
    rw [earlier.total_eq, earlier.ceiling_eq] at below
    rwa [List.map_append, List.sum_append, ← Nat.add_assoc]
  drained := phase.drained
  limited := by
    intro ends
    obtain ⟨filled, exactly⟩ := phase.limited ends
    refine ⟨filled, fun positive => ?_⟩
    rw [exactly (not_any_le_zero positive), Nat.zero_add]

/-- The phase that leaves locked rows alone, when the budget ended it. -/
theorem relation_of_skipped (phase : PhaseResults cleanup (cleanup.pass relation .skipLocked) 0
      (.ofRelation relation) run results .overLimit counted later) :
    RelationResults cleanup relation run results [] .overLimit counted later where
  passes := ⟨later, phase.passes, .nil later⟩
  counted := by rw [List.append_nil, phase.counted]
  within := phase.within
  spent := phase.spent
  reached := by
    intro ends unspent
    rw [List.append_nil]
    exact phase.reached_total ends unspent
  drained := fun ends => nomatch ends
  limited := fun ends => nomatch ends

end PhaseResults

/-- Every relation that is answered for has its results. -/
theorem cleanRelation_results {cleanup : Cleanup σ ω} {relation : Relation}
    {run later : Run σ ω} {phaseEnd : PhaseEnd} {counted : RelationSummary}
    (answered : cleanRelation cleanup relation run = (.ok (phaseEnd, counted), later)) :
    ∃ skipped waited,
      RelationResults cleanup relation run skipped waited phaseEnd counted later := by
  rw [cleanRelation_eq_andThen] at answered
  split at answered
  · obtain ⟨ended, middle, first, rest⟩ := Reply.exists_of_andThen_eq_ok answered
    obtain ⟨skipped, phase⟩ := runPhase_results first
    by_cases spent : ended.1 = .overLimit
    · rw [if_pos spent] at rest
      cases rest
      rw [spent] at phase
      exact ⟨skipped, [], phase.relation_of_skipped⟩
    · rw [if_neg spent, phase.counted] at rest
      obtain ⟨waited, phase'⟩ := runPhase_results rest
      exact ⟨skipped, waited,
        phase'.relation_of_waited phase.passes (fun _ => phase.within spent)⟩
  · obtain ⟨waited, phase⟩ := runPhase_results answered
    exact ⟨[], waited, phase.relation_of_waited (.nil run) id⟩

end LooseKeys
