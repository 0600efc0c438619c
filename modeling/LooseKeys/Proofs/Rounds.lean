/-
Module: LooseKeys.Proofs.Rounds
Purpose: A phase of passes round by round.
Main exports: Rounds, runPhase_rounds, Rounds.runPhase_eq
-/
import LooseKeys.Cleanup

/-!
The loop of a phase is opened here and nowhere else.  Each round makes one pass; `Rounds` has one
case for each of the four ways in which a round ends the phase, and one for a round after which
the phase goes on.  What holds of every phase is shown by induction on its rounds.
-/

namespace LooseKeys

variable {σ ω : Type}

/-- The run after a pass that was announced and has answered. -/
def Run.counted (run : Run σ ω) (observer : Observer σ ω) (pass : Pass) (result : PassResult)
    (after : σ) : Run σ ω :=
  { run.tell observer (.passStarting pass run.budget) with
    state := after, budget := (run.budget.record result).tick }

/-- The rounds of a phase in which `found` passes have found rows, up to its reply. -/
inductive Rounds (cleanup : Cleanup σ ω) (pass : Pass) :
    Nat → RelationSummary → Run σ ω → Reply (Run σ ω) (PhaseEnd × RelationSummary) → Prop where
  | failed {found : Nat} {summary : RelationSummary} {run : Run σ ω} {error : CleanupError}
      {after : σ} (refused : pass.run cleanup.storage run.state = (.error error, after)) :
      Rounds cleanup pass found summary run
        (.error error,
          { run.tell cleanup.observer (.passStarting pass run.budget) with state := after })
  | overLimit {found : Nat} {summary : RelationSummary} {run : Run σ ω} {result : PassResult}
      {after : σ} (answered : pass.run cleanup.storage run.state = (.ok result, after))
      (spent : (run.budget.record result).tick.isOverLimit) :
      Rounds cleanup pass found summary run
        (.ok (.overLimit, summary.count result), run.counted cleanup.observer pass result after)
  | drained {found : Nat} {summary : RelationSummary} {run : Run σ ω} {result : PassResult}
      {after : σ} (answered : pass.run cleanup.storage run.state = (.ok result, after))
      (within : ¬ (run.budget.record result).tick.isOverLimit) (nothing : result.affectedRows = 0) :
      Rounds cleanup pass found summary run
        (.ok (.drained, summary.count result), run.counted cleanup.observer pass result after)
  | passLimit {found : Nat} {summary : RelationSummary} {run : Run σ ω} {result : PassResult}
      {after : σ} (answered : pass.run cleanup.storage run.state = (.ok result, after))
      (within : ¬ (run.budget.record result).tick.isOverLimit) (affected : result.affectedRows ≠ 0)
      (limit : cleanup.settings.maxPassesPerPhase.any (· ≤ found + 1)) :
      Rounds cleanup pass found summary run
        (.ok (.passLimit, summary.count result), run.counted cleanup.observer pass result after)
  | again {found : Nat} {summary : RelationSummary} {run : Run σ ω} {result : PassResult}
      {after : σ} {reply : Reply (Run σ ω) (PhaseEnd × RelationSummary)}
      (answered : pass.run cleanup.storage run.state = (.ok result, after))
      (within : ¬ (run.budget.record result).tick.isOverLimit) (affected : result.affectedRows ≠ 0)
      (more : ¬ cleanup.settings.maxPassesPerPhase.any (· ≤ found + 1))
      (rest : Rounds cleanup pass (found + 1) (summary.count result)
        (run.counted cleanup.observer pass result after) reply) :
      Rounds cleanup pass found summary run reply

variable {cleanup : Cleanup σ ω} {pass : Pass}

/-- The reply at the end of the rounds is that of the phase. -/
theorem Rounds.runPhase_eq {found : Nat} {summary : RelationSummary} {run : Run σ ω}
    {reply : Reply (Run σ ω) (PhaseEnd × RelationSummary)}
    (rounds : Rounds cleanup pass found summary run reply) :
    runPhase cleanup pass found summary run = reply := by
  induction rounds with
  | failed refused =>
      rw [runPhase]
      simp only [Run.tell, refused]
  | overLimit answered spent =>
      rw [runPhase]
      simp only [Run.tell, answered, spent, if_true]
      rfl
  | drained answered within nothing =>
      rw [runPhase]
      simp only [Run.tell, answered, within, nothing, if_true]
      rfl
  | passLimit answered within affected limit =>
      rw [runPhase]
      simp only [Run.tell, answered, within, affected, limit, if_true, if_false]
      rfl
  | again answered within affected more rest ih =>
      rw [runPhase]
      simp only [Run.tell, answered, within, affected, more, if_false]
      exact ih

/-- Every phase goes by rounds. -/
theorem runPhase_rounds (cleanup : Cleanup σ ω) (pass : Pass) (found : Nat)
    (summary : RelationSummary) (run : Run σ ω) :
    Rounds cleanup pass found summary run (runPhase cleanup pass found summary run) := by
  -- Once some rounds are known, their reply is that of the phase.
  have ends : ∀ {found summary run reply}, Rounds cleanup pass found summary run reply →
      Rounds cleanup pass found summary run (runPhase cleanup pass found summary run) :=
    fun rounds => rounds.runPhase_eq ▸ rounds
  induction found, summary, run using runPhase.induct cleanup pass with
  | case1 found summary run started error after refused => exact ends (.failed refused)
  | case2 found summary run started result after answered counted spent =>
      exact ends (.overLimit answered spent)
  | case3 found summary run started result after answered counted within nothing =>
      exact ends (.drained answered within nothing)
  | case4 found summary run started result after answered counted within affected limit =>
      exact ends (.passLimit answered within affected limit)
  | case5 found summary run started result after answered counted summary' within affected more
      rest =>
      exact ends (.again answered within affected more rest)

end LooseKeys
