/-
Module: LooseKeys.Proofs.Settings
Purpose: What validated settings guarantee.
Main exports: Settings.validate_ok_iff, Settings.eq_of_validate_eq_ok, Settings.limitFor_pos
-/
import LooseKeys.Pass
import LooseKeys.Settings

/-!
Validation refuses every setting with which a cleanup could make no progress: a budget of
nothing, a pass that takes no row, a load of no record, and a phase of no pass.
-/

namespace LooseKeys.Settings

/-- Settings are accepted exactly when each of their limits lets something through. -/
theorem validate_ok_iff (settings : Settings) :
    settings.validate = .ok settings ↔
      0 < settings.maxModifications ∧ 0 < settings.deleteBatchSize ∧
        0 < settings.updateBatchSize ∧ 0 < settings.recordsPerTable ∧
        settings.maxPassesPerPhase ≠ some 0 := by
  unfold validate fault?
  split
  · rename_i fault refused
    refine ⟨fun accepted => (by cases accepted), ?_⟩
    rintro ⟨budget, deleting, updating, loading, passes⟩
    have noBudget : ¬ settings.maxModifications = 0 := Nat.ne_of_gt budget
    have noBatch : ¬ (settings.deleteBatchSize ≤ 0 ∨ settings.updateBatchSize ≤ 0) := by omega
    have noLoad : ¬ settings.recordsPerTable ≤ 0 := Int.not_le.mpr loading
    rw [if_neg noBudget, if_neg noBatch, if_neg noLoad, if_neg passes] at refused
    cases refused
  · rename_i accepted
    refine ⟨fun _ => ?_, fun _ => rfl⟩
    split at accepted
    · cases accepted
    · split at accepted
      · cases accepted
      · split at accepted
        · cases accepted
        · split at accepted
          · cases accepted
          · rename_i noBudget noBatch noLoad passes
            exact ⟨Nat.pos_of_ne_zero noBudget, by omega, by omega, by omega, passes⟩

/-- Validation gives back what it accepts. -/
theorem eq_of_validate_eq_ok {settings result : Settings}
    (accepted : settings.validate = .ok result) : result = settings := by
  unfold validate at accepted
  split at accepted
  · cases accepted
  · cases accepted
    rfl

variable {settings : Settings} (accepted : settings.validate = .ok settings)
include accepted

theorem maxModifications_pos : 0 < settings.maxModifications :=
  (settings.validate_ok_iff.mp accepted).1

theorem recordsPerTable_pos : 0 < settings.recordsPerTable :=
  (settings.validate_ok_iff.mp accepted).2.2.2.1

/-- A pass may take a row, whatever it does to it. -/
theorem limitFor_pos (strategy : Strategy) : 0 < Pass.limitFor settings strategy := by
  obtain ⟨_, deleting, updating, _⟩ := settings.validate_ok_iff.mp accepted
  cases strategy with
  | asyncDelete => exact deleting
  | asyncNullify => exact updating

end LooseKeys.Settings
