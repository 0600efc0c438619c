/-
Module: LooseKeys.Proofs.Cleanup.Effects
Purpose: What the steps of a cleanup do to the store in memory.
Main exports: Pass.isClear_of_nothing, Cleanup.Steps.log_eq, Cleanup.Steps.evolves,
  Cleanup.Exhausts.isClear
-/
import LooseKeys.Proofs.Cleanup.Steps
import LooseKeys.Proofs.Settings
import LooseKeys.Proofs.Store.Evolution

/-!
The steps before the marking leave the log alone and take from the rows only what the keys of
the batch allow.  A waiting pass that finds no row has looked at locked rows too, so the
relation it was for is clear of every key of the batch, and it stays clear.
-/

namespace LooseKeys

/-- A waiting pass that may take a row and takes none leaves no child row with a key that it
looked for. -/
theorem Pass.isClear_of_nothing {pass : Pass} (waiting : pass.lockMode = .blocking)
    (positive : 0 < pass.limit) {store after : Store} {result : PassResult}
    (answered : pass.run Store.storage store = (.ok result, after))
    (nothing : result.affectedRows = 0) :
    ∀ key ∈ pass.parentIds, after.IsClear pass.relation key := by
  intro key ofParent
  have parents : pass.parentIds ≠ [] := List.ne_nil_of_mem ofParent
  have later := pass.evolves_any store
  rw [answered] at later
  apply later.isClear
  rcases cases_of_run_ok answered with ⟨nobody, _⟩ | ⟨table, _, _, found, rfl, _⟩
  · exact absurd nobody parents
  · -- The pass answered with the size of its selection, so it selected no row.
    have empty : (table.selection pass.relation.column pass.parentIds .blocking
        pass.limit).length = 0 := by
      rw [← waiting]
      exact nothing
    intro row member holds
    rw [Store.rowsOf_of_table? found] at member
    have references : row.references pass.relation.column pass.parentIds :=
      Row.references_iff.mpr ⟨key, ofParent, holds⟩
    exact Table.not_references_of_selection_nil positive empty row member references

namespace Cleanup

variable {ω : Type} {cleanup : Cleanup Store ω} {relations : List Relation}
  {run later : Run Store ω} (onStore : cleanup.storage = Store.storage)
include onStore

/-- The log stays as it is until the marking. -/
theorem Steps.log_eq (steps : Steps cleanup relations run later) :
    later.state.log = run.state.log := by
  have kept : ∀ relation ∈ relations, ∀ mode state, state.log = run.state.log →
      ((cleanup.pass relation mode).run cleanup.storage state).2.log = run.state.log := by
    intro relation _ mode state same
    rw [onStore, Pass.log_run]
    exact same
  exact steps.keep_state kept rfl

/-- The rows change only as the keys of the batch allow. -/
theorem Steps.evolves {mandate : Mandate}
    (allowed : ∀ relation ∈ relations, ∀ key ∈ cleanup.batch.parentIds,
      mandate.modify relation.strategy.kind relation.childTable relation.column key)
    (steps : Steps cleanup relations run later) : run.state.Evolves mandate later.state := by
  refine steps.keep_state (fun relation declared mode state evolves => ?_) (.refl run.state)
  rw [onStore]
  apply evolves.trans
  exact (cleanup.pass relation mode).evolves (allowed relation declared)

theorem Steps.evolves_any (steps : Steps cleanup relations run later) :
    run.state.Evolves Mandate.any later.state :=
  steps.evolves onStore (fun _ _ _ _ => trivial)

/-- A relation that was exhausted is clear of every key of the batch. -/
theorem Exhausts.isClear (accepted : cleanup.settings.validate = .ok cleanup.settings)
    {relation : Relation} (exhausts : Exhausts cleanup relations relation run later) :
    ∀ key ∈ cleanup.batch.parentIds, later.state.IsClear relation key := by
  intro key ofBatch
  obtain ⟨earlier, answered, nothing, rest⟩ := exhausts
  rw [onStore] at answered
  have positive : 0 < (cleanup.pass relation .blocking).limit :=
    Settings.limitFor_pos accepted relation.strategy
  have clear := Pass.isClear_of_nothing rfl positive answered nothing key ofBatch
  exact (rest.evolves_any onStore).isClear clear

end Cleanup

end LooseKeys
