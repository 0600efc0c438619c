/-
Module: LooseKeys.Proofs.Overshoot
Purpose: A budget is overshot by at most one pass.
Main exports: Storage.WithinLimit, Settings.largestPass, Turns.total_le, Turns.passes_below,
  Storage.WithinLimit.modifications_bounded
-/
import LooseKeys.Proofs.Budget
import LooseKeys.Proofs.Invocation
import LooseKeys.Proofs.Turns

/-!
Nothing is asked of the storage but that a pass never reports more rows than its limit.  A pass
finds the budget below the cap, so after it the budget is at most one pass beyond the cap less
one, and no turn but a pass adds to it.  For one batch the cap is the ceiling, or one more than
the total that the budget starts with if that is greater.
-/

namespace LooseKeys

variable {σ ω : Type}

/-- The storage never reports more rows than a pass may take, when that is a number of rows. -/
structure Storage.WithinLimit (storage : Storage σ) : Prop where
  deletions : ∀ {relation parentIds mode limit state rows after}, 0 ≤ limit →
    storage.deleteChildren relation parentIds mode limit state = (.ok rows, after) →
      (rows : Int) ≤ limit
  updates : ∀ {relation parentIds mode limit state rows after}, 0 ≤ limit →
    storage.nullifyChildren relation parentIds mode limit state = (.ok rows, after) →
      (rows : Int) ≤ limit

/-- The greatest number of rows that a pass may take under the settings. -/
def Settings.largestPass (settings : Settings) : Nat :=
  (max settings.deleteBatchSize settings.updateBatchSize).toNat

theorem Table.length_selection_le_limit (table : Table) (column : String) (parentIds : List Int)
    (mode : LockMode) {limit : Int} (positive : 0 ≤ limit) :
    ((table.selection column parentIds mode limit).length : Int) ≤ limit := by
  unfold selection
  rw [List.length_map, List.length_take]
  omega

/-- The store in memory keeps to the limit of a pass. -/
theorem Store.storage_withinLimit : Store.storage.WithinLimit := by
  have clean : ∀ {kind relation parentIds mode limit store rows after}, 0 ≤ limit →
      Store.clean kind relation parentIds mode limit store = (.ok rows, after) →
        (rows : Int) ≤ limit := by
    intro kind relation parentIds mode limit store rows after positive answered
    rcases Store.clean_cases kind relation parentIds mode limit store with
      ⟨_, _, ended⟩ | ⟨_, _, ended⟩ | ⟨table, _, _, ended⟩
    · rw [answered] at ended
      cases ended
    · rw [answered] at ended
      cases ended
    · rw [answered] at ended
      cases ended
      exact table.length_selection_le_limit relation.column parentIds mode positive
  exact ⟨clean, clean⟩

section Bounds

variable {storage : Storage σ} (honest : storage.WithinLimit) {settings : Settings}
  (deleting : 0 ≤ settings.deleteBatchSize) (updating : 0 ≤ settings.updateBatchSize)
include honest deleting updating

/-- A planned pass affects no more rows than the largest pass may. -/
theorem Pass.affectedRows_plan_le {batch : Batch} {relation : Relation} {mode : LockMode}
    {state after : σ} {result : PassResult}
    (answered : (Pass.plan settings batch relation mode).run storage state = (.ok result, after)) :
    result.affectedRows ≤ settings.largestPass := by
  unfold Settings.largestPass
  unfold run at answered
  split at answered
  · cases answered
    exact Nat.zero_le _
  · split at answered
    · rename_i rows _ called
      cases answered
      change rows ≤ _
      simp only [call, plan] at called
      cases strategy : relation.strategy with
      | asyncDelete =>
          simp only [strategy, limitFor] at called
          have le := honest.deletions deleting called
          omega
      | asyncNullify =>
          simp only [strategy, limitFor] at called
          have le := honest.updates updating called
          omega
    · cases answered

variable {observer : Observer σ ω} {cap : Nat} {run later : Run σ ω}

/-- A pass that finds the budget below the cap exceeds it by less than one pass. -/
theorem Turn.total_le (turn : Turn storage observer settings cap run later)
    (le : run.budget.total ≤ cap - 1 + settings.largestPass) :
    later.budget.total ≤ cap - 1 + settings.largestPass := by
  cases turn with
  | passed within answered =>
      have rows := Pass.affectedRows_plan_le honest deleting updating answered
      have below := within.total
      simp only [Budget.total_tick, Budget.total_record]
      omega
  | _ => exact le

theorem Turns.total_le (turns : Turns storage observer settings cap run later)
    (le : run.budget.total ≤ cap - 1 + settings.largestPass) :
    later.budget.total ≤ cap - 1 + settings.largestPass :=
  turns.keep (fun _ _ turn => turn.total_le honest deleting updating) le

end Bounds

/-- All passes that were announced found the budget below the cap. -/
def PassesBelow (cap : Nat) (notices : List Notice) : Prop :=
  ∀ pass budget, .passStarting pass budget ∈ notices → budget.total < cap

theorem PassesBelow.concat {cap : Nat} {notices : List Notice} (below : PassesBelow cap notices)
    {notice : Notice} (last : ∀ pass budget, notice = .passStarting pass budget →
      budget.total < cap) : PassesBelow cap (notices ++ [notice]) := by
  intro pass budget member
  rcases List.mem_append.mp member with earlier | new
  · exact below pass budget earlier
  · exact last pass budget (List.mem_singleton.mp new).symm

/-- Under a recording observer every pass is on record with the budget that it found. -/
theorem Turns.passes_below {storage : Storage σ} {settings : Settings} {cap : Nat}
    {run later : Run σ (List Notice)} (turns : Turns storage .recording settings cap run later)
    (below : PassesBelow cap run.notes) : PassesBelow cap later.notes := by
  induction turns with
  | refl => exact below
  | tail _ turn ih =>
      cases turn with
      | told notice other =>
          exact ih.concat (fun pass budget same => absurd same (other pass budget))
      | passed within answered =>
          apply ih.concat
          intro pass budget same
          cases same
          exact within.total
      | failed within refused =>
          apply ih.concat
          intro pass budget same
          cases same
          exact within.total
      | _ => exact ih

/-- On a storage that keeps to the limit of each pass, as the store in memory does, the cleanup of
a batch leaves a budget that was charged at most one pass beyond its ceiling less one, or beyond
what it was charged before.  In an invocation every pass finds fewer rows charged than are allowed,
so at most one pass more than is allowed less one is charged in all.  Where the bound fits in a
word, so does every sum that the budget forms on the way. -/
theorem Storage.WithinLimit.modifications_bounded {storage : Storage σ}
    (honest : storage.WithinLimit) (registry : Registry) {settings : Settings}
    (deleting : 0 ≤ settings.deleteBatchSize) (updating : 0 ≤ settings.updateBatchSize) :
    Store.storage.WithinLimit ∧
    (∀ (observer : Observer σ ω) (batch : Batch) (run : Run σ ω),
      let bound := max run.budget.total (run.budget.ceiling - 1) + settings.largestPass
      let after := (cleanBatch ⟨storage, observer, settings, batch⟩ registry run).2
      after.budget.total ≤ bound ∧ (bound < 2 ^ 64 → after.budget.FitsWord)) ∧
    (∀ (observer : Observer σ ω) (delays : List Nat) (state : σ) (notes : ω),
      (Sweep.run ⟨storage, observer, registry, settings, delays⟩ state notes).2.budget.total
        ≤ settings.maxModifications - 1 + settings.largestPass) ∧
    ∀ (delays : List Nat) (state : σ),
      let after := (Sweep.run ⟨storage, .recording, registry, settings, delays⟩ state []).2
      PassesBelow settings.maxModifications after.notes ∧
        (settings.maxModifications - 1 + settings.largestPass < 2 ^ 64 →
          after.budget.FitsWord ∧
            ∀ pass budget, .passStarting pass budget ∈ after.notes → budget.FitsWord) := by
  have bounded : ∀ {ω' : Type} (observer : Observer σ ω') (delays : List Nat) (state : σ)
      (notes : ω'),
      (Sweep.run ⟨storage, observer, registry, settings, delays⟩ state notes).2.budget.total
        ≤ settings.maxModifications - 1 + settings.largestPass := by
    intro ω' observer delays state notes
    have turns := Sweep.run_turns ⟨storage, observer, registry, settings, delays⟩ state notes
    exact turns.total_le honest deleting updating (Nat.zero_le _)
  refine ⟨Store.storage_withinLimit, ?_, bounded, ?_⟩
  · intro observer batch run bound after
    have turns := (cleanBatch_proceeds ⟨storage, observer, settings, batch⟩ registry
      run.budget.within_max).turns
    have le : after.budget.total ≤ bound := by
      have total := turns.total_le honest deleting updating (by omega)
      simp only [after, bound]
      omega
    exact ⟨le, fun fits => Budget.fitsWord_of_total_lt (Nat.lt_of_le_of_lt le fits)⟩
  · intro delays state after
    have turns := Sweep.run_turns ⟨storage, .recording, registry, settings, delays⟩ state []
    have below : PassesBelow settings.maxModifications after.notes :=
      turns.passes_below (by simp [PassesBelow])
    refine ⟨below, ?_⟩
    intro fits
    constructor
    · exact Budget.fitsWord_of_total_lt
        (Nat.lt_of_le_of_lt (bounded .recording delays state []) fits)
    · intro pass budget announced
      have less := below pass budget announced
      exact Budget.fitsWord_of_total_lt (by omega)

/-- Settings under which a pass may take more rows than the budget allows. -/
def Sample.eager : Settings :=
  { maxModifications := 1, deleteBatchSize := 2, updateBatchSize := 1 }

/-- With a budget of one row and passes of two rows, one pass of two rows is made: the bound is
reached. -/
theorem modifications_bounded_in_sample :
    let after := (Sweep.run ⟨Store.storage, .recording, Sample.registry, Sample.eager, []⟩
      Sample.store []).2
    after.budget.total = Sample.eager.maxModifications - 1 + Sample.eager.largestPass ∧
      after.budget.total ≤ Sample.eager.maxModifications - 1 + Sample.eager.largestPass ∧
      after.budget.FitsWord ∧ PassesBelow Sample.eager.maxModifications after.notes := by
  obtain ⟨_, _, bounded, recorded⟩ := Storage.WithinLimit.modifications_bounded
    Store.storage_withinLimit Sample.registry (by decide : 0 ≤ Sample.eager.deleteBatchSize)
    (by decide : 0 ≤ Sample.eager.updateBatchSize)
  obtain ⟨below, fits⟩ := recorded [] Sample.store
  refine ⟨by decide +kernel, bounded .recording [] Sample.store [], ?_, below⟩
  exact (fits (by decide)).1

end LooseKeys
