/-
Module: LooseKeys.Proofs.Store.Takeable
Purpose: How many rows passes may take from the store in memory, and how the number falls.
Main exports: Store.referencing, Store.takeable, Store.takeable_skipLocked,
  Store.takeable_blocking, Store.Answers, Pass.exists_run_takes
-/
import LooseKeys.Proofs.Store.Evolution
import LooseKeys.Proofs.Store.PassEffect

/-!
How a phase goes depends on the store by numbers alone.  A pass that may take `n` rows, and no more
than its limit, takes the smaller of the two; afterwards passes of its own lock mode may take so
many rows fewer, and so may passes that wait for locks.
-/

namespace LooseKeys

/-- Without the rows of a sublist a list of rows told apart by their ids is shorter by them. -/
theorem length_filter_not_mem_add {rows taken : List Row} (distinct : (rows.map (·.id)).Nodup)
    (within : taken.Sublist rows) :
    (rows.filter (·.id ∉ taken.map (·.id))).length + taken.length = rows.length := by
  have gone : (rows.filter (·.id ∈ taken.map (·.id))).Perm taken := by
    have nodup : rows.Nodup := distinct.of_map
    apply (List.perm_ext_iff_of_nodup (nodup.filter _) (within.nodup nodup)).mpr
    intro row
    rw [List.mem_filter, decide_eq_true_eq]
    constructor
    · rintro ⟨member, named⟩
      exact (id_mem_map_iff distinct within.subset member).mp named
    · intro ofTaken
      exact ⟨within.subset ofTaken, List.mem_map_of_mem ofTaken⟩
  have both := rows.length_eq_length_filter_add (fun row => decide (row.id ∈ taken.map (·.id)))
  rw [gone.length_eq] at both
  simp only [decide_not]
  omega

namespace Store

section Count

variable (store : Store) (relation : Relation) (keys : List Int)

/-- How many rows of the child table reference one of the keys and are locked, or are not. -/
def referencing (locked : Bool) : Nat :=
  (store.rowsOf relation.childTable).countP (fun row =>
    row.references relation.column keys && store.isLocked relation.childTable row.id == locked)

/-- How many rows of the child table passes of a lock mode may take. -/
def takeable (mode : LockMode) : Nat :=
  match store.table? relation.childTable with
  | some table => (table.eligible relation.column keys mode).length
  | none => 0

variable {store relation}

theorem takeable_of_table? {table : Table} (found : store.table? relation.childTable = some table)
    (mode : LockMode) :
    store.takeable relation keys mode = (table.eligible relation.column keys mode).length := by
  unfold takeable
  rw [found]

/-- A pass selects what it may take, as far as its limit goes. -/
theorem length_selection_of_table? {table : Table}
    (found : store.table? relation.childTable = some table) (mode : LockMode) (limit : Int) :
    (table.selection relation.column keys mode limit).length
      = min (store.takeable relation keys mode) limit.toNat := by
  rw [takeable_of_table? keys found, Table.selection, List.length_map, List.length_take,
    Nat.min_comm]

variable (store relation)

/-- Passes that do not wait may take the rows without a lock. -/
theorem takeable_skipLocked :
    store.takeable relation keys .skipLocked = store.referencing relation keys false := by
  unfold takeable referencing rowsOf isLocked
  cases store.table? relation.childTable with
  | none => rfl
  | some table =>
      simp only [Table.eligible, List.countP_eq_length_filter, LockMode.skipsLocked, Bool.true_and,
        beq_false]

/-- Passes that wait may take all rows, locked or not. -/
theorem takeable_blocking :
    store.takeable relation keys .blocking
      = store.referencing relation keys false + store.referencing relation keys true := by
  unfold takeable referencing rowsOf
  cases store.table? relation.childTable with
  | none => rfl
  | some table =>
      simp only [Table.eligible_blocking]
      induction table.rows with
      | nil => rfl
      | cons row rest ih =>
          simp only [List.countP_cons, List.filter_cons]
          cases row.references relation.column keys with
          | false => simpa using ih
          | true =>
              cases store.isLocked relation.childTable row.id with
              | false => simp [ih, Nat.add_right_comm]
              | true => simp [ih, Nat.add_assoc]

end Count

/-- Passes over the child table of a relation are answered: no failure is armed, and the table is
there. -/
structure Answers (store : Store) (relation : Relation) : Prop where
  unarmed : store.armed = none
  present : (store.table? relation.childTable).isSome

namespace Answers

variable {store : Store} {relation : Relation} (answers : store.Answers relation)
include answers

/-- Passes are answered after a pass too. -/
theorem afterPass {table : Table} (found : store.table? relation.childTable = some table)
    (kind : ModificationKind) (keys : List Int) (mode : LockMode) (limit : Int) :
    (store.afterPass kind relation mode table
      (table.selection relation.column keys mode limit)).Answers relation := by
  have evolves : store.Evolves Mandate.any (store.afterPass kind relation mode table
      (table.selection relation.column keys mode limit)) :=
    afterPass_evolves found (fun _ _ => trivial)
  refine ⟨answers.unarmed, ?_⟩
  rw [evolves.isSome_table?]
  exact answers.present

end Answers

end Store

namespace Table

variable (table : Table) (column : String) (keys : List Int) (mode : LockMode)

/-- A pass that waits may take whatever another one may take. -/
theorem eligible_sublist_blocking :
    (table.eligible column keys mode).Sublist (table.eligible column keys .blocking) := by
  rw [eligible_blocking]
  exact List.monotone_filter_right _ (fun row fits => (Bool.and_eq_true_iff.mp fits).1)

/-- A pass leaves so many rows fewer to passes that may take all that it took. -/
theorem length_eligible_apply_add (kind : ModificationKind) {mode' : LockMode} (limit : Int)
    (wider : (table.eligible column keys mode).Sublist (table.eligible column keys mode')) :
    ((table.apply kind column (table.selection column keys mode limit)).eligible column keys
        mode').length + (table.selection column keys mode limit).length
      = (table.eligible column keys mode').length := by
  have taken : ((table.eligible column keys mode).take limit.toNat).Sublist
      (table.eligible column keys mode') := (List.take_sublist _ _).trans wider
  rw [eligible_apply]
  unfold selection
  rw [List.length_map]
  apply length_filter_not_mem_add _ taken
  exact (List.filter_sublist.map _).nodup table.nodup_ids

end Table

/-- A pass takes the rows that it may take as far as its limit goes, and leaves so many fewer. -/
theorem Pass.exists_run_takes (pass : Pass) (parents : pass.parentIds ≠ []) {store : Store}
    (answers : store.Answers pass.relation) :
    let taken := min (store.takeable pass.relation pass.parentIds pass.lockMode) pass.limit.toNat
    ∃ after, pass.run Store.storage store = (.ok (pass.result taken), after) ∧
      after.Answers pass.relation ∧
      ∀ mode, mode = pass.lockMode ∨ mode = .blocking →
        after.takeable pass.relation pass.parentIds mode + taken
          = store.takeable pass.relation pass.parentIds mode := by
  obtain ⟨table, found⟩ := Option.isSome_iff_exists.mp answers.present
  have taken : (pass.selected table).length
      = min (store.takeable pass.relation pass.parentIds pass.lockMode) pass.limit.toNat :=
    Store.length_selection_of_table? _ found _ _
  rw [← taken]
  refine ⟨_, run_of_table? parents answers.unarmed found, answers.afterPass found _ _ _ _, ?_⟩
  intro mode covers
  have left : (pass.leaves store table).table? pass.relation.childTable
      = some (table.apply pass.relation.strategy.kind pass.relation.column
          (pass.selected table)) := Store.table?_afterPass_self _ _ _ _ _ _
  rw [Store.takeable_of_table? _ found, Store.takeable_of_table? _ left]
  apply table.length_eligible_apply_add
  rcases covers with rfl | rfl
  · exact List.Sublist.refl _
  · exact table.eligible_sublist_blocking _ _ _

end LooseKeys
