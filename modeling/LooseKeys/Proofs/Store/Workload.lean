/-
Module: LooseKeys.Proofs.Store.Workload
Purpose: How much work the store in memory still holds for a registry, and what a pass and a
  marking take off it.
Main exports: Store.pendingKeys, Store.pendingCount, Store.referenceCount, Store.workload,
  Table.countP_apply_add_le, Pass.referenceCount_run_add_le, Store.Evolves.referenceCount_le,
  Store.pendingCount_markProcessed_lt
-/
import LooseKeys.Proofs.Batch
import LooseKeys.Proofs.Registry
import Mathlib.Algebra.Order.BigOperators.Group.List
import Mathlib.Algebra.Order.Ring.Nat

/-!
The work is counted in pairs of a child row and a relation that finds a key of a pending record
in it, and in pending records.  A cleanup never adds to either count.  A pass takes off at least
as many pairs as rows that it affects, and a marking at least one record.
-/

namespace LooseKeys

/-- When a number falls for one member and rises for none, the sum falls. -/
theorem sum_map_add_le {α : Type} {later before : α → Nat} {list : List α} {x : α} {count : Nat}
    (member : x ∈ list) (less : later x + count ≤ before x)
    (le : ∀ y ∈ list, later y ≤ before y) :
    (list.map later).sum + count ≤ (list.map before).sum := by
  obtain ⟨front, back, rfl⟩ := List.append_of_mem member
  obtain ⟨leFront, leOthers⟩ := List.forall_mem_append.mp le
  have ofFront := List.sum_le_sum leFront
  have ofBack := List.sum_le_sum (List.forall_mem_cons.mp leOthers).2
  simp only [List.map_append, List.sum_append, List.map_cons, List.sum_cons]
  omega

/-- A stricter test that one member fails lets fewer members through. -/
theorem countP_lt_of_mem {α : Type} {stricter test : α → Bool} {list : List α} {x : α}
    (member : x ∈ list) (fails : ¬ stricter x) (holds : test x)
    (weaker : ∀ y ∈ list, stricter y → test y) : list.countP stricter < list.countP test := by
  induction list with
  | nil => cases member
  | cons first rest ih =>
      have others := fun y ofRest => weaker y (List.mem_cons_of_mem first ofRest)
      rcases List.mem_cons.mp member with rfl | ofRest
      · rw [List.countP_cons_of_neg fails, List.countP_cons_of_pos holds]
        exact Nat.lt_succ_of_le (List.countP_mono_left others)
      · have tail := ih ofRest others
        have here := weaker first List.mem_cons_self
        rw [List.countP_cons, List.countP_cons]
        by_cases passes : stricter first
        · simp [passes, here passes, tail]
        · simp only [passes]
          exact Nat.lt_add_right _ tail

namespace Row

/-- A later row references no key that the row did not reference. -/
theorem Evolves.references_before {may : String → Int → Prop} {before after : Row}
    (evolves : before.Evolves may after) {column : String} {fewer keys : List Int}
    (within : ∀ key ∈ fewer, key ∈ keys) (references : after.references column fewer) :
    before.references column keys := by
  obtain ⟨key, member, holds⟩ := references_iff.mp references
  exact references_iff.mpr ⟨key, within key member, evolves.value?_before holds⟩

end Row

/-- Later on, no more rows reference a key. -/
theorem RowsEvolve.countP_references_le {may : ModificationKind → String → Int → Prop}
    {before after : List Row} (evolve : RowsEvolve may before after) {column : String}
    {fewer keys : List Int} (within : ∀ key ∈ fewer, key ∈ keys) :
    after.countP (·.references column fewer) ≤ before.countP (·.references column keys) := by
  induction evolve with
  | nil => exact Nat.le_refl 0
  | gone _ _ _ _ _ ih =>
      rw [List.countP_cons]
      exact Nat.le_add_right_of_le ih
  | @kept row later before after evolves _ ih =>
      rw [List.countP_cons, List.countP_cons]
      apply Nat.add_le_add ih
      by_cases references : later.references column fewer
      · have held := evolves.references_before within references
        simp [references, held]
      · simp [references]

namespace Table

/-- After a pass only rows that it did not select reference a key. -/
theorem countP_apply_le (table : Table) (kind : ModificationKind) (column : String)
    (keys selection : List Int) :
    (table.apply kind column selection).rows.countP (·.references column keys)
      ≤ (table.rows.filter (·.id ∉ selection)).countP (·.references column keys) := by
  cases kind with
  | deletion => exact Nat.le_refl _
  | update =>
      change (table.rows.map _).countP _ ≤ _
      rw [List.countP_map, List.countP_filter]
      apply List.countP_mono_left
      intro row _ references
      by_cases ofSelection : row.id ∈ selection
      · simp [ofSelection] at references
      · simpa [ofSelection] using references

/-- The rows that a pass selects all reference a key. -/
theorem length_selection_le (table : Table) {column : String} {parentIds keys selection : List Int}
    {mode : LockMode} {limit : Int}
    (selected : table.selection column parentIds mode limit = selection)
    (within : ∀ key ∈ parentIds, key ∈ keys) :
    selection.length
      ≤ (table.rows.filter (·.id ∈ selection)).countP (·.references column keys) := by
  let rows := (table.eligible column parentIds mode).take limit.toNat
  have ids : rows.map (·.id) = selection := selected
  have ofTable : rows.Sublist table.rows := (List.take_sublist _ _).trans List.filter_sublist
  have chosen : rows.filter (·.id ∈ selection) = rows := by
    apply List.filter_eq_self.mpr
    intro row member
    rw [← ids]
    exact decide_eq_true (List.mem_map_of_mem member)
  have reference : rows.countP (·.references column keys) = rows.length := by
    apply List.countP_eq_length.mpr
    intro row member
    obtain ⟨key, ofParent, holds⟩ :=
      Row.references_iff.mp (mem_eligible (List.mem_of_mem_take member)).2
    exact Row.references_iff.mpr ⟨key, within key ofParent, holds⟩
  calc selection.length = rows.length := by rw [← ids, List.length_map]
    _ = rows.countP (·.references column keys) := reference.symm
    _ = (rows.filter (·.id ∈ selection)).countP (·.references column keys) := by rw [chosen]
    _ ≤ (table.rows.filter (·.id ∈ selection)).countP (·.references column keys) :=
      (ofTable.filter _).countP_le

/-- A pass takes off as many rows that reference a key as it selects. -/
theorem countP_apply_add_le (table : Table) (kind : ModificationKind) {column : String}
    {parentIds keys : List Int} {mode : LockMode} {limit : Int}
    (within : ∀ key ∈ parentIds, key ∈ keys) :
    (table.apply kind column (table.selection column parentIds mode limit)).rows.countP
        (·.references column keys) + (table.selection column parentIds mode limit).length
      ≤ table.rows.countP (·.references column keys) := by
  generalize selected : table.selection column parentIds mode limit = selection
  have others := table.countP_apply_le kind column keys selection
  have taken := table.length_selection_le selected within
  have split := List.countP_eq_countP_filter_add table.rows (·.references column keys)
    (·.id ∈ selection)
  simp only [decide_not] at others split ⊢
  omega

end Table

namespace Store

/-- The keys of the pending records of a parent table. -/
def pendingKeys (store : Store) (parentTable : String) : List Int :=
  (store.pendingOf parentTable).map (·.primaryKey)

/-- The number of pending records of the parent tables of a registry. -/
def pendingCount (store : Store) (registry : Registry) : Nat :=
  store.log.countP (fun record => record.isPending && record.table ∈ registry.parentTables)

/-- The number of child rows in which a relation finds the key of a pending record of its parent
table, over all relations. -/
def referenceCount (store : Store) (registry : Registry) : Nat :=
  (registry.relations.map (fun relation => (store.rowsOf relation.childTable).countP
    (·.references relation.column (store.pendingKeys relation.parentTable)))).sum

/-- What is left to be done under a registry. -/
def workload (store : Store) (registry : Registry) : Nat :=
  store.referenceCount registry + store.pendingCount registry

theorem mem_pendingKeys {store : Store} {parentTable : String} {key : Int} :
    key ∈ store.pendingKeys parentTable ↔ store.Awaits parentTable key := by
  unfold pendingKeys Awaits
  simp only [List.mem_map, mem_pendingOf, and_assoc]

theorem Evolves.pendingKeys_subset {mandate : Mandate} {before after : Store}
    (evolves : before.Evolves mandate after) (parentTable : String) :
    ∀ key ∈ after.pendingKeys parentTable, key ∈ before.pendingKeys parentTable :=
  fun _ member => mem_pendingKeys.mpr (evolves.awaits_before (mem_pendingKeys.mp member))

/-- Nothing is counted exactly when no parent table has a pending record. -/
theorem pendingCount_eq_zero_iff {store : Store} {registry : Registry} :
    store.pendingCount registry = 0 ↔
      ∀ record ∈ store.log, record.isPending → record.table ∉ registry.parentTables := by
  unfold pendingCount
  simp only [List.countP_eq_zero, Bool.and_eq_true, decide_eq_true_eq, not_and]

/-- No record becomes pending. -/
theorem Evolves.pendingCount_eq_zero {mandate : Mandate} {before after : Store}
    (evolves : before.Evolves mandate after) {registry : Registry}
    (idle : before.pendingCount registry = 0) : after.pendingCount registry = 0 := by
  rw [pendingCount_eq_zero_iff] at idle ⊢
  intro record member pending
  exact idle record (evolves.mem_log_before member pending) pending

/-- Nothing is added to the references. -/
theorem Evolves.referenceCount_le {mandate : Mandate} {before after : Store}
    (evolves : before.Evolves mandate after) (registry : Registry) :
    after.referenceCount registry ≤ before.referenceCount registry :=
  List.sum_le_sum (fun relation _ => (evolves.rows relation.childTable).countP_references_le
    (evolves.pendingKeys_subset relation.parentTable))

end Store

/-- A pass for keys that are awaited takes off as many references as rows that it affects. -/
theorem Pass.referenceCount_run_add_le {pass : Pass} {registry : Registry}
    (declared : pass.relation ∈ registry.relations) {store after : Store}
    (awaited : ∀ key ∈ pass.parentIds, store.Awaits pass.relation.parentTable key)
    {result : PassResult} (answered : pass.run Store.storage store = (.ok result, after)) :
    after.referenceCount registry + result.affectedRows ≤ store.referenceCount registry := by
  have evolves := pass.evolves_any store
  rw [answered] at evolves
  rcases cases_of_run_ok answered with ⟨_, rfl, rfl⟩ | ⟨table, _, _, found, rfl, rfl⟩
  · exact Nat.le_refl _
  · refine sum_map_add_le declared ?_ ?_
    · have keys : (pass.leaves store table).pendingKeys pass.relation.parentTable
          = store.pendingKeys pass.relation.parentTable := rfl
      have within : ∀ key ∈ pass.parentIds,
          key ∈ store.pendingKeys pass.relation.parentTable :=
        fun key member => Store.mem_pendingKeys.mpr (awaited key member)
      simp only [keys]
      rw [leaves, Store.rowsOf_afterPass_self, Store.rowsOf_of_table? found]
      exact table.countP_apply_add_le pass.relation.strategy.kind within
    · intro relation _
      exact (evolves.rows relation.childTable).countP_references_le
        (evolves.pendingKeys_subset relation.parentTable)

namespace Store

/-- Marking takes off at least one record of a parent table when it finds one. -/
theorem pendingCount_markProcessed_lt {store : Store} {registry : Registry}
    {parentTable : String} (listed : parentTable ∈ registry.parentTables) {firstId lastId : Int}
    (found : ∃ record ∈ store.log, isMarkable parentTable firstId lastId record) :
    (store.afterMark parentTable firstId lastId).pendingCount registry
      < store.pendingCount registry := by
  obtain ⟨record, member, markable⟩ := found
  obtain ⟨ofTable, pending, _, _⟩ := isMarkable_iff.mp markable
  unfold pendingCount
  rw [log_afterMark_eq_map, List.countP_map]
  apply countP_lt_of_mem member
  · simp [markable, DeletedRecord.isPending]
  · simp [pending, ofTable, listed]
  · intro other _ counted
    by_cases marks : isMarkable parentTable firstId lastId other
    · simp [marks, DeletedRecord.isPending] at counted
    · simpa [marks] using counted

end Store

end LooseKeys
