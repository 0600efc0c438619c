/-
Module: LooseKeys.Proofs.Batch
Purpose: What a batch holds that was loaded from the store in memory.
Main exports: Batch.LoadedFrom, Batch.ofRecords_loadedFrom, Batch.LoadedFrom.awaits,
  Batch.LoadedFrom.filter_markable, Batch.LoadedFrom.key_of_markable
-/
import LooseKeys.Proofs.Batch.Construction
import LooseKeys.Proofs.Store.Evolution

/-!
A load takes pending records from the front, so the range of their ids leaves out no pending
record in between.  Marking works by that range, and therefore marks records of the batch only.
-/

namespace LooseKeys

namespace Store

theorem mem_pendingOf {store : Store} {parentTable : String} {record : DeletedRecord} :
    record ∈ store.pendingOf parentTable ↔
      record ∈ store.log ∧ record.table = parentTable ∧ record.isPending := by
  simp [pendingOf]

theorem isMarkable_iff {parentTable : String} {firstId lastId : Int} {record : DeletedRecord} :
    isMarkable parentTable firstId lastId record ↔
      record.table = parentTable ∧ record.isPending ∧ firstId ≤ record.id ∧
        record.id ≤ lastId := by
  simp [isMarkable, and_assoc]

/-- A marking leaves no pending record in its range. -/
theorem not_isMarkable_of_mem_afterMark {store : Store} {parentTable : String}
    {firstId lastId : Int} {record : DeletedRecord}
    (member : record ∈ (store.afterMark parentTable firstId lastId).log) :
    ¬ isMarkable parentTable firstId lastId record := by
  obtain ⟨before, _, rfl⟩ := List.mem_map.mp member
  split
  · intro markable
    have pending := (isMarkable_iff.mp markable).2.1
    cases pending
  · rename_i unmarkable
    exact unmarkable

/-- A load that may take a record and finds none tells that none is pending. -/
theorem pendingOf_eq_nil_of_take {store : Store} {parentTable : String} {limit : Int}
    (positive : 0 < limit) (nothing : (store.pendingOf parentTable).take limit.toNat = []) :
    store.pendingOf parentTable = [] := by
  rcases List.take_eq_nil_iff.mp nothing with zero | empty
  · omega
  · exact empty

/-- Pending records stand in the order of their ids. -/
theorem pairwise_take_pendingOf (store : Store) (parentTable : String) (count : Nat) :
    ((store.pendingOf parentTable).take count).Pairwise
      (fun first second => first.id < second.id) :=
  (store.pairwise_log.filter _).sublist (List.take_sublist count _)

theorem pendingOf_of_log_eq {store later : Store} (same : later.log = store.log)
    (parentTable : String) : later.pendingOf parentTable = store.pendingOf parentTable := by
  rw [pendingOf, same, pendingOf]

end Store

namespace Batch

/-- The batch holds the first few pending records of its parent table, and at least one. -/
structure LoadedFrom (batch : Batch) (store : Store) : Prop where
  records : ∃ count, batch.records = (store.pendingOf batch.parentTable).take count
  nonempty : batch.records ≠ []

/-- Among pending records of a table there is none of another. -/
theorem find?_stray_eq_none (store : Store) (parentTable : String) (count : Nat) :
    ((store.pendingOf parentTable).take count).find? (fun record => record.table ≠ parentTable)
      = none := by
  apply List.find?_eq_none.mpr
  intro record member
  have pending := Store.mem_pendingOf.mp (List.mem_of_mem_take member)
  simp [pending.2.1]

theorem ofRecords_pendingOf_ne_error (store : Store) (parentTable : String) (count : Nat)
    (error : CleanupError) :
    ofRecords parentTable ((store.pendingOf parentTable).take count) ≠ .error error := by
  unfold ofRecords
  rw [find?_stray_eq_none]
  intro refused
  cases refused

/-- Loaded records are accepted as a batch, in the order of the log. -/
theorem ofRecords_loadedFrom {store : Store} (parentTable : String) {count : Nat}
    (nonempty : (store.pendingOf parentTable).take count ≠ []) :
    ∃ batch : Batch, ofRecords parentTable ((store.pendingOf parentTable).take count) = .ok batch ∧
      batch.parentTable = parentTable ∧ batch.LoadedFrom store := by
  have sorted := mergeSort_of_ascending (store.pairwise_take_pendingOf parentTable count)
  refine ⟨{ parentTable, records := (store.pendingOf parentTable).take count }, ?_, rfl,
    ⟨count, rfl⟩, nonempty⟩
  unfold ofRecords
  rw [find?_stray_eq_none, sorted]

theorem parentTable_of_ofRecords {parentTable : String} {records : List DeletedRecord}
    {batch : Batch} (made : ofRecords parentTable records = .ok batch) :
    batch.parentTable = parentTable := by
  unfold ofRecords at made
  split at made
  · cases made
  · cases made
    rfl

/-- A batch of loaded records holds them as they are. -/
theorem records_of_ofRecords {store : Store} {parentTable : String} {count : Nat} {batch : Batch}
    (made : ofRecords parentTable ((store.pendingOf parentTable).take count) = .ok batch) :
    batch.records = (store.pendingOf parentTable).take count := by
  unfold ofRecords at made
  split at made
  · cases made
  · cases made
    exact mergeSort_of_ascending (store.pairwise_take_pendingOf parentTable count)

namespace LoadedFrom

variable {batch : Batch} {store : Store} (loaded : batch.LoadedFrom store)
include loaded

theorem of_log_eq {later : Store} (same : later.log = store.log) : batch.LoadedFrom later := by
  obtain ⟨count, records⟩ := loaded.records
  refine ⟨⟨count, ?_⟩, loaded.nonempty⟩
  rw [records, Store.pendingOf_of_log_eq same]

/-- The records of the batch are pending records of its parent table. -/
theorem pending {record : DeletedRecord} (member : record ∈ batch.records) :
    record ∈ store.log ∧ record.table = batch.parentTable ∧ record.isPending := by
  obtain ⟨count, records⟩ := loaded.records
  rw [records] at member
  exact Store.mem_pendingOf.mp (List.mem_of_mem_take member)

/-- The store waits for the cleanup of every key of the batch. -/
theorem awaits {key : Int} (member : key ∈ batch.parentIds) :
    store.Awaits batch.parentTable key := by
  obtain ⟨record, ofBatch, rfl⟩ := mem_parentIds.mp member
  obtain ⟨ofLog, ofTable, pending⟩ := loaded.pending ofBatch
  exact ⟨record, ofLog, ofTable, pending, rfl⟩

theorem pairwise_records : batch.records.Pairwise (fun first second => first.id < second.id) := by
  obtain ⟨count, taken⟩ := loaded.records
  rw [taken]
  exact store.pairwise_take_pendingOf batch.parentTable count

/-- The first and the last id are those of records of the batch, in this order. -/
theorem idRange :
    ∃ first ∈ batch.records, ∃ last ∈ batch.records, first.id ≤ last.id ∧
      batch.idRange? = some (first.id, last.id) := by
  have ordered := loaded.pairwise_records
  cases records : batch.records with
  | nil => exact absurd records loaded.nonempty
  | cons first rest =>
      rw [records] at ordered
      have below := (List.pairwise_cons.mp ordered).1
      have ofBatch := List.getLast_mem (List.cons_ne_nil first rest)
      refine ⟨first, List.mem_cons_self, _, ofBatch, ?_, ?_⟩
      · rcases List.mem_cons.mp ofBatch with same | later
        · exact Int.le_of_eq (congrArg DeletedRecord.id same.symm)
        · exact Int.le_of_lt (below _ later)
      · simp [idRange?, first?, last?, records, List.getLast?_eq_some_getLast]

/-- The records of the batch are within its range of ids. -/
theorem mem_idRange {firstId lastId : Int}
    (range : batch.idRange? = some (firstId, lastId)) {record : DeletedRecord}
    (member : record ∈ batch.records) : firstId ≤ record.id ∧ record.id ≤ lastId := by
  have ordered := loaded.pairwise_records
  have last := List.getLast?_eq_some_getLast loaded.nonempty
  have first := List.head?_eq_some_head loaded.nonempty
  simp only [idRange?, first?, last?, first, last, Option.some.injEq, Prod.mk.injEq] at range
  obtain ⟨rfl, rfl⟩ := range
  constructor
  · rw [← List.cons_head_tail loaded.nonempty] at ordered member
    rcases List.mem_cons.mp member with same | later
    · exact Int.le_of_eq (congrArg DeletedRecord.id same.symm)
    · exact Int.le_of_lt ((List.pairwise_cons.mp ordered).1 record later)
  · rw [← List.dropLast_append_getLast loaded.nonempty] at ordered member
    rcases List.mem_append.mp member with earlier | same
    · exact Int.le_of_lt
        ((List.pairwise_append.mp ordered).2.2 record earlier _ List.mem_cons_self)
    · exact Int.le_of_eq (congrArg DeletedRecord.id (List.mem_singleton.mp same))

/-- What is marked with the batch are its records, in their order. -/
theorem filter_markable {firstId lastId : Int}
    (range : batch.idRange? = some (firstId, lastId)) :
    store.log.filter (Store.isMarkable batch.parentTable firstId lastId) = batch.records := by
  obtain ⟨count, taken⟩ := loaded.records
  have pending : store.log.filter (Store.isMarkable batch.parentTable firstId lastId)
      = (store.pendingOf batch.parentTable).filter
        (fun record => firstId ≤ record.id && record.id ≤ lastId) := by
    unfold Store.pendingOf
    rw [List.filter_filter]
    apply List.filter_congr
    intro record _
    simp only [Store.isMarkable, Bool.and_assoc, Bool.and_comm, Bool.and_left_comm]
  have early : ∀ record ∈ (store.pendingOf batch.parentTable).take count,
      (decide (firstId ≤ record.id) && decide (record.id ≤ lastId)) = true := by
    intro record member
    rw [← taken] at member
    simpa using loaded.mem_idRange range member
  have late : ∀ record ∈ (store.pendingOf batch.parentTable).drop count,
      ¬ (decide (firstId ≤ record.id) && decide (record.id ≤ lastId)) = true := by
    intro record member within
    obtain ⟨_, _, last, ofBatch, _, found⟩ := loaded.idRange
    rw [found] at range
    cases range
    rw [taken] at ofBatch
    have beyond := lt_of_mem_drop (store.pairwise_log.filter _) ofBatch member
    simp only [Bool.and_eq_true, decide_eq_true_eq] at within
    omega
  rw [pending, ← List.take_append_drop count (store.pendingOf batch.parentTable),
    List.filter_append, List.filter_eq_self.mpr early, List.filter_eq_nil_iff.mpr late,
    List.append_nil, taken]

/-- Every record that is marked with the batch has its key in the batch. -/
theorem key_of_markable {firstId lastId : Int}
    (range : batch.idRange? = some (firstId, lastId)) {record : DeletedRecord}
    (member : record ∈ store.log)
    (markable : Store.isMarkable batch.parentTable firstId lastId record) :
    record.primaryKey ∈ batch.parentIds := by
  have ofBatch : record ∈ batch.records := by
    rw [← loaded.filter_markable range]
    exact List.mem_filter.mpr ⟨member, markable⟩
  exact mem_parentIds.mpr ⟨record, ofBatch, rfl⟩

/-- At least one record is marked with the batch. -/
theorem exists_markable {firstId lastId : Int}
    (range : batch.idRange? = some (firstId, lastId)) :
    ∃ record ∈ store.log, Store.isMarkable batch.parentTable firstId lastId record := by
  obtain ⟨record, ofBatch⟩ := List.exists_mem_of_ne_nil batch.records loaded.nonempty
  rw [← loaded.filter_markable range] at ofBatch
  exact ⟨record, List.mem_filter.mp ofBatch⟩

end LoadedFrom

end Batch

end LooseKeys
