/-
Module: LooseKeys.Proofs.Contiguity
Purpose: Which records the cleanup of a batch marks, however the batch was put together.
Main exports: Batch.IsContiguous, Batch.LoadedFrom.isContiguous, Cleanup.Marks, cleanBatch_marks,
  Batch.marked_records_are_members
-/
import LooseKeys.Proofs.Batch
import LooseKeys.Proofs.Cleanup.Effects
import LooseKeys.Proofs.Finalization
import LooseKeys.Proofs.Store.Held
import Mathlib

/-!
A batch may be made of any records of one parent table, but it stands for a run of pending ones:
its first and last id are all that the marking is told.  So what is marked are the pending records
of the table within that range, whether they are of the batch or not, and the children of those
that are not were never looked for.  A batch that leaves out no pending record of its range marks
its own records only; a batch that was loaded from the log is one of these.
-/

namespace LooseKeys

variable {ω : Type}

namespace Batch

/-- The pending records of the table between the first and the last id are all of the batch. -/
def IsContiguous (batch : Batch) (store : Store) : Prop :=
  ∀ firstId lastId, batch.idRange? = some (firstId, lastId) → ∀ record ∈ store.log,
    Store.isMarkable batch.parentTable firstId lastId record → record ∈ batch.records

/-- A load leaves no pending record out. -/
theorem LoadedFrom.isContiguous {batch : Batch} {store : Store}
    (loaded : batch.LoadedFrom store) : batch.IsContiguous store := by
  intro firstId lastId range record member markable
  rw [← loaded.filter_markable range]
  exact List.mem_filter.mpr ⟨member, markable⟩

/-- So does a load of nothing at all. -/
theorem isContiguous_of_ofRecords {store : Store} {parentTable : String} {count : Nat}
    {batch : Batch}
    (made : ofRecords parentTable ((store.pendingOf parentTable).take count) = .ok batch) :
    batch.IsContiguous store := by
  by_cases nothing : (store.pendingOf parentTable).take count = []
  · intro firstId lastId range
    have noRange := (madeOf_of_ofRecords made).noRange.mpr nothing
    rw [noRange] at range
    cases range
  · obtain ⟨_, same, _, loaded⟩ := ofRecords_loadedFrom parentTable nothing
    rw [made] at same
    cases same
    exact loaded.isContiguous

end Batch

/-- The cleanup answered that the records of the batch have been marked. -/
def Reply.Finalizes {σ : Type} (reply : Reply σ BatchOutcome) : Prop :=
  ∃ outcome, reply.1 = .ok outcome ∧ outcome.finalized = true

/-- What the cleanup of a batch does to the log: nothing, or it marks the range of the batch once
every relation was exhausted. -/
inductive Cleanup.Marks (cleanup : Cleanup Store ω) (relations : List Relation)
    (run : Run Store ω) (reply : Reply (Run Store ω) BatchOutcome) : Prop where
  | nothing (log : reply.2.state.log = run.state.log) (left : ¬ reply.Finalizes)
  | range {firstId lastId : Int} {before : Run Store ω}
      (range : cleanup.batch.idRange? = some (firstId, lastId))
      (steps : Steps cleanup relations run before)
      (exhausted : ∀ relation ∈ relations, Exhausts cleanup relations relation run before)
      (marked : reply.2.state = before.state.afterMark cleanup.batch.parentTable firstId lastId)
      (finalizes : reply.Finalizes)

theorem Reply.not_finalizes_of_pending {σ : Type} {outcome : BatchOutcome} {after : σ}
    (pending : outcome.finalized = false) :
    ¬ Reply.Finalizes (.ok outcome, after) := by
  rintro ⟨_, same, finalized⟩
  cases same
  rw [pending] at finalized
  cases finalized

theorem Reply.not_finalizes_of_error {σ : Type} {error : CleanupError} {after : σ} :
    ¬ Reply.Finalizes (.error error, after) := by
  rintro ⟨_, same, _⟩
  cases same

theorem cleanBatch_marks {cleanup : Cleanup Store ω} (onStore : cleanup.storage = Store.storage)
    (registry : Registry) (run : Run Store ω) :
    cleanup.Marks (registry.relationsFor cleanup.batch.parentTable) run
      (cleanBatch cleanup registry run) := by
  have ends : Cleanup.BatchEnds cleanup (registry.relationsFor cleanup.batch.parentTable) run
      (cleanBatch cleanup registry run) := cleanBatch_ends registry run
  generalize cleanBatch cleanup registry run = reply at ends ⊢
  cases ends with
  | empty nothing pending => exact .nothing rfl (Reply.not_finalizes_of_pending pending)
  | @failed before relation mode error after declared earlier refused =>
      have steps : Cleanup.Steps cleanup (registry.relationsFor cleanup.batch.parentTable) run
          { before with state := after } := earlier.tail (.failed declared refused)
      exact .nothing (steps.log_eq onStore) Reply.not_finalizes_of_error
  | left steps pending cause =>
      exact .nothing (steps.log_eq onStore) (Reply.not_finalizes_of_pending pending)
  | @unmarked before firstId lastId error after range steps exhausted refused =>
      refine .nothing ?_ Reply.not_finalizes_of_error
      rw [onStore] at refused
      have same : after = before.state.disarmed := (Store.storage_holds.mark_error refused).1
      rw [← steps.log_eq onStore, same, Store.log_disarmed]
  | @marked before firstId lastId count after outcome range steps exhausted answered finalized
      within =>
      rw [onStore] at answered
      exact .range range steps exhausted (Store.storage_holds.mark_ok answered).2
        ⟨outcome, rfl, finalized⟩

section Marks

variable {cleanup : Cleanup Store ω} {relations : List Relation} {run : Run Store ω}
  {reply : Reply (Run Store ω) BatchOutcome} (onStore : cleanup.storage = Store.storage)
  (marks : cleanup.Marks relations run reply)
include onStore marks

/-- A pending record is processed afterwards exactly when the cleanup finalizes and the record is
one of the table within the range of the batch. -/
theorem Cleanup.Marks.processed_mem_iff {record : DeletedRecord}
    (member : record ∈ run.state.log) (pending : record.isPending) :
    record.processed ∈ reply.2.state.log ↔
      reply.Finalizes ∧ ∃ firstId lastId, cleanup.batch.idRange? = some (firstId, lastId) ∧
        Store.isMarkable cleanup.batch.parentTable firstId lastId record := by
  cases marks with
  | nothing log left =>
      rw [log]
      constructor
      · exact fun marked => absurd marked (Store.processed_not_mem member pending)
      · exact fun finalizes => absurd finalizes.1 left
  | @range firstId lastId before range steps exhausted marked finalizes =>
      have log := steps.log_eq onStore
      rw [← log] at member
      rw [marked, Store.processed_mem_afterMark_iff member pending]
      constructor
      · exact fun markable => ⟨finalizes, firstId, lastId, range, markable⟩
      · rintro ⟨_, _, _, same, markable⟩
        rw [range] at same
        cases same
        exact markable

/-- What a contiguous batch marks are records of its own, without child rows. -/
theorem Cleanup.Marks.member_of_contiguous
    (accepted : cleanup.settings.validate = .ok cleanup.settings)
    (contiguous : cleanup.batch.IsContiguous run.state) {record : DeletedRecord}
    (member : record ∈ run.state.log) (pending : record.isPending)
    (processed : record.processed ∈ reply.2.state.log) :
    record ∈ cleanup.batch.records ∧
      ∀ relation ∈ relations, reply.2.state.IsClear relation record.primaryKey := by
  obtain ⟨finalizes, firstId, lastId, range, markable⟩ :=
    (marks.processed_mem_iff onStore member pending).mp processed
  have ofBatch := contiguous firstId lastId range record member markable
  refine ⟨ofBatch, ?_⟩
  intro relation declared
  cases marks with
  | nothing log left => exact absurd finalizes left
  | range range steps exhausted marked _ =>
      have key : record.primaryKey ∈ cleanup.batch.parentIds :=
        Batch.mem_parentIds.mpr ⟨record, ofBatch, rfl⟩
      have clear := (exhausted relation declared).isClear onStore accepted _ key
      rw [marked]
      exact clear

end Marks

/-- However a batch was put together, its cleanup changes the status of the pending records of its
table from its first to its last id, when it finalizes, and of no others.  When the batch leaves
out none of these, and a batch of loaded records does not, each of them is of the batch and has no
child row left. -/
theorem Batch.marked_records_are_members (store : Store) {settings : Settings}
    (accepted : settings.validate = .ok settings) (registry : Registry) {parentTable : String}
    {records : List DeletedRecord} {batch : Batch}
    (made : Batch.ofRecords parentTable records = .ok batch) (observer : Observer Store ω)
    (budget : Budget) (notes : ω) :
    let reply := cleanBatch ⟨Store.storage, observer, settings, batch⟩ registry
      ⟨store, budget, notes⟩
    (∀ record ∈ store.log, record.isPending →
      (record.processed ∈ reply.2.state.log ↔ reply.Finalizes ∧
        ∃ firstId lastId, batch.idRange? = some (firstId, lastId) ∧
          Store.isMarkable parentTable firstId lastId record)) ∧
    (batch.IsContiguous store → ∀ record ∈ store.log, record.isPending →
      record.processed ∈ reply.2.state.log → record ∈ batch.records ∧
        ∀ relation ∈ registry.relationsFor parentTable,
          reply.2.state.IsClear relation record.primaryKey) ∧
    ((∃ count, records = (store.pendingOf parentTable).take count) →
      batch.IsContiguous store) := by
  cases Batch.parentTable_of_ofRecords made
  let cleanup : Cleanup Store ω := ⟨Store.storage, observer, settings, batch⟩
  have onStore : cleanup.storage = Store.storage := rfl
  have marks := cleanBatch_marks onStore registry ⟨store, budget, notes⟩
  refine ⟨?_, ?_, ?_⟩
  · exact fun record member pending => marks.processed_mem_iff onStore member pending
  · intro contiguous record member pending processed
    exact marks.member_of_contiguous onStore accepted contiguous member pending processed
  · rintro ⟨count, rfl⟩
    exact Batch.isContiguous_of_ofRecords made

namespace Sample

/-! Three deleted parents, a child row of the second, and a batch of the first and the third. -/

def thrice : Store :=
  let once := (Store.empty.recordDeletion "users" 1 default).2
  let twice := (once.recordDeletion "users" 2 default).2
  let thrice := (twice.recordDeletion "users" 3 default).2
  (thrice.insertRow "posts" [("user_id", some 2)]).2

def recordOf (id primaryKey : Int) : DeletedRecord := { record with id, primaryKey }

def outer : Batch := { parentTable := "public.users", records := [recordOf 1 1, recordOf 3 3] }

def whole : Batch := { parentTable := "public.users", records := thrice.log }

end Sample

/-- The batch of the first and the third record leaves the second one out, whose child row stays,
and yet the second record is marked with them. -/
theorem Batch.record_between_is_marked :
    let after := (cleanBatch ⟨Store.storage, .silent, {}, Sample.outer⟩ Sample.registry
      ⟨Sample.thrice, .ofCeiling 100, ()⟩).2.state
    Registry.ofList [Sample.relation] = .ok Sample.registry ∧ Settings.validate {} = .ok {} ∧
      (∀ record ∈ Sample.outer.records, record ∈ Sample.thrice.log) ∧
      Batch.ofRecords "public.users" Sample.outer.records = .ok Sample.outer ∧
      ∃ record ∈ Sample.thrice.log, record.isPending ∧ record.processed ∈ after.log ∧
        record ∉ Sample.outer.records ∧
        ∃ row ∈ after.rowsOf "posts", row.value? "user_id" = some record.primaryKey := by
  refine ⟨rfl, rfl, by decide +kernel, by cbv, Sample.recordOf 2 2, by decide +kernel, rfl, ?_,
    by decide +kernel, { id := 1, columns := .ofList [("user_id", 2)] }, ?_, rfl⟩
  · decide_cbv
  · decide_cbv

/-- The batch of all three records marks the second one too, and leaves no child row of it. -/
theorem Batch.marked_record_is_member_in_sample :
    let after := (cleanBatch ⟨Store.storage, .silent, {}, Sample.whole⟩ Sample.registry
      ⟨Sample.thrice, .ofCeiling 100, ()⟩).2.state
    (Sample.recordOf 2 2).processed ∈ after.log ∧ Sample.recordOf 2 2 ∈ Sample.whole.records ∧
      after.IsClear Sample.relation 2 := by
  have made : Batch.ofRecords "public.users" Sample.whole.records = .ok Sample.whole := by cbv
  obtain ⟨_, members, loaded⟩ := Batch.marked_records_are_members Sample.thrice
    (by rfl : Settings.validate {} = .ok {}) Sample.registry made .silent (.ofCeiling 100) ()
  have processed : (Sample.recordOf 2 2).processed ∈
      (cleanBatch ⟨Store.storage, .silent, {}, Sample.whole⟩ Sample.registry
        ⟨Sample.thrice, .ofCeiling 100, ()⟩).2.state.log := by decide_cbv
  obtain ⟨member, clear⟩ := members (loaded ⟨3, by decide +kernel⟩) (Sample.recordOf 2 2)
    (by decide +kernel) rfl processed
  exact ⟨processed, member, clear Sample.relation (by decide +kernel)⟩

end LooseKeys
