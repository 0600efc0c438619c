/-
Module: LooseKeys.Proofs.Batch.Construction
Purpose: Which records make a batch, and what the batch tells of them.
Main exports: Batch.ofRecords_eq_ok_iff, Batch.ofRecords_of_stray, Batch.MadeOf,
  Batch.MadeOf.idRange?_congr, Batch.ofRecords_makes
-/
import LooseKeys.Batch
import LooseKeys.Proofs.Sorting
import Mathlib.Order.Bounds.Basic

/-!
The range of a batch is read off its first and last record, and its keys are gathered without
repetition.  Both are worth something only because the records were sorted first: then the range
spans all ids, and it depends on the records alone, as the keys do, and not on the order in which
they came.
-/

namespace LooseKeys.Batch

variable {parentTable : String} {records others : List DeletedRecord} {batch other : Batch}

/-! ### Acceptance -/

/-- A batch is made exactly of records of its own table, which it sorts. -/
theorem ofRecords_eq_ok_iff : ofRecords parentTable records = .ok batch ↔
    (∀ record ∈ records, record.table = parentTable) ∧
      batch = { parentTable, records := records.mergeSort (fun x y => x.id ≤ y.id) } := by
  unfold ofRecords
  cases search : records.find? (fun record => record.table ≠ parentTable) with
  | none =>
      have own : ∀ record ∈ records, record.table = parentTable := by
        simpa using List.find?_eq_none.mp search
      constructor
      · intro made
        cases made
        exact ⟨own, rfl⟩
      · rintro ⟨_, rfl⟩
        rfl
  | some stray =>
      have strays : stray.table ≠ parentTable := by simpa using List.find?_some search
      constructor
      · intro made
        cases made
      · rintro ⟨own, _⟩
        exact absurd (own stray (List.mem_of_find?_eq_some search)) strays

/-- A refusal names the first record of another table. -/
theorem ofRecords_of_stray {before after : List DeletedRecord} {stray : DeletedRecord}
    (own : ∀ record ∈ before, record.table = parentTable) (strays : stray.table ≠ parentTable) :
    ofRecords parentTable (before ++ stray :: after) =
      .error (.invalidInput (.strayRecord stray.id stray.table parentTable)) := by
  have first : (before ++ stray :: after).find? (fun record => record.table ≠ parentTable)
      = some stray := by
    apply List.find?_eq_some_iff_append.mpr
    exact ⟨by simpa using strays, before, after, rfl, by simpa using own⟩
  unfold ofRecords
  rw [first]

/-! ### What the batch tells -/

/-- Neither sorting the keys nor leaving out repeated ones loses a key. -/
theorem mem_parentIds {key : Int} :
    key ∈ batch.parentIds ↔ ∃ record ∈ batch.records, record.primaryKey = key := by
  unfold parentIds
  rw [mem_eraseReps, List.mem_mergeSort, List.mem_map]

/-- The keys are sorted before repeated neighbours are left out, so each is there once. -/
theorem pairwise_parentIds (batch : Batch) : batch.parentIds.Pairwise (· < ·) :=
  pairwise_eraseReps (pairwise_mergeSort _)

/-- The ids of some records. -/
def idsOf (records : List DeletedRecord) : Set Int := {id | ∃ record ∈ records, record.id = id}

/-- The batch is the stable sort of the records by their ids; its range goes from the least id to
the greatest, and its keys are those of the records, each once. -/
structure MadeOf (batch : Batch) (parentTable : String) (records : List DeletedRecord) : Prop where
  parentTable : batch.parentTable = parentTable
  perm : batch.records.Perm records
  ascends : batch.records.Pairwise (fun first second => first.id ≤ second.id)
  ties : ∀ id, batch.records.filter (·.id = id) = records.filter (·.id = id)
  noRange : batch.idRange? = none ↔ records = []
  range : ∀ least greatest, batch.idRange? = some (least, greatest) ↔
    IsLeast (idsOf records) least ∧ IsGreatest (idsOf records) greatest
  keysAscend : batch.parentIds.Pairwise (· < ·)
  keys : ∀ key, key ∈ batch.parentIds ↔ ∃ record ∈ records, record.primaryKey = key

theorem idsOf_congr (perm : others.Perm records) : idsOf others = idsOf records := by
  ext id
  constructor
  · rintro ⟨record, member, same⟩
    exact ⟨record, perm.mem_iff.mp member, same⟩
  · rintro ⟨record, member, same⟩
    exact ⟨record, perm.mem_iff.mpr member, same⟩

theorem idRange?_eq_none_iff : batch.idRange? = none ↔ batch.records = [] := by
  unfold idRange? first? last?
  cases records : batch.records with
  | nil => simp
  | cons first rest => simp [List.getLast?_eq_some_getLast]

/-- The range of sorted records goes from the least id to the greatest. -/
theorem idRange?_bounds
    (ascends : batch.records.Pairwise (fun first second => first.id ≤ second.id))
    {least greatest : Int} (range : batch.idRange? = some (least, greatest)) :
    IsLeast (idsOf batch.records) least ∧ IsGreatest (idsOf batch.records) greatest := by
  unfold idRange? first? last? at range
  split at range
  · rename_i first last isFirst isLast
    cases range
    obtain ⟨rest, records⟩ := List.head?_eq_some_iff.mp isFirst
    obtain ⟨front, records'⟩ := List.getLast?_eq_some_iff.mp isLast
    refine ⟨⟨⟨first, List.mem_of_head? isFirst, rfl⟩, ?_⟩,
      ⟨⟨last, List.mem_of_getLast? isLast, rfl⟩, ?_⟩⟩
    · rintro _ ⟨record, member, rfl⟩
      rw [records] at ascends member
      rcases List.mem_cons.mp member with rfl | later
      · exact Int.le_refl _
      · exact (List.pairwise_cons.mp ascends).1 record later
    · rintro _ ⟨record, member, rfl⟩
      rw [records'] at ascends member
      rcases List.mem_append.mp member with earlier | same
      · exact (List.pairwise_append.mp ascends).2.2 record earlier last List.mem_cons_self
      · rw [List.mem_singleton.mp same]
  · cases range

/-- No other numbers are the least and the greatest id. -/
theorem idRange?_eq_some_iff
    (ascends : batch.records.Pairwise (fun first second => first.id ≤ second.id))
    {least greatest : Int} : batch.idRange? = some (least, greatest) ↔
      IsLeast (idsOf batch.records) least ∧ IsGreatest (idsOf batch.records) greatest := by
  constructor
  · exact idRange?_bounds ascends
  · rintro ⟨isLeast, isGreatest⟩
    cases range : batch.idRange? with
    | none =>
        obtain ⟨record, member, _⟩ := isLeast.1
        rw [idRange?_eq_none_iff.mp range] at member
        cases member
    | some ids =>
        obtain ⟨isLeast', isGreatest'⟩ := idRange?_bounds ascends range
        rw [isLeast.unique isLeast', isGreatest.unique isGreatest']

/-- What is accepted as a batch is made of the records. -/
theorem madeOf_of_ofRecords (made : ofRecords parentTable records = .ok batch) :
    batch.MadeOf parentTable records := by
  obtain ⟨_, rfl⟩ := ofRecords_eq_ok_iff.mp made
  have perm := records.mergeSort_perm (fun x y => x.id ≤ y.id)
  have ascends : (records.mergeSort (fun x y => x.id ≤ y.id)).Pairwise
      (fun first second => first.id ≤ second.id) := pairwise_mergeSort records
  constructor
  · rfl
  · exact perm
  · exact ascends
  · exact filter_mergeSort records
  · rw [idRange?_eq_none_iff]
    constructor
    · intro nothing
      exact List.perm_nil.mp (perm.symm.trans (List.Perm.of_eq nothing))
    · rintro rfl
      exact List.mergeSort_nil
  · intro least greatest
    rw [idRange?_eq_some_iff ascends, idsOf_congr perm]
  · exact pairwise_parentIds _
  · intro key
    simp only [mem_parentIds, perm.mem_iff]

namespace MadeOf

variable (made : batch.MadeOf parentTable records) (made' : other.MadeOf parentTable others)
  (perm : others.Perm records)
include made made' perm

/-- The range does not depend on the order in which the records came. -/
theorem idRange?_congr : other.idRange? = batch.idRange? := by
  apply Option.ext
  rintro ⟨least, greatest⟩
  rw [made.range, made'.range, idsOf_congr perm]

/-- Nor do the keys. -/
theorem parentIds_congr : other.parentIds = batch.parentIds := by
  have ascend : batch.parentIds.Pairwise (fun key next => id key < id next) := made.keysAscend
  have ascend' : other.parentIds.Pairwise (fun key next => id key < id next) := made'.keysAscend
  apply eq_of_ascending ascend' ascend
  intro key
  simp only [made.keys, made'.keys, perm.mem_iff]

end MadeOf

/-- Records make a batch exactly when all of them are of its table; otherwise the refusal names the
first one that is not.  The batch holds the records in the order of their ids, those of one id as
they came; its range goes from the least id to the greatest, and is missing only when there are no
records; and it names the keys of the records in ascending order, each once.  Neither the range nor
the keys depend on the order in which the records came. -/
theorem ofRecords_makes (parentTable : String) (records : List DeletedRecord) :
    ((∃ batch, ofRecords parentTable records = .ok batch) ↔
      ∀ record ∈ records, record.table = parentTable) ∧
    (∀ before stray after, records = before ++ stray :: after →
      (∀ record ∈ before, record.table = parentTable) → stray.table ≠ parentTable →
      ofRecords parentTable records =
        .error (.invalidInput (.strayRecord stray.id stray.table parentTable))) ∧
    ∀ batch, ofRecords parentTable records = .ok batch →
      batch.MadeOf parentTable records ∧
      ∀ others, others.Perm records → ∃ other, ofRecords parentTable others = .ok other ∧
        other.idRange? = batch.idRange? ∧ other.parentIds = batch.parentIds := by
  refine ⟨?_, ?_, ?_⟩
  · constructor
    · rintro ⟨batch, made⟩
      exact (ofRecords_eq_ok_iff.mp made).1
    · exact fun own => ⟨_, ofRecords_eq_ok_iff.mpr ⟨own, rfl⟩⟩
  · rintro before stray after rfl own strays
    exact ofRecords_of_stray own strays
  · intro batch made
    have madeOf := madeOf_of_ofRecords made
    refine ⟨madeOf, ?_⟩
    intro others perm
    obtain ⟨own, _⟩ := ofRecords_eq_ok_iff.mp made
    have made' : ofRecords parentTable others =
        .ok { parentTable, records := others.mergeSort (fun x y => x.id ≤ y.id) } :=
      ofRecords_eq_ok_iff.mpr ⟨fun record member => own record (perm.mem_iff.mp member), rfl⟩
    have madeOf' := madeOf_of_ofRecords made'
    exact ⟨_, made', madeOf.idRange?_congr madeOf' perm, madeOf.parentIds_congr madeOf' perm⟩

end LooseKeys.Batch
