/-
Module: LooseKeys.Batch
Purpose: Deleted records of one parent table that are cleaned up together.
Main exports: Batch, Batch.ofRecords, Batch.idRange?, Batch.parentIds
-/
import LooseKeys.Error
import LooseKeys.Log

namespace LooseKeys

/-- Deleted records of one parent table in the order of their ids. -/
structure Batch where
  parentTable : String
  records : List DeletedRecord
deriving DecidableEq, Repr, Inhabited

namespace Batch

/-- A batch of records; a record of another table is refused, the first such one named. -/
def ofRecords (parentTable : String) (records : List DeletedRecord) :
    Except CleanupError Batch :=
  match records.find? (fun record => record.table ≠ parentTable) with
  | some stray => .error (.invalidInput (.strayRecord stray.id stray.table parentTable))
  | none =>
      .ok { parentTable, records := records.mergeSort (fun first second => first.id ≤ second.id) }

def isEmpty (batch : Batch) : Bool := batch.records.isEmpty

def size (batch : Batch) : Nat := batch.records.length

def first? (batch : Batch) : Option DeletedRecord := batch.records.head?

def last? (batch : Batch) : Option DeletedRecord := batch.records.getLast?

/-- The least and the greatest id of the batch. -/
def idRange? (batch : Batch) : Option (Int × Int) :=
  match batch.first?, batch.last? with
  | some first, some last => some (first.id, last.id)
  | _, _ => none

/-- The parents' keys in ascending order, each once: sorting brings equal keys together, of which
one is kept. -/
def parentIds (batch : Batch) : List Int := (batch.records.map (·.primaryKey)).mergeSort.eraseReps

end Batch

end LooseKeys
