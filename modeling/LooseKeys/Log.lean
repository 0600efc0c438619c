/-
Module: LooseKeys.Log
Purpose: The log of deleted parent rows.
Main exports: RecordStatus, DeletedRecord
-/
import LooseKeys.Timestamp

namespace LooseKeys

/-- Whether the child rows of a deleted parent have been cleaned up. -/
inductive RecordStatus where
  | pending
  | processed
deriving DecidableEq, Repr, Inhabited

namespace RecordStatus

def name : RecordStatus → String
  | .pending => "pending"
  | .processed => "processed"

def ofName? (text : String) : Option RecordStatus :=
  if text = pending.name then some .pending
  else if text = processed.name then some .processed
  else none

/-- Reads a status; the error names a text that is none. -/
def parse (text : String) : Except String RecordStatus :=
  match ofName? text with
  | some status => .ok status
  | none => .error ("Unknown deleted record status: " ++ text)

end RecordStatus

/-- One deleted parent row. -/
structure DeletedRecord where
  /-- The place in the log; orders the records of a table. -/
  id : Int
  /-- The parent table, with its schema. -/
  table : String
  /-- The key of the deleted row. -/
  primaryKey : Int
  status : RecordStatus
  createdAt : Timestamp
deriving DecidableEq, Repr, Inhabited

/-- Whether the record still waits for the cleanup of its child rows. -/
def DeletedRecord.isPending (record : DeletedRecord) : Bool := record.status = .pending

end LooseKeys
