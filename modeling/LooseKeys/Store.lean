/-
Module: LooseKeys.Store
Purpose: A storage in memory: child tables of integer columns, their row locks, and the log.
Main exports: Row, Table, Store, Store.storage
-/
import LooseKeys.SortedMap
import LooseKeys.Storage

/-!
The tables and the log carry what every operation keeps: the rows of a table stand in the order of
their ids, each of which the table has given, and the ids of the log count its records.

Rows can be locked by a concurrent writer.  A pass that skips locked rows leaves them alone; a
pass that waits for them is modelled by the end of the wait: the lock is released, the wait is
counted, and the row is taken.

The next pass or marking can be made to fail.  A failing call changes nothing but that it uses
up the failure.
-/

namespace LooseKeys

/-- A row of a child table; a column without an entry is null. -/
structure Row where
  id : Int
  columns : SortedMap String Int := {}
deriving DecidableEq, Repr, Inhabited

namespace Row

/-- The value of a column, unless it is null. -/
def value? (row : Row) (column : String) : Option Int := row.columns.get? column

/-- The row with a column set to null. -/
def nullify (row : Row) (column : String) : Row :=
  { row with columns := row.columns.erase column }

/-- Whether a column holds one of the parents' keys. -/
def references (row : Row) (column : String) (parentIds : List Int) : Bool :=
  match row.value? column with
  | some value => value ∈ parentIds
  | none => false

end Row

/-- A child table: its rows in the order of their ids, the greatest id given so far, and the
ids that are locked, whether or not they still have a row. -/
@[ext]
structure Table where
  lastId : Int := 0
  rows : List Row := []
  locked : List Int := []
  started : 0 ≤ lastId := by decide
  /-- All ids of rows were given by the table. -/
  given : ∀ row ∈ rows, 0 < row.id ∧ row.id ≤ lastId := by decide
  ascending : rows.Pairwise (fun first second => first.id < second.id) := by decide
deriving DecidableEq, Repr

namespace Table

/-- The table without rows. -/
def empty : Table := {}

instance : Inhabited Table := ⟨empty⟩

/-- Adds a row with the next id. -/
def insert (table : Table) (columns : SortedMap String Int) : Table where
  lastId := table.lastId + 1
  rows := table.rows ++ [{ id := table.lastId + 1, columns }]
  locked := table.locked
  started := Int.le_add_one table.started
  given := by
    have started := table.started
    intro row member
    rcases List.mem_append.mp member with old | new
    · have bounds := table.given row old
      omega
    · rw [List.mem_singleton.mp new]
      exact ⟨by simp only; omega, Int.le_refl _⟩
  ascending := by
    refine List.pairwise_append.mpr ⟨table.ascending, List.pairwise_singleton _ _, ?_⟩
    intro row old other new
    rw [List.mem_singleton.mp new]
    exact Int.lt_add_one_of_le (table.given row old).2

/-- Locks a row id; a lock is held once. -/
def lock (table : Table) (rowId : Int) : Table :=
  if rowId ∈ table.locked then table else { table with locked := table.locked ++ [rowId] }

/-- The rows that a pass may take, in the order of their ids. -/
def eligible (table : Table) (column : String) (parentIds : List Int) (mode : LockMode) :
    List Row :=
  table.rows.filter (fun row =>
    row.references column parentIds && !(mode.skipsLocked && row.id ∈ table.locked))

/-- The ids of the rows that a pass takes: as many eligible ones as the limit allows. -/
def selection (table : Table) (column : String) (parentIds : List Int) (mode : LockMode)
    (limit : Int) : List Int :=
  ((table.eligible column parentIds mode).take limit.toNat).map (·.id)

/-- Deletes the rows of a selection and releases their locks. -/
def deleteRows (table : Table) (selected : List Int) : Table :=
  { table with
    rows := table.rows.filter (·.id ∉ selected)
    locked := table.locked.filter (· ∉ selected)
    given := fun row member => table.given row (List.mem_filter.mp member).1
    ascending := table.ascending.filter _ }

/-- Sets a column of the rows of a selection to null and releases their locks. -/
def nullifyRows (table : Table) (column : String) (selected : List Int) : Table :=
  { table with
    rows := table.rows.map (fun row => if row.id ∈ selected then row.nullify column else row)
    locked := table.locked.filter (· ∉ selected)
    given := by
      intro row member
      obtain ⟨old, ofTable, rfl⟩ := List.mem_map.mp member
      have bounds := table.given old ofTable
      split <;> exact bounds
    ascending := by
      refine List.pairwise_map.mpr (table.ascending.imp ?_)
      intro first second below
      split <;> split <;> exact below }

/-- Does to the rows of a selection what a kind of modification means. -/
def apply (table : Table) (kind : ModificationKind) (column : String) (selected : List Int) :
    Table :=
  match kind with
  | .deletion => table.deleteRows selected
  | .update => table.nullifyRows column selected

/-- How many locks a selection has to wait for. -/
def locksOn (table : Table) (selected : List Int) : Nat :=
  (selected.filter (· ∈ table.locked)).length

/-- The number of rows whose column has a value, or is null. -/
def countWhere (table : Table) (column : String) (value : Option Int) : Nat :=
  (table.rows.filter (fun row => row.value? column = value)).length

end Table

/-- The log of deleted parent rows: the ids count its records from one, and the tables are named
with their schema. -/
@[ext]
structure Log where
  records : List DeletedRecord := []
  numbered : records.map (·.id) =
    (List.range records.length).map (fun n : Nat => (n : Int) + 1) := by decide
  qualified : ∀ record ∈ records, qualify record.table = record.table := by decide
deriving DecidableEq, Repr

namespace Log

instance : Inhabited Log := ⟨{}⟩

/-- The pending record that comes next. -/
def next (log : Log) (parentTable : String) (primaryKey : Int) (createdAt : Timestamp) :
    DeletedRecord where
  id := (log.records.length : Int) + 1
  table := qualify parentTable
  primaryKey := primaryKey
  status := .pending
  createdAt := createdAt

/-- The log with one more record at its end. -/
def append (log : Log) (parentTable : String) (primaryKey : Int) (createdAt : Timestamp) : Log where
  records := log.records ++ [log.next parentTable primaryKey createdAt]
  numbered := by
    rw [List.map_append, log.numbered, List.length_append, List.length_singleton,
      List.range_succ, List.map_append]
    rfl
  qualified := by
    intro record member
    rcases List.mem_append.mp member with old | new
    · exact log.qualified record old
    · rw [List.mem_singleton.mp new]
      exact qualify_qualify parentTable

/-- The log with some of its records processed. -/
def marking (log : Log) (marked : DeletedRecord → Bool) : Log where
  records := log.records.map (fun record =>
    if marked record then { record with status := .processed } else record)
  numbered := by
    rw [List.map_map, List.length_map, ← log.numbered]
    apply List.map_congr_left
    intro record _
    simp only [Function.comp]
    split <;> rfl
  qualified := by
    intro record member
    obtain ⟨old, ofLog, rfl⟩ := List.mem_map.mp member
    have kept := log.qualified old ofLog
    split <;> exact kept

end Log

/-- A pass that was made. -/
structure PassEntry where
  table : String
  lockMode : LockMode
  affectedRows : Nat
deriving DecidableEq, Repr, Inhabited

/-- The state of the storage in memory. -/
structure Store where
  tables : SortedMap String Table := {}
  history : Log := {}
  /-- The passes made so far, the latest last. -/
  passes : List PassEntry := []
  /-- The number of locks that passes have waited for. -/
  waits : Nat := 0
  /-- The reason with which the next pass or marking fails. -/
  armed : Option String := none
deriving DecidableEq, Repr, Inhabited

namespace Store

/-- The store without tables and records. -/
def empty : Store := {}

/-- The records of the log. -/
abbrev log (store : Store) : List DeletedRecord := store.history.records

def table? (store : Store) (name : String) : Option Table := store.tables.get? name

/-- Makes sure that a table exists. -/
def createTable (store : Store) (name : String) : Store :=
  { store with tables := store.tables.upsert name (·.getD .empty) }

/-- Adds a row to a table, which is created if need be; a column without a value is null.  The
id of the new row is given back. -/
def insertRow (store : Store) (name : String) (values : List (String × Option Int)) :
    Int × Store :=
  let columns := (SortedMap.ofList values).filterMap id
  let table := ((store.table? name).getD .empty).insert columns
  (table.lastId, { store with tables := store.tables.insert name table })

/-- Locks a row id of a table; a table that does not exist stays so. -/
def lockRow (store : Store) (name : String) (rowId : Int) : Store :=
  { store with tables := store.tables.modify name (·.lock rowId) }

def isLocked (store : Store) (name : String) (rowId : Int) : Bool :=
  match store.table? name with
  | some table => rowId ∈ table.locked
  | none => false

def rowCount (store : Store) (name : String) : Nat :=
  match store.table? name with
  | some table => table.rows.length
  | none => 0

def countWhere (store : Store) (name column : String) (value : Option Int) : Nat :=
  match store.table? name with
  | some table => table.countWhere column value
  | none => 0

/-- Appends a pending record to the log. -/
def recordDeletion (store : Store) (parentTable : String) (primaryKey : Int)
    (createdAt : Timestamp) : DeletedRecord × Store :=
  (store.history.next parentTable primaryKey createdAt,
    { store with history := store.history.append parentTable primaryKey createdAt })

/-- Makes the next pass or marking fail. -/
def failNext (store : Store) (reason : String) : Store := { store with armed := some reason }

/-- One bounded pass over the child table of a relation. -/
def clean (kind : ModificationKind) (relation : Relation) (parentIds : List Int)
    (mode : LockMode) (limit : Int) (store : Store) : Reply Store Nat :=
  match store.armed with
  | some reason => (.error (.storage reason), { store with armed := none })
  | none =>
      match store.table? relation.childTable with
      | none => (.error (.unknownTable relation.childTable), store)
      | some table =>
          let selected := table.selection relation.column parentIds mode limit
          let entry : PassEntry :=
            { table := relation.childTable, lockMode := mode, affectedRows := selected.length }
          (.ok selected.length,
            { store with
              tables := store.tables.insert relation.childTable
                (table.apply kind relation.column selected)
              passes := store.passes ++ [entry]
              waits := store.waits + table.locksOn selected })

/-- Whether a record is pending, of a parent table, and within a range of ids. -/
def isMarkable (parentTable : String) (firstId lastId : Int) (record : DeletedRecord) : Bool :=
  record.table = parentTable && record.isPending && firstId ≤ record.id && record.id ≤ lastId

/-- Marks the pending records of a parent table within a range of ids as processed. -/
def markProcessed (parentTable : String) (firstId lastId : Int) (store : Store) :
    Reply Store Nat :=
  match store.armed with
  | some reason => (.error (.storage reason), { store with armed := none })
  | none =>
      let markable := isMarkable parentTable firstId lastId
      (.ok (store.log.filter markable).length,
        { store with history := store.history.marking markable })

/-- The pending records of a parent table, in the order of the log. -/
def pendingOf (store : Store) (parentTable : String) : List DeletedRecord :=
  store.log.filter (fun record => record.table = parentTable && record.isPending)

/-- Up to a number of pending records of a parent table. -/
def loadPending (parentTable : String) (limit : Int) (store : Store) :
    Reply Store (List DeletedRecord) :=
  (.ok ((store.pendingOf parentTable).take limit.toNat), store)

/-- The store as a storage. -/
def storage : Storage Store where
  deleteChildren := clean .deletion
  nullifyChildren := clean .update
  markProcessed := markProcessed
  loadPending := loadPending

end Store

end LooseKeys
