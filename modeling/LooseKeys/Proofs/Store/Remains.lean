/-
Module: LooseKeys.Proofs.Store.Remains
Purpose: What is to remain of the rows of a store when each relation looks for keys of its own.
Main exports: Relation.OwnColumns, Row.remains, remainingRows, remainingRows_of_clear,
  Table.remainingRows_apply, Pass.remainingRows_run
-/
import LooseKeys.Proofs.Store.Evolution
import LooseKeys.Registry
import Mathlib.Data.List.Basic

/-!
`Row.remains` says at once what is to become of a row: it goes if a deleting relation finds one of
its keys in it, and else it loses the values in which nullifying relations find theirs.  A pass
takes some of the rows in which its relation finds a key, so it changes the rows but not what is
to remain of them.  This rests on each column having one relation: a column that is set to null
is not one for which a row would have been deleted.
-/

namespace LooseKeys

/-- No column of a child table has two of the relations. -/
def Relation.OwnColumns (relations : List Relation) : Prop :=
  ∀ first ∈ relations, ∀ second ∈ relations, first.sameColumn second → first = second

namespace Row

section Remains

variable (relations : List Relation) (keysOf : Relation → List Int) (table : String) (row : Row)

/-- Whether a relation of a strategy finds one of its keys in the row of a table. -/
def isSoughtBy (strategy : Strategy) (relation : Relation) : Bool :=
  relation.strategy = strategy && relation.childTable = table &&
    row.references relation.column (keysOf relation)

/-- Whether a deleting relation finds one of its keys in the row. -/
def isToGo : Bool := relations.any (row.isSoughtBy keysOf table .asyncDelete)

/-- Whether a nullifying relation finds one of its keys in a column of the row. -/
def isToLose (column : String) : Bool :=
  relations.any (fun relation =>
    relation.column = column && row.isSoughtBy keysOf table .asyncNullify relation)

/-- What is to remain of the row of a table. -/
def remains : Option Row :=
  if row.isToGo relations keysOf table then none
  else
    some { row with
      columns := row.columns.filterKeys
        (fun column => !row.isToLose relations keysOf table column) }

end Remains

variable {relations : List Relation} {keysOf : Relation → List Int} {table : String} {row : Row}

theorem isSoughtBy_iff {strategy : Strategy} {relation : Relation} :
    row.isSoughtBy keysOf table strategy relation ↔
      relation.strategy = strategy ∧ relation.childTable = table ∧
        row.references relation.column (keysOf relation) := by
  simp [isSoughtBy, and_assoc]

theorem isToGo_iff :
    row.isToGo relations keysOf table ↔
      ∃ relation ∈ relations, relation.strategy = .asyncDelete ∧ relation.childTable = table ∧
        row.references relation.column (keysOf relation) := by
  simp only [isToGo, List.any_eq_true, isSoughtBy_iff]

theorem isToLose_iff {column : String} :
    row.isToLose relations keysOf table column ↔
      ∃ relation ∈ relations, relation.column = column ∧ relation.strategy = .asyncNullify ∧
        relation.childTable = table ∧ row.references relation.column (keysOf relation) := by
  simp only [isToLose, List.any_eq_true, Bool.and_eq_true, decide_eq_true_eq, isSoughtBy_iff]

/-- A row in which no relation finds a key remains as it is. -/
theorem remains_of_clear
    (clear : ∀ relation ∈ relations, relation.childTable = table →
      ¬ row.references relation.column (keysOf relation)) :
    row.remains relations keysOf table = some row := by
  have stays : ¬ row.isToGo relations keysOf table := by
    intro goes
    obtain ⟨relation, declared, _, onTable, references⟩ := isToGo_iff.mp goes
    exact clear relation declared onTable references
  have whole : row.columns.filterKeys
      (fun column => !row.isToLose relations keysOf table column) = row.columns := by
    apply SortedMap.ext
    apply List.filter_eq_self.mpr
    intro entry _
    rw [Bool.not_eq_true', Bool.eq_false_iff]
    intro loses
    obtain ⟨relation, declared, _, _, onTable, references⟩ := isToLose_iff.mp loses
    exact clear relation declared onTable references
  unfold remains
  rw [if_neg stays, whole]

section Nullified

variable (own : Relation.OwnColumns relations) {taker : Relation} (declared : taker ∈ relations)
  (nullifies : taker.strategy = .asyncNullify) (onTable : taker.childTable = table)
include own declared nullifies onTable

/-- A column that is set to null is not the one for which a row goes. -/
theorem isToGo_nullify :
    (row.nullify taker.column).isToGo relations keysOf table
      = row.isToGo relations keysOf table := by
  have elsewhere : ∀ relation ∈ relations, relation.strategy = .asyncDelete →
      relation.childTable = table → relation.column ≠ taker.column := by
    intro relation member deletes here column
    have same : relation = taker :=
      own relation member taker declared
        (by simp [Relation.sameColumn, column, here, onTable])
    rw [same, nullifies] at deletes
    cases deletes
  rw [Bool.eq_iff_iff, isToGo_iff, isToGo_iff]
  constructor
  · rintro ⟨relation, member, deletes, here, references⟩
    rw [references_nullify_of_ne row (elsewhere relation member deletes here)] at references
    exact ⟨relation, member, deletes, here, references⟩
  · rintro ⟨relation, member, deletes, here, references⟩
    rw [← references_nullify_of_ne row (elsewhere relation member deletes here)] at references
    exact ⟨relation, member, deletes, here, references⟩

omit own declared nullifies onTable in
theorem isToLose_nullify_of_ne {column : String} (ne : column ≠ taker.column) :
    (row.nullify taker.column).isToLose relations keysOf table column
      = row.isToLose relations keysOf table column := by
  rw [Bool.eq_iff_iff, isToLose_iff, isToLose_iff]
  constructor
  · rintro ⟨relation, member, rfl, nullifies, here, references⟩
    rw [references_nullify_of_ne row ne] at references
    exact ⟨relation, member, rfl, nullifies, here, references⟩
  · rintro ⟨relation, member, rfl, nullifies, here, references⟩
    rw [← references_nullify_of_ne row ne] at references
    exact ⟨relation, member, rfl, nullifies, here, references⟩

/-- A value that a nullifying relation finds may be set to null beforehand. -/
theorem remains_nullify (found : row.references taker.column (keysOf taker)) :
    (row.nullify taker.column).remains relations keysOf table
      = row.remains relations keysOf table := by
  have remaining : (row.columns.erase taker.column).filterKeys
      (fun column => !(row.nullify taker.column).isToLose relations keysOf table column)
      = row.columns.filterKeys
        (fun column => !row.isToLose relations keysOf table column) := by
    apply SortedMap.ext
    change (row.columns.entries.filter _).filter _ = row.columns.entries.filter _
    rw [List.filter_filter]
    apply List.filter_congr
    intro entry _
    by_cases column : entry.1 = taker.column
    -- The value that is set to null is one that the row is to lose anyway.
    · have loses : row.isToLose relations keysOf table entry.1 :=
        isToLose_iff.mpr ⟨taker, declared, column.symm, nullifies, onTable, found⟩
      simp [column, column ▸ loses]
    · simp [column, isToLose_nullify_of_ne column]
  unfold remains
  rw [isToGo_nullify own declared nullifies onTable]
  change (if _ then none else
    some (⟨row.id, (row.columns.erase taker.column).filterKeys _⟩ : Row)) = _
  rw [remaining]

end Nullified

end Row

/-- What is to remain of the rows of a table. -/
def remainingRows (relations : List Relation) (keysOf : Relation → List Int) (table : String)
    (rows : List Row) : List Row :=
  rows.filterMap (·.remains relations keysOf table)

section Remaining

variable {relations : List Relation} {keysOf : Relation → List Int}

/-- Rows in which no relation finds a key remain as they are. -/
theorem remainingRows_of_clear {table : String} {rows : List Row}
    (clear : ∀ row ∈ rows, ∀ relation ∈ relations, relation.childTable = table →
      ¬ row.references relation.column (keysOf relation)) :
    remainingRows relations keysOf table rows = rows := by
  have same : ∀ row ∈ rows, row.remains relations keysOf table = some row :=
    fun row member => Row.remains_of_clear (clear row member)
  calc remainingRows relations keysOf table rows
      = rows.filterMap some := List.filterMap_congr same
    _ = rows := List.filterMap_some

variable (own : Relation.OwnColumns relations)
include own

/-- A pass for keys that its relation looks for changes nothing of what is to remain. -/
theorem Table.remainingRows_apply {taker : Relation} (declared : taker ∈ relations)
    {table : Table} {parentIds : List Int}
    (sought : ∀ key ∈ parentIds, key ∈ keysOf taker) {mode : LockMode} {limit : Int} :
    remainingRows relations keysOf taker.childTable
        (table.apply taker.strategy.kind taker.column
          (table.selection taker.column parentIds mode limit)).rows
      = remainingRows relations keysOf taker.childTable table.rows := by
  have found : ∀ row ∈ table.rows,
      row.id ∈ table.selection taker.column parentIds mode limit →
        row.references taker.column (keysOf taker) := by
    intro row member selected
    obtain ⟨key, ofParent, holds⟩ :=
      Row.references_iff.mp (references_of_mem_selection member selected)
    exact Row.references_iff.mpr ⟨key, sought key ofParent, holds⟩
  unfold remainingRows
  cases strategy : taker.strategy with
  | asyncDelete =>
      change List.filterMap _ (table.rows.filter _) = _
      rw [List.filterMap_filter]
      apply List.filterMap_congr
      intro row member
      split
      · rfl
      · rename_i selected
        have goes : row.isToGo relations keysOf taker.childTable :=
          Row.isToGo_iff.mpr
            ⟨taker, declared, strategy, rfl, found row member (by simpa using selected)⟩
        exact (if_pos goes).symm
  | asyncNullify =>
      change List.filterMap _ (table.rows.map _) = _
      rw [List.filterMap_map]
      apply List.filterMap_congr
      intro row member
      simp only [Function.comp]
      split
      · rename_i selected
        exact Row.remains_nullify own declared strategy rfl (found row member selected)
      · rfl

/-- A pass on the store changes nothing of what is to remain, also when it fails. -/
theorem Pass.remainingRows_run (pass : Pass) (declared : pass.relation ∈ relations)
    (sought : ∀ key ∈ pass.parentIds, key ∈ keysOf pass.relation) (store : Store)
    (name : String) :
    remainingRows relations keysOf name ((pass.run Store.storage store).2.rowsOf name)
      = remainingRows relations keysOf name (store.rowsOf name) := by
  rcases pass.run_leaves_cases store with ended | ended | ⟨table, found, ended⟩
  · rw [ended]
  · rw [ended]
    rfl
  · rw [ended]
    by_cases here : name = pass.relation.childTable
    · subst here
      have rows := Store.rowsOf_of_table? found
      simp only [leaves, Store.rowsOf_afterPass_self, rows]
      exact Table.remainingRows_apply own declared sought
    · simp only [leaves, Store.rowsOf_afterPass_of_ne _ _ _ _ _ _ here]

end Remaining

end LooseKeys
