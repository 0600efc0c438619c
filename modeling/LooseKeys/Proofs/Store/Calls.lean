/-
Module: LooseKeys.Proofs.Store.Calls
Purpose: What each call on the store in memory answers and what it leaves.
Main exports: Store.rowsOf, Store.pairwise_rowsOf, Store.pairwise_log, Store.afterPass,
  Store.clean_of_table?, Store.clean_cases, Store.markProcessed_cases, Pass.run_cases,
  Pass.run_leaves_cases, Pass.run_of_table?, Pass.cases_of_run_ok, Pass.eq_of_run_error
-/
import LooseKeys.Pass
import LooseKeys.Proofs.SortedMap
import LooseKeys.Store
import Mathlib.Data.List.Nodup

/-!
A call that can fail has three ends: the armed failure, a missing table, or its effect.  The
effect of a pass is named `Store.afterPass`, with one lemma for each part of the state.
-/

namespace LooseKeys

namespace Row

@[simp] theorem value?_nullify_self (row : Row) (column : String) :
    (row.nullify column).value? column = none :=
  SortedMap.get?_erase_self row.columns column

theorem value?_nullify_of_ne (row : Row) {column other : String} (ne : other ≠ column) :
    (row.nullify column).value? other = row.value? other :=
  SortedMap.get?_erase_of_ne row.columns ne

theorem references_iff {row : Row} {column : String} {parentIds : List Int} :
    row.references column parentIds ↔ ∃ value ∈ parentIds, row.value? column = some value := by
  unfold references
  cases row.value? column with
  | none => simp
  | some value => simp

@[simp] theorem references_nullify_self (row : Row) (column : String) (parentIds : List Int) :
    (row.nullify column).references column parentIds = false := by
  simp [references]

theorem references_nullify_of_ne (row : Row) {column other : String} (ne : other ≠ column)
    (parentIds : List Int) :
    (row.nullify column).references other parentIds = row.references other parentIds := by
  simp only [references, value?_nullify_of_ne row ne]

end Row

namespace Table

@[simp] theorem lastId_apply (table : Table) (kind : ModificationKind) (column : String)
    (selected : List Int) : (table.apply kind column selected).lastId = table.lastId := by
  cases kind <;> rfl

@[simp] theorem locked_apply (table : Table) (kind : ModificationKind) (column : String)
    (selected : List Int) :
    (table.apply kind column selected).locked = table.locked.filter (· ∉ selected) := by
  cases kind <;> rfl

/-- A pass that selects no row leaves the table as it is. -/
@[simp] theorem apply_nil (table : Table) (kind : ModificationKind) (column : String) :
    table.apply kind column [] = table := by
  cases kind with
  | deletion => simp [apply, deleteRows]
  | update => simp [apply, nullifyRows]

theorem mem_eligible {table : Table} {column : String} {parentIds : List Int} {mode : LockMode}
    {row : Row} (member : row ∈ table.eligible column parentIds mode) :
    row ∈ table.rows ∧ row.references column parentIds := by
  obtain ⟨ofTable, fits⟩ := List.mem_filter.mp member
  exact ⟨ofTable, (Bool.and_eq_true_iff.mp fits).1⟩

/-- A pass that waits for locks may take every row that references a parent. -/
theorem eligible_blocking (table : Table) (column : String) (parentIds : List Int) :
    table.eligible column parentIds .blocking =
      table.rows.filter (·.references column parentIds) := by
  simp [eligible, LockMode.skipsLocked]

/-- The selected ids are ids of rows that reference a parent. -/
theorem exists_of_mem_selection {table : Table} {column : String} {parentIds : List Int}
    {mode : LockMode} {limit : Int} {id : Int}
    (member : id ∈ table.selection column parentIds mode limit) :
    ∃ row ∈ table.rows, row.id = id ∧ row.references column parentIds := by
  obtain ⟨row, taken, same⟩ := List.mem_map.mp member
  obtain ⟨ofTable, references⟩ := mem_eligible (List.mem_of_mem_take taken)
  exact ⟨row, ofTable, same, references⟩

/-- No id is given to two rows. -/
theorem nodup_ids (table : Table) : (table.rows.map (·.id)).Nodup :=
  List.pairwise_map.mpr (table.ascending.imp Int.ne_of_lt)

/-- A row whose id was selected references a parent. -/
theorem references_of_mem_selection {table : Table} {column : String} {parentIds : List Int}
    {mode : LockMode} {limit : Int} {row : Row} (member : row ∈ table.rows)
    (selected : row.id ∈ table.selection column parentIds mode limit) :
    row.references column parentIds := by
  obtain ⟨other, ofTable, same, references⟩ := exists_of_mem_selection selected
  rwa [List.inj_on_of_nodup_map table.nodup_ids member ofTable same.symm]

/-- When a pass that waits for locks and may take a row selects none, no row references a
parent. -/
theorem not_references_of_selection_nil {table : Table} {column : String} {parentIds : List Int}
    {limit : Int} (positive : 0 < limit)
    (nothing : (table.selection column parentIds .blocking limit).length = 0) :
    ∀ row ∈ table.rows, ¬ row.references column parentIds := by
  intro row member references
  have eligible : row ∈ table.eligible column parentIds .blocking := by
    rw [eligible_blocking]
    exact List.mem_filter.mpr ⟨member, references⟩
  have inhabited := List.length_pos_of_mem eligible
  simp only [selection, List.length_map, List.length_take] at nothing
  omega

end Table

namespace Store

/-- The rows of a table; a table that does not exist has none. -/
def rowsOf (store : Store) (name : String) : List Row :=
  match store.table? name with
  | some table => table.rows
  | none => []

theorem rowsOf_of_table? {store : Store} {name : String} {table : Table}
    (found : store.table? name = some table) : store.rowsOf name = table.rows := by
  simp [rowsOf, found]

theorem pairwise_rowsOf (store : Store) (name : String) :
    (store.rowsOf name).Pairwise (fun first second => first.id < second.id) := by
  unfold rowsOf
  cases store.table? name with
  | none => exact List.Pairwise.nil
  | some table => exact table.ascending

theorem nodup_rowsOf (store : Store) (name : String) :
    ((store.rowsOf name).map (·.id)).Nodup :=
  List.pairwise_map.mpr ((store.pairwise_rowsOf name).imp Int.ne_of_lt)

/-- The ids of the log ascend, since they count its records. -/
theorem pairwise_log (store : Store) :
    store.log.Pairwise (fun first second => first.id < second.id) := by
  apply List.pairwise_map.mp
  rw [log, store.history.numbered]
  refine List.pairwise_map.mpr (List.pairwise_lt_range.imp ?_)
  intro first second below
  omega

/-- Locks are not rows. -/
@[simp] theorem rowsOf_lockRow (store : Store) (name other : String) (rowId : Int) :
    (store.lockRow name rowId).rowsOf other = store.rowsOf other := by
  simp only [rowsOf, table?, lockRow, SortedMap.get?_modify]
  cases store.tables.get? other with
  | none => rfl
  | some table =>
      simp only [Option.map_some]
      split
      · unfold Table.lock
        split <;> rfl
      · rfl

/-- The store after a pass took a selection of the rows of a table. -/
def afterPass (store : Store) (kind : ModificationKind) (relation : Relation) (mode : LockMode)
    (table : Table) (selected : List Int) : Store :=
  { store with
    tables := store.tables.insert relation.childTable
      (table.apply kind relation.column selected)
    passes := store.passes ++
      [{ table := relation.childTable, lockMode := mode, affectedRows := selected.length }]
    waits := store.waits + table.locksOn selected }

section AfterPass

variable (store : Store) (kind : ModificationKind) (relation : Relation) (mode : LockMode)
  (table : Table) (selected : List Int)

@[simp] theorem table?_afterPass_self :
    (store.afterPass kind relation mode table selected).table? relation.childTable
      = some (table.apply kind relation.column selected) :=
  SortedMap.get?_insert_self _ _ _

theorem table?_afterPass_of_ne {name : String} (ne : name ≠ relation.childTable) :
    (store.afterPass kind relation mode table selected).table? name = store.table? name :=
  SortedMap.get?_insert_of_ne _ ne _

@[simp] theorem rowsOf_afterPass_self :
    (store.afterPass kind relation mode table selected).rowsOf relation.childTable
      = (table.apply kind relation.column selected).rows :=
  rowsOf_of_table? (table?_afterPass_self store kind relation mode table selected)

theorem rowsOf_afterPass_of_ne {name : String} (ne : name ≠ relation.childTable) :
    (store.afterPass kind relation mode table selected).rowsOf name = store.rowsOf name := by
  simp only [rowsOf, table?_afterPass_of_ne store kind relation mode table selected ne]

end AfterPass

/-- A pass that selects no row leaves all tables as they are. -/
theorem table?_afterPass_nil {store : Store} {relation : Relation} {table : Table}
    (found : store.table? relation.childTable = some table) (kind : ModificationKind)
    (mode : LockMode) (name : String) :
    (store.afterPass kind relation mode table []).table? name = store.table? name := by
  by_cases here : name = relation.childTable
  · rw [here, table?_afterPass_self, Table.apply_nil, found]
  · exact table?_afterPass_of_ne store kind relation mode table [] here

/-- A pass is answered when nothing is armed and its table is there. -/
theorem clean_of_table? {store : Store} {relation : Relation} {table : Table}
    (unarmed : store.armed = none) (found : store.table? relation.childTable = some table)
    (kind : ModificationKind) (parentIds : List Int) (mode : LockMode) (limit : Int) :
    clean kind relation parentIds mode limit store
      = (.ok (table.selection relation.column parentIds mode limit).length,
          store.afterPass kind relation mode table
            (table.selection relation.column parentIds mode limit)) := by
  simp [clean, unarmed, found, afterPass]

/-- The three ends of a pass on the store. -/
theorem clean_cases (kind : ModificationKind) (relation : Relation) (parentIds : List Int)
    (mode : LockMode) (limit : Int) (store : Store) :
    (∃ reason, store.armed = some reason ∧
      clean kind relation parentIds mode limit store
        = (.error (.storage reason), { store with armed := none })) ∨
    (store.armed = none ∧ store.table? relation.childTable = none ∧
      clean kind relation parentIds mode limit store
        = (.error (.unknownTable relation.childTable), store)) ∨
    ∃ table, store.armed = none ∧ store.table? relation.childTable = some table ∧
      clean kind relation parentIds mode limit store
        = (.ok (table.selection relation.column parentIds mode limit).length,
            store.afterPass kind relation mode table
              (table.selection relation.column parentIds mode limit)) := by
  cases armed : store.armed with
  | some reason => exact Or.inl ⟨reason, rfl, by simp [clean, armed]⟩
  | none =>
      cases found : store.table? relation.childTable with
      | none => exact Or.inr (Or.inl ⟨rfl, rfl, by simp [clean, armed, found]⟩)
      | some table =>
          exact Or.inr (Or.inr
            ⟨table, rfl, rfl, clean_of_table? armed found kind parentIds mode limit⟩)

/-- The store after the pending records of a parent table within a range were marked. -/
def afterMark (store : Store) (parentTable : String) (firstId lastId : Int) : Store :=
  { store with history := store.history.marking (isMarkable parentTable firstId lastId) }

theorem log_afterMark_eq_map (store : Store) (parentTable : String) (firstId lastId : Int) :
    (store.afterMark parentTable firstId lastId).log = store.log.map (fun record =>
      if isMarkable parentTable firstId lastId record then { record with status := .processed }
      else record) := rfl

/-- The two ends of a marking on the store. -/
theorem markProcessed_cases (parentTable : String) (firstId lastId : Int) (store : Store) :
    (∃ reason, store.armed = some reason ∧
      markProcessed parentTable firstId lastId store
        = (.error (.storage reason), { store with armed := none })) ∨
    store.armed = none ∧
      markProcessed parentTable firstId lastId store
        = (.ok (store.log.filter (isMarkable parentTable firstId lastId)).length,
            store.afterMark parentTable firstId lastId) := by
  cases armed : store.armed with
  | some reason => exact Or.inl ⟨reason, rfl, by simp [markProcessed, armed]⟩
  | none => exact Or.inr ⟨rfl, by simp [markProcessed, armed, afterMark]⟩

@[simp] theorem tables_markProcessed (parentTable : String) (firstId lastId : Int)
    (store : Store) : (markProcessed parentTable firstId lastId store).2.tables = store.tables := by
  rcases markProcessed_cases parentTable firstId lastId store with ⟨_, _, ended⟩ | ⟨_, ended⟩
  · rw [ended]
  · rw [ended]
    rfl

@[simp] theorem passes_markProcessed (parentTable : String) (firstId lastId : Int)
    (store : Store) : (markProcessed parentTable firstId lastId store).2.passes = store.passes := by
  rcases markProcessed_cases parentTable firstId lastId store with ⟨_, _, ended⟩ | ⟨_, ended⟩
  · rw [ended]
  · rw [ended]
    rfl

/-- Marking leaves the rows alone. -/
theorem rowsOf_markProcessed (parentTable : String) (firstId lastId : Int) (store : Store) :
    (markProcessed parentTable firstId lastId store).2.rowsOf = store.rowsOf := by
  funext name
  simp only [rowsOf, table?, tables_markProcessed]

end Store

namespace Pass

/-- The ids of the rows that a pass takes of a table. -/
def selected (pass : Pass) (table : Table) : List Int :=
  table.selection pass.relation.column pass.parentIds pass.lockMode pass.limit

/-- The store after a pass on a table. -/
def leaves (pass : Pass) (store : Store) (table : Table) : Store :=
  store.afterPass pass.relation.strategy.kind pass.relation pass.lockMode table
    (pass.selected table)

theorem call_storage (pass : Pass) (store : Store) :
    pass.call Store.storage store =
      Store.clean pass.relation.strategy.kind pass.relation pass.parentIds pass.lockMode pass.limit
        store := by
  unfold call
  cases pass.relation.strategy <;> rfl

/-- The ends of a pass for at least one parent. -/
theorem run_cases (pass : Pass) (parents : pass.parentIds ≠ []) (store : Store) :
    (∃ reason, store.armed = some reason ∧
      pass.run Store.storage store
        = (.error (.storage reason), { store with armed := none })) ∨
    (store.armed = none ∧ store.table? pass.relation.childTable = none ∧
      pass.run Store.storage store
        = (.error (.unknownTable pass.relation.childTable), store)) ∨
    ∃ table, store.armed = none ∧ store.table? pass.relation.childTable = some table ∧
      pass.run Store.storage store
        = (.ok (pass.result (pass.selected table).length), pass.leaves store table) := by
  have nonempty : pass.parentIds.isEmpty = false := by simpa using parents
  unfold run
  simp only [nonempty, Bool.false_eq_true, if_false, call_storage]
  rcases Store.clean_cases pass.relation.strategy.kind pass.relation pass.parentIds pass.lockMode
      pass.limit store with
    ⟨reason, armed, ended⟩ | ⟨unarmed, missing, ended⟩ | ⟨table, unarmed, found, ended⟩
  · exact Or.inl ⟨reason, armed, by rw [ended]⟩
  · exact Or.inr (Or.inl ⟨unarmed, missing, by rw [ended]⟩)
  · exact Or.inr (Or.inr ⟨table, unarmed, found, by rw [ended]; rfl⟩)

/-- Without parents no call is made. -/
theorem run_of_parentIds_nil {σ : Type} {pass : Pass} (nobody : pass.parentIds = [])
    (storage : Storage σ) (state : σ) : pass.run storage state = (.ok (pass.result 0), state) := by
  simp [run, nobody]

/-- A pass leaves the store alone, or uses up what was armed, or takes its selection from a table
that it finds. -/
theorem run_leaves_cases (pass : Pass) (store : Store) :
    (pass.run Store.storage store).2 = store ∨
    (pass.run Store.storage store).2 = { store with armed := none } ∨
    ∃ table, store.table? pass.relation.childTable = some table ∧
      (pass.run Store.storage store).2 = pass.leaves store table := by
  by_cases nobody : pass.parentIds = []
  · exact Or.inl (congrArg Prod.snd (run_of_parentIds_nil nobody Store.storage store))
  · rcases pass.run_cases nobody store with
      ⟨_, _, ended⟩ | ⟨_, _, ended⟩ | ⟨table, _, found, ended⟩
    · exact Or.inr (Or.inl (congrArg Prod.snd ended))
    · exact Or.inl (congrArg Prod.snd ended)
    · exact Or.inr (Or.inr ⟨table, found, congrArg Prod.snd ended⟩)

/-- A pass for at least one parent is answered when nothing is armed and its table is there. -/
theorem run_of_table? {pass : Pass} (parents : pass.parentIds ≠ []) {store : Store} {table : Table}
    (unarmed : store.armed = none)
    (found : store.table? pass.relation.childTable = some table) :
    pass.run Store.storage store
      = (.ok (pass.result (pass.selected table).length), pass.leaves store table) := by
  have nonempty : pass.parentIds.isEmpty = false := by simpa using parents
  unfold run
  simp only [nonempty, Bool.false_eq_true, if_false, call_storage,
    Store.clean_of_table? unarmed found]
  rfl

/-- A pass that was answered had no parents to look for, or found its table. -/
theorem cases_of_run_ok {pass : Pass} {store after : Store} {result : PassResult}
    (answered : pass.run Store.storage store = (.ok result, after)) :
    (pass.parentIds = [] ∧ result = pass.result 0 ∧ after = store) ∨
      ∃ table, pass.parentIds ≠ [] ∧ store.armed = none ∧
        store.table? pass.relation.childTable = some table ∧
        result = pass.result (pass.selected table).length ∧ after = pass.leaves store table := by
  by_cases nobody : pass.parentIds = []
  · rw [run_of_parentIds_nil nobody] at answered
    cases answered
    exact Or.inl ⟨nobody, rfl, rfl⟩
  · rcases pass.run_cases nobody store with
      ⟨_, _, ended⟩ | ⟨_, _, ended⟩ | ⟨table, unarmed, found, ended⟩
    · cases answered.symm.trans ended
    · cases answered.symm.trans ended
    · cases answered.symm.trans ended
      exact Or.inr ⟨table, nobody, unarmed, found, rfl, rfl⟩

/-- A pass that fails changes nothing but that what was armed is used up. -/
theorem eq_of_run_error {pass : Pass} {store after : Store} {error : CleanupError}
    (refused : pass.run Store.storage store = (.error error, after)) :
    after = { store with armed := none } := by
  by_cases nobody : pass.parentIds = []
  · rw [run_of_parentIds_nil nobody] at refused
    cases refused
  · rcases pass.run_cases nobody store with
      ⟨_, _, ended⟩ | ⟨unarmed, _, ended⟩ | ⟨table, _, _, ended⟩
    · cases refused.symm.trans ended
      rfl
    · cases refused.symm.trans ended
      rw [← unarmed]
    · cases refused.symm.trans ended

/-- So it leaves the rows alone. -/
theorem rowsOf_of_run_error {pass : Pass} {store after : Store} {error : CleanupError}
    (refused : pass.run Store.storage store = (.error error, after)) :
    after.rowsOf = store.rowsOf := by
  rw [eq_of_run_error refused]
  rfl

end Pass

end LooseKeys
