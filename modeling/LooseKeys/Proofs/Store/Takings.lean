/-
Module: LooseKeys.Proofs.Store.Takings
Purpose: Which rows and which values a pass takes from the store in memory, and how many.
Main exports: RowPlace, Cell, Store.removed, Store.nulled, Pass.places, Pass.cells,
  Pass.removed_leaves_of_deletes, Pass.nulled_leaves_of_nullifies
-/
import LooseKeys.Proofs.Store.Evolution
import Mathlib.Data.Set.Card
import Mathlib.Order.CompletePartialOrder

/-!
A row is told by its table and its id, and a value by its row and its column.  What has gone since
a first store is a set of rows, and a set of values that were null in some state on the way, also
when their row was deleted afterwards.  A pass adds to one of the two sets as many members as it
selects rows, since it selects no row twice and no value that was null before.
-/

namespace LooseKeys

/-- Where a row is. -/
structure RowPlace where
  table : String
  rowId : Int
deriving DecidableEq, Repr

/-- Where a value is. -/
structure Cell where
  table : String
  rowId : Int
  column : String
deriving DecidableEq, Repr

namespace Store

/-- There is a row at the place. -/
def Has (store : Store) (place : RowPlace) : Prop :=
  ∃ row ∈ store.rowsOf place.table, row.id = place.rowId

/-- The row of the cell is there and has a value in the column. -/
def Holds (store : Store) (cell : Cell) : Prop :=
  ∃ row ∈ store.rowsOf cell.table, row.id = cell.rowId ∧ row.value? cell.column ≠ none

/-- The row of the cell is there and its column is null. -/
def IsNull (store : Store) (cell : Cell) : Prop :=
  ∃ row ∈ store.rowsOf cell.table, row.id = cell.rowId ∧ row.value? cell.column = none

/-- The rows that are not there any more. -/
def removed (before after : Store) : Set RowPlace :=
  {place | before.Has place ∧ ¬ after.Has place}

/-- The values that were set to null by some state. -/
def nulled (before : Store) (states : List Store) : Set Cell :=
  {cell | before.Holds cell ∧ ∃ state ∈ states, state.IsNull cell}

@[simp] theorem removed_self (store : Store) : store.removed store = ∅ := by
  ext place
  simp [removed]

theorem not_isNull_of_holds {store : Store} {cell : Cell}
    (holds : store.Holds cell) : ¬ store.IsNull cell := by
  rintro ⟨other, ofOther, sameOther, null⟩
  obtain ⟨row, ofRow, same, hasValue⟩ := holds
  have equal : row = other :=
    List.inj_on_of_nodup_map (store.nodup_rowsOf cell.table) ofRow ofOther
      (same.trans sameOther.symm)
  rw [equal] at hasValue
  exact hasValue null

@[simp] theorem nulled_singleton_self (store : Store) :
    store.nulled [store] = ∅ := by
  ext cell
  simp only [nulled, List.mem_singleton, exists_eq_left, Set.mem_ofPred_eq,
    Set.mem_empty_iff_false, iff_false, not_and]
  exact not_isNull_of_holds

/-- The order and the number of times in which states are named do not matter. -/
theorem nulled_congr {before : Store} {states others : List Store}
    (same : ∀ state, state ∈ states ↔ state ∈ others) :
    before.nulled states = before.nulled others := by
  ext cell
  simp only [nulled, same]

namespace Evolves

variable {mandate : Mandate} {before after : Store} (evolves : before.Evolves mandate after)
include evolves

theorem has_before {place : RowPlace} (has : after.Has place) : before.Has place := by
  obtain ⟨later, ofAfter, same⟩ := has
  obtain ⟨row, ofBefore, change⟩ := (evolves.rows place.table).mem_before ofAfter
  exact ⟨row, ofBefore, change.id.symm.trans same⟩

theorem holds_before {cell : Cell} (holds : after.Holds cell) : before.Holds cell := by
  obtain ⟨later, ofAfter, same, hasValue⟩ := holds
  obtain ⟨row, ofBefore, change⟩ := (evolves.rows cell.table).mem_before ofAfter
  refine ⟨row, ofBefore, change.id.symm.trans same, ?_⟩
  obtain ⟨value, held⟩ := Option.ne_none_iff_exists'.mp hasValue
  rw [change.value?_before held]
  exact Option.some_ne_none value

end Evolves

end Store

/-- No id is selected twice. -/
theorem Table.nodup_selection (table : Table) (column : String) (parentIds : List Int)
    (mode : LockMode) (limit : Int) : (table.selection column parentIds mode limit).Nodup := by
  have ofTable : ((table.eligible column parentIds mode).take limit.toNat).Sublist table.rows :=
    (List.take_sublist _ _).trans List.filter_sublist
  exact (ofTable.map _).nodup table.nodup_ids

/-- As many members as ids. -/
theorem encard_image_ids {α : Type} {form : Int → α} (injective : form.Injective)
    {ids : List Int} (nodup : ids.Nodup) : (form '' {id | id ∈ ids}).encard = ids.length := by
  rw [injective.injOn.encard_image, ← List.coe_toFinset, Set.encard_coe_eq_coe_finsetCard,
    List.toFinset_card_of_nodup nodup]

/-- What is null stays null when a column is set to null. -/
theorem Row.value?_nullify_of_none (row : Row) {column other : String}
    (null : row.value? other = none) : (row.nullify column).value? other = none := by
  by_cases same : other = column
  · rw [same]
    exact row.value?_nullify_self column
  · rw [row.value?_nullify_of_ne same, null]

namespace Pass

/-- The rows that a pass selects of a table. -/
def places (pass : Pass) (table : Table) : Set RowPlace :=
  (fun id => ⟨pass.relation.childTable, id⟩) '' {id | id ∈ pass.selected table}

/-- The values by which a pass selects rows of a table. -/
def cells (pass : Pass) (table : Table) : Set Cell :=
  (fun id => ⟨pass.relation.childTable, id, pass.relation.column⟩) ''
    {id | id ∈ pass.selected table}

variable (pass : Pass) {store : Store} {table : Table}
  (found : store.table? pass.relation.childTable = some table)

section Selected

theorem encard_places (table : Table) :
    (pass.places table).encard = (pass.selected table).length := by
  refine encard_image_ids ?_ (table.nodup_selection _ _ _ _)
  intro first second same
  exact congrArg RowPlace.rowId same

theorem encard_cells (table : Table) :
    (pass.cells table).encard = (pass.selected table).length := by
  refine encard_image_ids ?_ (table.nodup_selection _ _ _ _)
  intro first second same
  exact congrArg Cell.rowId same

include found

/-- What a pass selects is there. -/
theorem has_of_mem_places {place : RowPlace} (member : place ∈ pass.places table) :
    store.Has place := by
  obtain ⟨id, selected, rfl⟩ := member
  obtain ⟨row, ofTable, same, _⟩ := Table.exists_of_mem_selection selected
  refine ⟨row, ?_, same⟩
  rwa [Store.rowsOf_of_table? found]

/-- A value by which a pass selects a row is there. -/
theorem holds_of_mem_cells {cell : Cell} (member : cell ∈ pass.cells table) :
    store.Holds cell := by
  obtain ⟨id, selected, rfl⟩ := member
  obtain ⟨row, ofTable, same, references⟩ := Table.exists_of_mem_selection selected
  obtain ⟨value, _, held⟩ := Row.references_iff.mp references
  refine ⟨row, ?_, same, ?_⟩
  · rwa [Store.rowsOf_of_table? found]
  · rw [held]
    exact Option.some_ne_none value

end Selected

/-- A pass leaves the rows of other tables alone. -/
theorem rowsOf_leaves_of_ne {name : String} (ne : name ≠ pass.relation.childTable) :
    (pass.leaves store table).rowsOf name = store.rowsOf name :=
  Store.rowsOf_afterPass_of_ne _ _ _ _ _ _ ne

section Deleted

variable (deletes : pass.relation.strategy = .asyncDelete)
include deletes

theorem rowsOf_leaves_of_deletes :
    (pass.leaves store table).rowsOf pass.relation.childTable
      = table.rows.filter (·.id ∉ pass.selected table) := by
  rw [leaves, Store.rowsOf_afterPass_self, deletes]
  rfl

include found

/-- A deleting pass takes the rows that it selects. -/
theorem has_leaves_of_deletes {place : RowPlace} :
    (pass.leaves store table).Has place ↔ store.Has place ∧ place ∉ pass.places table := by
  obtain ⟨name, rowId⟩ := place
  unfold Store.Has
  by_cases here : name = pass.relation.childTable
  · subst here
    have selected : (⟨pass.relation.childTable, rowId⟩ : RowPlace) ∈ pass.places table ↔
        rowId ∈ pass.selected table := by
      simp [places]
    rw [selected]
    simp only [rowsOf_leaves_of_deletes pass deletes, Store.rowsOf_of_table? found,
      List.mem_filter, decide_eq_true_eq]
    constructor
    · rintro ⟨row, ⟨ofTable, stays⟩, rfl⟩
      exact ⟨⟨row, ofTable, rfl⟩, stays⟩
    · rintro ⟨⟨row, ofTable, rfl⟩, stays⟩
      exact ⟨row, ⟨ofTable, stays⟩, rfl⟩
  · have elsewhere : (⟨name, rowId⟩ : RowPlace) ∉ pass.places table := by
      rintro ⟨_, _, same⟩
      exact here (congrArg RowPlace.table same).symm
    simp only [pass.rowsOf_leaves_of_ne here, elsewhere, not_false_eq_true, and_true]

/-- A deleting pass sets no value to null. -/
theorem isNull_leaves_of_deletes {cell : Cell}
    (null : (pass.leaves store table).IsNull cell) : store.IsNull cell := by
  obtain ⟨row, ofLeft, same, isNull⟩ := null
  refine ⟨row, ?_, same, isNull⟩
  by_cases here : cell.table = pass.relation.childTable
  · rw [here, rowsOf_leaves_of_deletes pass deletes] at ofLeft
    rw [here, Store.rowsOf_of_table? found]
    exact (List.mem_filter.mp ofLeft).1
  · rwa [pass.rowsOf_leaves_of_ne here] at ofLeft

end Deleted

section Nullified

variable (nullifies : pass.relation.strategy = .asyncNullify)
include nullifies

theorem rowsOf_leaves_of_nullifies :
    (pass.leaves store table).rowsOf pass.relation.childTable
      = table.rows.map (fun row =>
        if row.id ∈ pass.selected table then row.nullify pass.relation.column else row) := by
  rw [leaves, Store.rowsOf_afterPass_self, nullifies]
  rfl

include found

/-- A nullifying pass takes no row. -/
theorem has_leaves_of_nullifies {place : RowPlace} :
    (pass.leaves store table).Has place ↔ store.Has place := by
  unfold Store.Has
  by_cases here : place.table = pass.relation.childTable
  · rw [here, rowsOf_leaves_of_nullifies pass nullifies, Store.rowsOf_of_table? found]
    simp only [List.mem_map, exists_exists_and_eq_and]
    refine exists_congr (fun row => and_congr_right (fun _ => ?_))
    split <;> rfl
  · rw [pass.rowsOf_leaves_of_ne here]

/-- A nullifying pass sets the values to null by which it selects rows. -/
theorem isNull_leaves_of_nullifies {cell : Cell} :
    (pass.leaves store table).IsNull cell ↔ store.IsNull cell ∨ cell ∈ pass.cells table := by
  obtain ⟨name, rowId, column⟩ := cell
  unfold Store.IsNull
  by_cases here : name = pass.relation.childTable
  · subst here
    have selected : (⟨pass.relation.childTable, rowId, column⟩ : Cell) ∈ pass.cells table ↔
        rowId ∈ pass.selected table ∧ pass.relation.column = column := by
      simp [cells]
    rw [selected]
    simp only [rowsOf_leaves_of_nullifies pass nullifies, Store.rowsOf_of_table? found,
      List.mem_map, exists_exists_and_eq_and]
    constructor
    · rintro ⟨row, ofTable, same, null⟩
      by_cases chosen : row.id ∈ pass.selected table
      · rw [if_pos chosen] at same null
        change row.id = rowId at same
        by_cases cleared : column = pass.relation.column
        · exact Or.inr ⟨same ▸ chosen, cleared.symm⟩
        · rw [Row.value?_nullify_of_ne row cleared] at null
          exact Or.inl ⟨row, ofTable, same, null⟩
      · rw [if_neg chosen] at same null
        exact Or.inl ⟨row, ofTable, same, null⟩
    · rintro (⟨row, ofTable, rfl, null⟩ | ⟨chosen, rfl⟩)
      · refine ⟨row, ofTable, ?_⟩
        split
        · exact ⟨rfl, row.value?_nullify_of_none null⟩
        · exact ⟨rfl, null⟩
      · obtain ⟨row, ofTable, rfl, _⟩ := Table.exists_of_mem_selection chosen
        refine ⟨row, ofTable, ?_⟩
        change row.id ∈ pass.selected table at chosen
        rw [if_pos chosen]
        exact ⟨rfl, Row.value?_nullify_self row _⟩
  · have elsewhere : (⟨name, rowId, column⟩ : Cell) ∉ pass.cells table := by
      rintro ⟨_, _, same⟩
      exact here (congrArg Cell.table same).symm
    simp only [pass.rowsOf_leaves_of_ne here, elsewhere, or_false]

end Nullified

section Sets

variable {start : Store} {mandate : Mandate} {states : List Store} (shown : store ∈ states)
include found

/-- With a deleting pass the rows that it selects are gone. -/
theorem removed_leaves_of_deletes (deletes : pass.relation.strategy = .asyncDelete)
    (evolves : start.Evolves mandate store) :
    start.removed (pass.leaves store table) = start.removed store ∪ pass.places table := by
  ext place
  simp only [Store.removed, Set.mem_ofPred_eq, Set.mem_union,
    pass.has_leaves_of_deletes found deletes, not_and_or, not_not]
  have selected : place ∈ pass.places table → start.Has place :=
    fun member => evolves.has_before (pass.has_of_mem_places found member)
  constructor
  · rintro ⟨had, gone | member⟩
    · exact Or.inl ⟨had, gone⟩
    · exact Or.inr member
  · rintro (⟨had, gone⟩ | member)
    · exact ⟨had, Or.inl gone⟩
    · exact ⟨selected member, Or.inr member⟩

theorem disjoint_removed_places : Disjoint (start.removed store) (pass.places table) :=
  Set.disjoint_left.mpr
    (fun _ removed member => removed.2 (pass.has_of_mem_places found member))

/-- With a nullifying pass no row is gone. -/
theorem removed_leaves_of_nullifies (nullifies : pass.relation.strategy = .asyncNullify) :
    start.removed (pass.leaves store table) = start.removed store := by
  ext place
  simp only [Store.removed, Set.mem_ofPred_eq, pass.has_leaves_of_nullifies found nullifies]

include shown

/-- With a deleting pass no value is set to null. -/
theorem nulled_leaves_of_deletes (deletes : pass.relation.strategy = .asyncDelete) :
    start.nulled (states ++ [pass.leaves store table]) = start.nulled states := by
  ext cell
  simp only [Store.nulled, Set.mem_ofPred_eq, List.mem_append, List.mem_singleton, or_and_right,
    exists_or, exists_eq_left]
  have before : (pass.leaves store table).IsNull cell → ∃ state ∈ states, state.IsNull cell :=
    fun null => ⟨store, shown, pass.isNull_leaves_of_deletes found deletes null⟩
  exact and_congr_right (fun _ => or_iff_left_of_imp before)

/-- With a nullifying pass the values by which it selects rows are set to null. -/
theorem nulled_leaves_of_nullifies (nullifies : pass.relation.strategy = .asyncNullify)
    (evolves : start.Evolves mandate store) :
    start.nulled (states ++ [pass.leaves store table])
      = start.nulled states ∪ pass.cells table := by
  ext cell
  simp only [Store.nulled, Set.mem_ofPred_eq, Set.mem_union, List.mem_append,
    List.mem_singleton, or_and_right, exists_or, exists_eq_left,
    pass.isNull_leaves_of_nullifies found nullifies]
  have before : store.IsNull cell → ∃ state ∈ states, state.IsNull cell :=
    fun null => ⟨store, shown, null⟩
  have selected : cell ∈ pass.cells table → start.Holds cell :=
    fun member => evolves.holds_before (pass.holds_of_mem_cells found member)
  constructor
  · rintro ⟨held, earlier | null | member⟩
    · exact Or.inl ⟨held, earlier⟩
    · exact Or.inl ⟨held, before null⟩
    · exact Or.inr member
  · rintro (⟨held, earlier⟩ | member)
    · exact ⟨held, Or.inl earlier⟩
    · exact ⟨selected member, Or.inr (Or.inr member)⟩

omit shown in
/-- A value that a pass finds was null in no earlier state. -/
theorem disjoint_nulled_cells
    (seen : ∀ state ∈ states, state.Evolves Mandate.any store) :
    Disjoint (start.nulled states) (pass.cells table) := by
  refine Set.disjoint_left.mpr ?_
  rintro cell ⟨_, state, earlier, null⟩ member
  have held := (seen state earlier).holds_before (pass.holds_of_mem_cells found member)
  exact Store.not_isNull_of_holds held null

end Sets

end Pass

end LooseKeys
