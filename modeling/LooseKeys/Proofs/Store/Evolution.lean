/-
Module: LooseKeys.Proofs.Store.Evolution
Purpose: How the rows and the log of a store can change when nobody but a cleanup writes.
Main exports: Mandate, Row.Evolves, RowsEvolve, Store.Evolves, Store.afterPass_evolves,
  Pass.evolves, Store.markProcessed_evolves, Store.markProcessed_evolves_any, Store.Awaits,
  Store.IsClear
-/
import LooseKeys.Proofs.Store.Calls
import Mathlib.Data.List.Forall2

/-!
A cleanup only takes away: rows go, columns become null, pending records become processed.
`Store.Evolves` says so, and says for each change that a `Mandate` allows it.  It is a preorder,
so what each call does follows for whole runs.  A row that goes was held to account by a value
it still had, and values are never set, so the value was there from the start.
-/

namespace LooseKeys

/-- What is allowed: to modify a row of a table in a certain way because a column holds a value,
and to mark a record. -/
structure Mandate where
  modify : ModificationKind → String → String → Int → Prop
  mark : DeletedRecord → Prop

/-- The mandate that allows everything. -/
def Mandate.any : Mandate where
  modify _ _ _ _ := True
  mark _ := True

/-- The record with the status that marking gives it. -/
def DeletedRecord.processed (record : DeletedRecord) : DeletedRecord :=
  { record with status := .processed }

/-- A row that is still there: each column has its value, or lost one that it was allowed to
lose. -/
structure Row.Evolves (may : String → Int → Prop) (before after : Row) : Prop where
  id : after.id = before.id
  values : ∀ column, after.value? column = before.value? column ∨
    after.value? column = none ∧ ∃ value, before.value? column = some value ∧ may column value

namespace Row.Evolves

variable {may : String → Int → Prop}

theorem refl (row : Row) : row.Evolves may row := ⟨rfl, fun _ => Or.inl rfl⟩

/-- A value that is there was there before. -/
theorem value?_before {before after : Row} (evolves : before.Evolves may after) {column : String}
    {value : Int} (holds : after.value? column = some value) :
    before.value? column = some value := by
  rcases evolves.values column with same | ⟨lost, _⟩
  · rw [← same, holds]
  · rw [lost] at holds
    cases holds

theorem trans {first second third : Row} (one : first.Evolves may second)
    (two : second.Evolves may third) : first.Evolves may third := by
  constructor
  · exact two.id.trans one.id
  · intro column
    rcases two.values column with same | ⟨lost, value, held, allowed⟩
    · rw [same]
      exact one.values column
    · exact Or.inr ⟨lost, value, one.value?_before held, allowed⟩

theorem mono {may' : String → Int → Prop} (weaker : ∀ column value, may column value →
    may' column value) {before after : Row} (evolves : before.Evolves may after) :
    before.Evolves may' after := by
  constructor
  · exact evolves.id
  · intro column
    rcases evolves.values column with same | ⟨lost, value, held, allowed⟩
    · exact Or.inl same
    · exact Or.inr ⟨lost, value, held, weaker column value allowed⟩

theorem nullify {row : Row} {column : String} {value : Int}
    (held : row.value? column = some value) (allowed : may column value) :
    row.Evolves may (row.nullify column) := by
  constructor
  · rfl
  · intro other
    by_cases same : other = column
    · subst same
      exact Or.inr ⟨Row.value?_nullify_self row other, value, held, allowed⟩
    · exact Or.inl (Row.value?_nullify_of_ne row same)

end Row.Evolves

/-- The rows of a table some time later, in their order. -/
inductive RowsEvolve (may : ModificationKind → String → Int → Prop) :
    List Row → List Row → Prop where
  | nil : RowsEvolve may [] []
  | gone {row : Row} {before after : List Row} (column : String) (value : Int)
      (held : row.value? column = some value) (allowed : may .deletion column value)
      (rest : RowsEvolve may before after) : RowsEvolve may (row :: before) after
  | kept {row later : Row} {before after : List Row} (evolves : row.Evolves (may .update) later)
      (rest : RowsEvolve may before after) : RowsEvolve may (row :: before) (later :: after)

namespace RowsEvolve

variable {may : ModificationKind → String → Int → Prop}

theorem refl : ∀ rows : List Row, RowsEvolve may rows rows
  | [] => .nil
  | row :: rest => .kept (.refl row) (refl rest)

theorem trans {first second third : List Row} (one : RowsEvolve may first second)
    (two : RowsEvolve may second third) : RowsEvolve may first third := by
  induction one generalizing third with
  | nil => exact two
  | gone column value held allowed _ ih => exact .gone column value held allowed (ih two)
  | kept evolves _ ih =>
      cases two with
      | gone column value held allowed rest =>
          exact .gone column value (evolves.value?_before held) allowed (ih rest)
      | kept evolves' rest => exact .kept (evolves.trans evolves') (ih rest)

theorem mono {may' : ModificationKind → String → Int → Prop}
    (weaker : ∀ kind column value, may kind column value → may' kind column value)
    {before after : List Row} (evolve : RowsEvolve may before after) :
    RowsEvolve may' before after := by
  induction evolve with
  | nil => exact .nil
  | gone column value held allowed _ ih =>
      exact .gone column value held (weaker .deletion column value allowed) ih
  | kept evolves _ ih => exact .kept (evolves.mono (weaker .update)) ih

theorem mem_before {before after : List Row} (evolve : RowsEvolve may before after) {later : Row}
    (member : later ∈ after) : ∃ row ∈ before, row.Evolves (may .update) later := by
  induction evolve with
  | nil => cases member
  | gone _ _ _ _ _ ih =>
      obtain ⟨row, ofRest, evolves⟩ := ih member
      exact ⟨row, List.mem_cons_of_mem _ ofRest, evolves⟩
  | kept evolves _ ih =>
      rcases List.mem_cons.mp member with rfl | ofRest
      · exact ⟨_, List.mem_cons_self, evolves⟩
      · obtain ⟨row, ofBefore, evolves'⟩ := ih ofRest
        exact ⟨row, List.mem_cons_of_mem _ ofBefore, evolves'⟩

/-- A row is still there, or something it held allowed its deletion. -/
theorem mem_after {before after : List Row} (evolve : RowsEvolve may before after) {row : Row}
    (member : row ∈ before) :
    (∃ later ∈ after, row.Evolves (may .update) later) ∨
      ∃ column value, row.value? column = some value ∧ may .deletion column value := by
  induction evolve with
  | nil => cases member
  | gone column value held allowed _ ih =>
      rcases List.mem_cons.mp member with rfl | ofRest
      · exact Or.inr ⟨column, value, held, allowed⟩
      · exact ih ofRest
  | kept evolves _ ih =>
      rcases List.mem_cons.mp member with rfl | ofRest
      · exact Or.inl ⟨_, List.mem_cons_self, evolves⟩
      · exact (ih ofRest).imp_left
          (fun ⟨later, ofAfter, evolves'⟩ => ⟨later, List.mem_cons_of_mem _ ofAfter, evolves'⟩)

/-- No row comes in, and the order stays. -/
theorem ids_sublist {before after : List Row} (evolve : RowsEvolve may before after) :
    (after.map (·.id)).Sublist (before.map (·.id)) := by
  induction evolve with
  | nil => exact List.Sublist.refl _
  | gone _ _ _ _ _ ih => exact List.Sublist.cons _ ih
  | kept evolves _ ih =>
      simp only [List.map_cons, evolves.id]
      exact List.Sublist.cons_cons _ ih

theorem filter {rows : List Row} (keep : Row → Bool)
    (justified : ∀ row ∈ rows, ¬ keep row →
      ∃ column value, row.value? column = some value ∧ may .deletion column value) :
    RowsEvolve may rows (rows.filter keep) := by
  induction rows with
  | nil => exact .nil
  | cons row rest ih =>
      have later := ih (fun other member => justified other (List.mem_cons_of_mem row member))
      by_cases stays : keep row
      · rw [List.filter_cons_of_pos stays]
        exact .kept (.refl row) later
      · rw [List.filter_cons_of_neg stays]
        obtain ⟨column, value, held, allowed⟩ := justified row List.mem_cons_self stays
        exact .gone column value held allowed later

theorem map {rows : List Row} (change : Row → Row)
    (justified : ∀ row ∈ rows, row.Evolves (may .update) (change row)) :
    RowsEvolve may rows (rows.map change) := by
  induction rows with
  | nil => exact .nil
  | cons row rest ih =>
      exact .kept (justified row List.mem_cons_self)
        (ih (fun other member => justified other (List.mem_cons_of_mem row member)))

end RowsEvolve

/-- A pass may do to a table what every value it looks for allows it to do. -/
theorem Table.apply_evolves {table : Table} {may : ModificationKind → String → Int → Prop}
    {kind : ModificationKind} {column : String} {parentIds : List Int} {mode : LockMode}
    {limit : Int} (allowed : ∀ value ∈ parentIds, may kind column value) :
    RowsEvolve may table.rows
      (table.apply kind column (table.selection column parentIds mode limit)).rows := by
  have held : ∀ row ∈ table.rows, row.id ∈ table.selection column parentIds mode limit →
      ∃ value, row.value? column = some value ∧ may kind column value := by
    intro row member selected
    obtain ⟨value, ofParent, holds⟩ :=
      Row.references_iff.mp (references_of_mem_selection member selected)
    exact ⟨value, holds, allowed value ofParent⟩
  cases kind with
  | deletion =>
      refine RowsEvolve.filter _ ?_
      intro row member leaves
      obtain ⟨value, holds, permitted⟩ := held row member (by simpa using leaves)
      exact ⟨column, value, holds, permitted⟩
  | update =>
      refine RowsEvolve.map _ ?_
      intro row member
      split
      · rename_i selected
        obtain ⟨value, holds, permitted⟩ := held row member selected
        exact .nullify holds permitted
      · exact .refl row

/-- A record some time later: the same, or marked where that was allowed. -/
def DeletedRecord.Evolves (may : DeletedRecord → Prop) (before after : DeletedRecord) : Prop :=
  after = before ∨ before.isPending ∧ may before ∧ after = before.processed

theorem DeletedRecord.Evolves.trans {may : DeletedRecord → Prop}
    {first second third : DeletedRecord} (one : first.Evolves may second)
    (two : second.Evolves may third) : first.Evolves may third := by
  rcases one with rfl | ⟨pending, allowed, rfl⟩
  · exact two
  · rcases two with rfl | ⟨impossible, _, _⟩
    · exact Or.inr ⟨pending, allowed, rfl⟩
    · cases impossible

theorem DeletedRecord.Evolves.mono {may may' : DeletedRecord → Prop}
    (weaker : ∀ record, may record → may' record) {before after : DeletedRecord}
    (evolves : before.Evolves may after) : before.Evolves may' after := by
  rcases evolves with same | ⟨pending, allowed, marked⟩
  · exact Or.inl same
  · exact Or.inr ⟨pending, weaker before allowed, marked⟩

theorem DeletedRecord.Evolves.id {may : DeletedRecord → Prop} {before after : DeletedRecord}
    (evolves : before.Evolves may after) : after.id = before.id := by
  rcases evolves with rfl | ⟨_, _, rfl⟩ <;> rfl

/-- The records of a log some time later, and later still. -/
theorem DeletedRecord.evolve_trans {may : DeletedRecord → Prop}
    {first second third : List DeletedRecord} (one : List.Forall₂ (Evolves may) first second)
    (two : List.Forall₂ (Evolves may) second third) :
    List.Forall₂ (Evolves may) first third := by
  induction one generalizing third with
  | nil => exact two
  | cons evolves _ ih =>
      cases two with
      | cons evolves' rest => exact .cons (evolves.trans evolves') (ih rest)

/-- Each record keeps its place. -/
theorem DeletedRecord.evolve_getElem? {may : DeletedRecord → Prop}
    {before after : List DeletedRecord} (evolve : List.Forall₂ (Evolves may) before after)
    {index : Nat} {record : DeletedRecord} (found : before[index]? = some record) :
    ∃ later, after[index]? = some later ∧ record.Evolves may later := by
  induction evolve generalizing index with
  | nil => cases found
  | cons evolves _ ih =>
      cases index with
      | zero =>
          cases found
          exact ⟨_, rfl, evolves⟩
      | succ index => exact ih found

namespace Store

/-- A store some time later, when nothing was done to it that a mandate does not allow. -/
structure Evolves (mandate : Mandate) (before after : Store) : Prop where
  rows : ∀ name, RowsEvolve (fun kind => mandate.modify kind name)
    (before.rowsOf name) (after.rowsOf name)
  tables : ∀ name, (after.table? name).map (·.lastId) = (before.table? name).map (·.lastId)
  log : List.Forall₂ (DeletedRecord.Evolves mandate.mark) before.log after.log

/-- A pending record of the parent table has the key. -/
def Awaits (store : Store) (parentTable : String) (key : Int) : Prop :=
  ∃ record ∈ store.log,
    record.table = parentTable ∧ record.isPending ∧ record.primaryKey = key

/-- No row of the child table holds the key in the column of the relation. -/
def IsClear (store : Store) (relation : Relation) (key : Int) : Prop :=
  ∀ row ∈ store.rowsOf relation.childTable, row.value? relation.column ≠ some key

namespace Evolves

variable {mandate : Mandate}

/-- What one mandate allows, a wider one allows too. -/
theorem mono {wider : Mandate}
    (modify : ∀ kind table column key, mandate.modify kind table column key →
      wider.modify kind table column key)
    (mark : ∀ record, mandate.mark record → wider.mark record) {before after : Store}
    (evolves : before.Evolves mandate after) : before.Evolves wider after where
  rows name := (evolves.rows name).mono (fun kind => modify kind name)
  tables := evolves.tables
  log := evolves.log.imp (fun _ _ change => change.mono mark)

theorem refl (store : Store) : store.Evolves mandate store where
  rows _ := .refl _
  tables _ := rfl
  log := List.forall₂_same.mpr (fun _ _ => Or.inl rfl)

theorem trans {first second third : Store} (one : first.Evolves mandate second)
    (two : second.Evolves mandate third) : first.Evolves mandate third where
  rows name := (one.rows name).trans (two.rows name)
  tables name := (two.tables name).trans (one.tables name)
  log := DeletedRecord.evolve_trans one.log two.log

variable {before after : Store} (evolves : before.Evolves mandate after)
include evolves

/-- A record is still there, or it was pending and has been marked. -/
theorem mem_log_after {record : DeletedRecord} (member : record ∈ before.log) :
    record ∈ after.log ∨ record.isPending ∧ record.processed ∈ after.log := by
  have log := evolves.log
  generalize before.log = records at member log
  generalize after.log = records' at log ⊢
  induction log with
  | nil => cases member
  | cons change _ ih =>
      rcases List.mem_cons.mp member with rfl | ofRest
      · rcases change with rfl | ⟨pending, _, rfl⟩
        · exact Or.inl List.mem_cons_self
        · exact Or.inr ⟨pending, List.mem_cons_self⟩
      · exact (ih ofRest).imp (List.mem_cons_of_mem _)
          (And.imp_right (List.mem_cons_of_mem _))

/-- A pending record was there before. -/
theorem mem_log_before {record : DeletedRecord} (member : record ∈ after.log)
    (pending : record.isPending) : record ∈ before.log := by
  have log := evolves.log
  generalize before.log = records at log ⊢
  generalize after.log = records' at member log
  induction log with
  | nil => cases member
  | cons change _ ih =>
      rcases List.mem_cons.mp member with rfl | ofRest
      · rcases change with rfl | ⟨_, _, rfl⟩
        · exact List.mem_cons_self
        · cases pending
      · exact List.mem_cons_of_mem _ (ih ofRest)

theorem awaits_before {parentTable : String} {key : Int} (awaits : after.Awaits parentTable key) :
    before.Awaits parentTable key := by
  obtain ⟨record, member, ofTable, pending, hasKey⟩ := awaits
  exact ⟨record, evolves.mem_log_before member pending, ofTable, pending, hasKey⟩

/-- What is clear stays clear. -/
theorem isClear {relation : Relation} {key : Int} (clear : before.IsClear relation key) :
    after.IsClear relation key := by
  intro later member holds
  obtain ⟨row, ofBefore, change⟩ := (evolves.rows relation.childTable).mem_before member
  exact clear row ofBefore (change.value?_before holds)

/-- A table is neither made nor dropped. -/
theorem isSome_table? (name : String) :
    (after.table? name).isSome = (before.table? name).isSome := by
  have tables := congrArg Option.isSome (evolves.tables name)
  simpa using tables

end Evolves

theorem evolves_of_eq {mandate : Mandate} {before after : Store}
    (tables : after.tables = before.tables) (log : after.log = before.log) :
    before.Evolves mandate after := by
  have same : ∀ name, after.table? name = before.table? name := by
    intro name
    simp only [table?, tables]
  constructor
  · intro name
    simp only [rowsOf, same]
    exact .refl _
  · intro name
    rw [same]
  · rw [log]
    exact List.forall₂_same.mpr (fun _ _ => Or.inl rfl)

/-- Marking changes the status of the records that it finds, and nothing else. -/
theorem markProcessed_evolves {mandate : Mandate} {store : Store} {parentTable : String}
    {firstId lastId : Int}
    (allowed : ∀ record ∈ store.log, isMarkable parentTable firstId lastId record →
      mandate.mark record) :
    store.Evolves mandate (markProcessed parentTable firstId lastId store).2 := by
  rcases markProcessed_cases parentTable firstId lastId store with ⟨_, _, ended⟩ | ⟨_, ended⟩
  · rw [ended]
    exact evolves_of_eq rfl rfl
  · rw [ended]
    refine ⟨fun name => .refl _, fun _ => rfl, ?_⟩
    refine List.forall₂_map_right_iff.mpr (List.forall₂_same.mpr ?_)
    intro record member
    split
    · rename_i markable
      have pending : record.isPending := by
        simp only [isMarkable, Bool.and_eq_true] at markable
        exact markable.1.1.2
      exact Or.inr ⟨pending, allowed record member markable, rfl⟩
    · exact Or.inl rfl

theorem markProcessed_evolves_any (parentTable : String) (firstId lastId : Int) (store : Store) :
    store.Evolves Mandate.any (markProcessed parentTable firstId lastId store).2 :=
  markProcessed_evolves (fun _ _ _ => trivial)

/-- A pass on a table changes its rows only. -/
theorem afterPass_evolves {mandate : Mandate} {store : Store} {kind : ModificationKind}
    {relation : Relation} {table : Table}
    (found : store.table? relation.childTable = some table) {parentIds : List Int}
    {mode : LockMode} {limit : Int}
    (allowed : ∀ value ∈ parentIds,
      mandate.modify kind relation.childTable relation.column value) :
    store.Evolves mandate (store.afterPass kind relation mode table
      (table.selection relation.column parentIds mode limit)) := by
  constructor
  · intro name
    by_cases same : name = relation.childTable
    · subst same
      rw [rowsOf_afterPass_self, rowsOf_of_table? found]
      exact Table.apply_evolves allowed
    · rw [rowsOf_afterPass_of_ne _ _ _ _ _ _ same]
      exact .refl _
  · intro name
    by_cases same : name = relation.childTable
    · subst same
      simp [found]
    · rw [table?_afterPass_of_ne _ _ _ _ _ _ same]
  · exact List.forall₂_same.mpr (fun _ _ => Or.inl rfl)

end Store

namespace Pass

/-- A pass does nothing to the store but what the keys it looks for allow, also when it fails. -/
theorem evolves {mandate : Mandate} (pass : Pass) {store : Store}
    (allowed : ∀ value ∈ pass.parentIds,
      mandate.modify pass.relation.strategy.kind pass.relation.childTable pass.relation.column
        value) :
    store.Evolves mandate (pass.run Store.storage store).2 := by
  rcases pass.run_leaves_cases store with ended | ended | ⟨table, found, ended⟩
  · rw [ended]
    exact .refl store
  · rw [ended]
    exact Store.evolves_of_eq rfl rfl
  · rw [ended]
    exact Store.afterPass_evolves found allowed

theorem evolves_any (pass : Pass) (store : Store) :
    store.Evolves Mandate.any (pass.run Store.storage store).2 :=
  pass.evolves (fun _ _ => trivial)

/-- A pass leaves every other table alone, its locks included. -/
theorem table?_run_of_ne (pass : Pass) (store : Store) {name : String}
    (ne : name ≠ pass.relation.childTable) :
    (pass.run Store.storage store).2.table? name = store.table? name := by
  rcases pass.run_leaves_cases store with ended | ended | ⟨table, _, ended⟩
  · rw [ended]
  · rw [ended]
    rfl
  · rw [ended]
    exact Store.table?_afterPass_of_ne _ _ _ _ _ _ ne

/-- A pass leaves the log alone. -/
theorem log_run (pass : Pass) (store : Store) :
    (pass.run Store.storage store).2.log = store.log := by
  rcases pass.run_leaves_cases store with ended | ended | ⟨table, _, ended⟩
  · rw [ended]
  · rw [ended]
  · rw [ended]
    rfl

end Pass

end LooseKeys
