/-
Module: LooseKeys.Proofs.Provenance
Purpose: Every change of an invocation goes back to a record that was pending at its start.
Main exports: Store.ChangesAccountedFor, Sweep.Moves.table?_eq,
  Invocation.changes_accounted_for
-/
import LooseKeys.Proofs.Invocation
import LooseKeys.Proofs.Sweep.Moves

/-!
`Store.Evolves` under the mandate of the first log says for each row that is gone, and for each
value that is gone, that a relation was allowed to take it for a key that the row held at the
start.  Here this is read off row by row, by the ids of the rows, which the store gives once.
-/

namespace LooseKeys

/-- Between two stores nothing changed but what the pending records of the first one ask for
under the relations of a registry. -/
structure Store.ChangesAccountedFor (registry : Registry) (before after : Store) : Prop where
  /-- A row that is gone held a key of a pending record in the column of a deleting relation. -/
  removed : ∀ name, ∀ row ∈ before.rowsOf name, (∀ later ∈ after.rowsOf name, later.id ≠ row.id) →
    ∃ relation ∈ registry.relations,
      relation.strategy = .asyncDelete ∧ relation.childTable = name ∧
        ∃ key, row.value? relation.column = some key ∧ before.Awaits relation.parentTable key
  /-- A column that changed became null, had the key of a pending record, and is that of a
  nullifying relation. -/
  nullified : ∀ name, ∀ row ∈ before.rowsOf name, ∀ later ∈ after.rowsOf name,
    later.id = row.id → ∀ column, later.value? column ≠ row.value? column →
      later.value? column = none ∧ ∃ relation ∈ registry.relations,
        relation.strategy = .asyncNullify ∧ relation.childTable = name ∧
          relation.column = column ∧
          ∃ key, row.value? column = some key ∧ before.Awaits relation.parentTable key
  /-- No row is added, and the rows that stay keep their order. -/
  added : ∀ name,
    ((after.rowsOf name).map (·.id)).Sublist ((before.rowsOf name).map (·.id))
  /-- A table that is the child table of no relation stays as it is, its locks included. -/
  untouched : ∀ name, (∀ relation ∈ registry.relations, relation.childTable ≠ name) →
    after.table? name = before.table? name
  /-- No table is made or dropped, and the ids that were given stay given. -/
  tables : ∀ name, (after.table? name).map (·.lastId) = (before.table? name).map (·.lastId)
  /-- Records change from pending to processed only, and only those of parent tables. -/
  log : List.Forall₂ (fun record later => later = record ∨
    record.isPending ∧ record.table ∈ registry.parentTables ∧ later = record.processed)
    before.log after.log

namespace Store.Evolves

variable {registry : Registry} {before after : Store}
  (evolves : before.Evolves (registry.mandate before) after)
include evolves

/-- A row that is gone is accounted for. -/
theorem removed_of_mandate {name : String} {row : Row} (member : row ∈ before.rowsOf name)
    (gone : ∀ later ∈ after.rowsOf name, later.id ≠ row.id) :
    ∃ relation ∈ registry.relations,
      relation.strategy = .asyncDelete ∧ relation.childTable = name ∧
        ∃ key, row.value? relation.column = some key ∧ before.Awaits relation.parentTable key := by
  rcases (evolves.rows name).mem_after member with ⟨later, ofAfter, change⟩ | deleted
  · exact absurd change.id (gone later ofAfter)
  · obtain ⟨column, key, held, relation, ofRegistry, how, onTable, rfl, awaits⟩ := deleted
    have deletes : relation.strategy = .asyncDelete := by
      cases strategy : relation.strategy with
      | asyncDelete => rfl
      | asyncNullify =>
          rw [strategy] at how
          cases how
    exact ⟨relation, ofRegistry, deletes, onTable, key, held, awaits⟩

/-- A value that is gone is accounted for. -/
theorem nullified_of_mandate {name : String} {row later : Row} (member : row ∈ before.rowsOf name)
    (ofAfter : later ∈ after.rowsOf name) (same : later.id = row.id) {column : String}
    (changed : later.value? column ≠ row.value? column) :
    later.value? column = none ∧ ∃ relation ∈ registry.relations,
      relation.strategy = .asyncNullify ∧ relation.childTable = name ∧
        relation.column = column ∧
        ∃ key, row.value? column = some key ∧ before.Awaits relation.parentTable key := by
  obtain ⟨origin, ofBefore, change⟩ := (evolves.rows name).mem_before ofAfter
  have sameRow : origin = row :=
    List.inj_on_of_nodup_map (before.nodup_rowsOf name) ofBefore member (change.id.symm.trans same)
  subst sameRow
  rcases change.values column with kept | ⟨lost, key, held, justified⟩
  · exact absurd kept changed
  · obtain ⟨relation, ofRegistry, how, onTable, onColumn, awaits⟩ := justified
    have nullifies : relation.strategy = .asyncNullify := by
      cases strategy : relation.strategy with
      | asyncNullify => rfl
      | asyncDelete =>
          rw [strategy] at how
          cases how
    exact ⟨lost, relation, ofRegistry, nullifies, onTable, onColumn, key, held, awaits⟩

end Store.Evolves

/-- Moves leave a table alone that is the child table of no relation. -/
theorem Sweep.Moves.table?_eq {ω : Type} {sweep : Sweep Store ω} {name : String}
    (stranger : ∀ relation ∈ sweep.registry.relations, relation.childTable ≠ name)
    {run later : Run Store ω} (moves : Moves sweep run later) :
    later.state.table? name = run.state.table? name := by
  induction moves with
  | refl => rfl
  | tail _ move ih =>
      rw [← ih]
      cases move with
      | told notice => rfl
      | charged budget => rfl
      | passed pass parentTable listed declared awaited =>
          have ofRegistry := Registry.mem_relations_of_mem_relationsFor declared
          exact pass.table?_run_of_ne _ (stranger pass.relation ofRegistry).symm
      | marked parentTable firstId lastId listed settled =>
          simp only [Store.table?, Store.tables_markProcessed]

namespace Invocation

variable {ω : Type} {registry : Registry}

/-- An invocation is a chain of moves from the store with which it starts. -/
theorem moves (registry : Registry) (invocation : Invocation ω) (store : Store) :
    Sweep.Moves (invocation.sweep registry)
      ((invocation.sweep registry).start (invocation.begins store) invocation.notes)
      (invocation.run registry store).2 :=
  Sweep.run_moves rfl (invocation.begins store) invocation.notes

/-- An invocation does nothing to the store but what the log allows at its start. -/
theorem evolves (registry : Registry) (invocation : Invocation ω) (store : Store) :
    store.Evolves (registry.mandate store) (invocation.leaves registry store) := by
  have begun : store.Evolves (registry.mandate store) (invocation.begins store) :=
    Store.evolves_of_eq (invocation.tables_begins store) (invocation.log_begins store)
  have later := Sweep.Moves.evolves (invocation.moves registry store)
  exact begun.trans (begun.under_earlier_mandate later)

/-- Whatever an invocation does and however it ends, each of its changes is accounted for by a
record that was pending when it started. -/
theorem changes_accounted_for (registry : Registry) (store : Store) (invocation : Invocation ω) :
    store.ChangesAccountedFor registry (invocation.leaves registry store) := by
  have evolves := invocation.evolves registry store
  constructor
  · intro name row member gone
    exact evolves.removed_of_mandate member gone
  · intro name row member later ofAfter same column changed
    exact evolves.nullified_of_mandate member ofAfter same changed
  · intro name
    exact (evolves.rows name).ids_sublist
  · intro name stranger
    have same := Sweep.Moves.table?_eq stranger (invocation.moves registry store)
    simp only [Sweep.start, Store.table?, tables_begins] at same
    exact same
  · exact evolves.tables
  · exact evolves.log

/-- An invocation that is cut short takes one of the two rows of the deleted parent. -/
theorem changes_accounted_for_in_sample :
    ((Sample.invocation 1).leaves Sample.registry Sample.store).rowCount "posts" = 2 ∧
      Sample.store.ChangesAccountedFor Sample.registry
        ((Sample.invocation 1).leaves Sample.registry Sample.store) := by
  refine ⟨by decide +kernel, ?_⟩
  exact changes_accounted_for Sample.registry Sample.store (Sample.invocation 1)

end Invocation

end LooseKeys
