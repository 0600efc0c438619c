/-
Module: LooseKeys.Proofs.Registry
Purpose: When a relation is added, and what every registry satisfies.
Main exports: Registry.add_cases, Registry.pairwise_parentTables, Registry.parentTable_eq,
  Registry.eq_of_sameColumn, Registry.mem_relationsFor_parentTable,
  Registry.flatMap_relationsFor, Registry.nodup_relationsFor, Registry.nodup_relations
-/
import LooseKeys.Proofs.SortedMap
import LooseKeys.Proofs.Sorting
import LooseKeys.Registry
import Mathlib.Data.List.Nodup
import Mathlib.Data.List.Pairwise

/-!
Cleaning rests on what a registry carries: a relation is found under its parent table, and no
column of a child table is listed twice there.  The parent tables ascend, so table by table a
registry has each of its relations once.
-/

namespace LooseKeys

/-- A relation has no fault of its own when its names are names, and it does not set to null what
rows are told apart by. -/
theorem Relation.fault?_eq_none_iff (relation : Relation) :
    relation.fault? = none ↔
      isTableName relation.parentTable ∧ isTableName relation.childTable ∧
        isColumnName relation.column ∧ isColumnName relation.primaryKey ∧
          ¬ (relation.strategy = .asyncNullify ∧ relation.column = relation.primaryKey) := by
  unfold fault?
  repeat' split
  all_goals simp_all

namespace Registry

/-! ### Entries -/

theorem mem_relations_of_mem_relationsFor {registry : Registry} {parentTable : String}
    {relation : Relation} (member : relation ∈ registry.relationsFor parentTable) :
    relation ∈ registry.relations :=
  List.mem_flatten.mpr
    ⟨_, List.mem_map.mpr ⟨_, entry_of_mem_relationsFor member, rfl⟩, member⟩

theorem mem_parentTables_of_mem_relationsFor {registry : Registry} {parentTable : String}
    {relation : Relation} (member : relation ∈ registry.relationsFor parentTable) :
    qualify parentTable ∈ registry.parentTables :=
  List.mem_map.mpr ⟨_, entry_of_mem_relationsFor member, rfl⟩

/-- A child table is one that some relation names. -/
theorem mem_childTables {registry : Registry} {name : String} :
    name ∈ registry.childTables ↔ ∃ relation ∈ registry.relations, relation.childTable = name := by
  unfold childTables
  rw [mem_eraseReps, List.mem_mergeSort, List.mem_map]

/-! ### One more relation -/

/-- A relation is refused for its own fault, or for a sibling with its column, or it is listed. -/
theorem add_cases (registry : Registry) (declared : Relation) :
    (∃ fault, declared.qualified.fault? = some fault ∧
      registry.add declared = .error (declared.qualified.refuse fault)) ∨
    (declared.qualified.fault? = none ∧
      (registry.relationsFor declared.parentTable).any (·.sameColumn declared.qualified) ∧
      registry.add declared = .error (declared.qualified.refuse .duplicateColumn)) ∨
    ∃ sound fresh, registry.add declared = .ok (registry.listing declared sound fresh) := by
  unfold add
  split
  · rename_i fault found
    exact Or.inl ⟨fault, found, rfl⟩
  · rename_i sound
    split
    · rename_i taken
      exact Or.inr (Or.inl ⟨sound, taken, rfl⟩)
    · rename_i fresh
      exact Or.inr (Or.inr ⟨sound, fresh, rfl⟩)

/-! ### Parent tables and their relations -/

theorem pairwise_parentTables (registry : Registry) : registry.parentTables.Pairwise (· < ·) :=
  registry.byParent.pairwise_keys

theorem qualify_parentTable {registry : Registry} {parentTable : String}
    (member : parentTable ∈ registry.parentTables) : qualify parentTable = parentTable := by
  obtain ⟨entry, ofRegistry, rfl⟩ := List.mem_map.mp member
  exact registry.qualified entry ofRegistry

/-- The relations of a parent table name it as their parent. -/
theorem parentTable_eq {registry : Registry} {parentTable : String}
    (member : parentTable ∈ registry.parentTables) {relation : Relation}
    (declared : relation ∈ registry.relationsFor parentTable) :
    relation.parentTable = parentTable := by
  rw [registry.parent _ (entry_of_mem_relationsFor declared) relation declared]
  exact qualify_parentTable member

/-- Under one parent table each column of a child table has one relation. -/
theorem eq_of_sameColumn {registry : Registry} {parentTable : String} {first second : Relation}
    (ofFirst : first ∈ registry.relationsFor parentTable)
    (ofSecond : second ∈ registry.relationsFor parentTable)
    (same : first.sameColumn second) : first = second := by
  have distinct := registry.pairwise_relationsFor parentTable
  by_contra different
  have symmetric : Std.Symm (fun one two : Relation => ¬ one.sameColumn two) := by
    constructor
    intro one two apart backwards
    apply apart
    simp only [Relation.sameColumn, Bool.and_eq_true, decide_eq_true_eq] at backwards ⊢
    exact ⟨backwards.1.symm, backwards.2.symm⟩
  exact distinct.forall ofFirst ofSecond different same

/-- An entry is what a look-up of its parent table finds. -/
theorem relationsFor_entry {registry : Registry} {entry : String × List Relation}
    (member : entry ∈ registry.byParent.entries) : registry.relationsFor entry.1 = entry.2 := by
  rw [relationsFor, registry.qualified entry member, registry.byParent.get?_eq_some member,
    Option.getD_some]

/-- Every relation is found under its parent table, which is one of the registry. -/
theorem mem_relationsFor_parentTable {registry : Registry} {relation : Relation}
    (member : relation ∈ registry.relations) :
    relation ∈ registry.relationsFor relation.parentTable ∧
      relation.parentTable ∈ registry.parentTables := by
  obtain ⟨_, ofValues, listed⟩ := List.mem_flatten.mp member
  obtain ⟨entry, ofRegistry, rfl⟩ := List.mem_map.mp ofValues
  rw [registry.parent entry ofRegistry relation listed, relationsFor_entry ofRegistry]
  exact ⟨listed, List.mem_map_of_mem ofRegistry⟩

/-- No relation of a registry has a fault of its own. -/
theorem fault?_eq_none {registry : Registry} {relation : Relation}
    (member : relation ∈ registry.relations) : relation.fault? = none := by
  obtain ⟨_, ofValues, listed⟩ := List.mem_flatten.mp member
  obtain ⟨entry, ofRegistry, rfl⟩ := List.mem_map.mp ofValues
  exact registry.faultless entry ofRegistry relation listed

/-- Table by table a registry has its relations in order. -/
theorem flatMap_relationsFor (registry : Registry) :
    registry.parentTables.flatMap registry.relationsFor = registry.relations := by
  unfold parentTables SortedMap.keys relations SortedMap.values
  rw [List.flatMap_map, ← List.flatMap_def]
  exact List.flatMap_congr (fun _ member => relationsFor_entry member)

/-- No relation is listed twice under a parent table. -/
theorem nodup_relationsFor (registry : Registry) (parentTable : String) :
    (registry.relationsFor parentTable).Nodup := by
  refine (registry.pairwise_relationsFor parentTable).imp ?_
  rintro first _ apart rfl
  exact apart (by simp [Relation.sameColumn])

/-- Nor under two parent tables, since it names its own. -/
theorem nodup_relations (registry : Registry) : registry.relations.Nodup := by
  rw [← registry.flatMap_relationsFor, List.nodup_flatMap]
  refine ⟨fun parentTable _ => registry.nodup_relationsFor parentTable, ?_⟩
  refine registry.pairwise_parentTables.imp_of_mem ?_
  intro first second ofFirst ofSecond less relation inFirst inSecond
  rw [← parentTable_eq ofFirst inFirst, parentTable_eq ofSecond inSecond] at less
  exact Std.lt_irrefl less

end Registry

end LooseKeys
