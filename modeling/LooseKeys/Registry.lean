/-
Module: LooseKeys.Registry
Purpose: The accepted relations, grouped by parent table in declaration order.
Main exports: Registry, Registry.ofList, Registry.relationsFor, Registry.parentTables
-/
import LooseKeys.Relation
import LooseKeys.SortedMap

/-!
Relations are accepted one after the other, so the error of a refused list is that of its first
refused relation.  A registry carries what acceptance guarantees: the parent tables are named with
their schema, a relation is listed under its own parent table and has no fault, and two relations
of one parent table do not name the same column of the same child table, so that each column has
one owner per parent.
-/

namespace LooseKeys

/-- Whether two relations clean up the same column of the same child table. -/
def Relation.sameColumn (first second : Relation) : Bool :=
  first.childTable = second.childTable && first.column = second.column

/-- A relation as it is listed, its parent table with its schema. -/
def Relation.qualified (relation : Relation) : Relation :=
  { relation with parentTable := qualify relation.parentTable }

/-- The accepted relations of each parent table, the tables in ascending order. -/
structure Registry where
  byParent : SortedMap String (List Relation) := {}
  qualified : ∀ entry ∈ byParent.entries, qualify entry.1 = entry.1 := by decide
  parent : ∀ entry ∈ byParent.entries, ∀ relation ∈ entry.2,
    relation.parentTable = entry.1 := by decide
  faultless : ∀ entry ∈ byParent.entries, ∀ relation ∈ entry.2,
    relation.fault? = none := by decide
  distinct : ∀ entry ∈ byParent.entries,
    entry.2.Pairwise (fun first second => ¬ first.sameColumn second) := by decide
deriving DecidableEq, Repr

instance : Inhabited Registry := ⟨{}⟩

namespace Registry

/-- The relations of a parent table, named with or without the default schema, in declaration
order. -/
def relationsFor (registry : Registry) (parentTable : String) : List Relation :=
  (registry.byParent.get? (qualify parentTable)).getD []

/-- The parent tables that declare relations, in ascending order. -/
def parentTables (registry : Registry) : List String := registry.byParent.keys

/-- All relations, by parent table and then in declaration order. -/
def relations (registry : Registry) : List Relation := registry.byParent.values.flatten

/-- The child tables that some relation names, in ascending order, each once. -/
def childTables (registry : Registry) : List String :=
  (registry.relations.map (·.childTable)).mergeSort.eraseReps

/-- The number of relations. -/
def size (registry : Registry) : Nat := registry.relations.length

def isEmpty (registry : Registry) : Bool := registry.byParent.isEmpty

/-- A relation that is found for a parent table stands in the entry of that table. -/
theorem entry_of_mem_relationsFor {registry : Registry} {parentTable : String}
    {relation : Relation} (member : relation ∈ registry.relationsFor parentTable) :
    (qualify parentTable, registry.relationsFor parentTable) ∈ registry.byParent.entries := by
  unfold relationsFor at member ⊢
  cases found : registry.byParent.get? (qualify parentTable) with
  | none => simp [found] at member
  | some held => exact SortedMap.mem_entries_of_get? found

/-- Under one parent table no two relations name the same column. -/
theorem pairwise_relationsFor (registry : Registry) (parentTable : String) :
    (registry.relationsFor parentTable).Pairwise
      (fun first second => ¬ first.sameColumn second) := by
  cases held : registry.relationsFor parentTable with
  | nil => exact List.Pairwise.nil
  | cons relation rest =>
      have member : relation ∈ registry.relationsFor parentTable := by simp [held]
      rw [← held]
      exact registry.distinct _ (entry_of_mem_relationsFor member)

/-- The registry with one more relation at the end of its parent's list. -/
def listing (registry : Registry) (declared : Relation)
    (sound : declared.qualified.fault? = none)
    (fresh : ¬ (registry.relationsFor declared.parentTable).any
      (·.sameColumn declared.qualified)) : Registry where
  byParent := registry.byParent.insert (qualify declared.parentTable)
    (registry.relationsFor declared.parentTable ++ [declared.qualified])
  qualified := by
    intro entry member
    rcases SortedMap.mem_entries_insert member with rfl | old
    · exact qualify_qualify declared.parentTable
    · exact registry.qualified entry old
  parent := by
    intro entry member other ofEntry
    rcases SortedMap.mem_entries_insert member with rfl | old
    · rcases List.mem_append.mp ofEntry with sibling | new
      · exact registry.parent _ (entry_of_mem_relationsFor sibling) other sibling
      · rw [List.mem_singleton.mp new]
        rfl
    · exact registry.parent entry old other ofEntry
  faultless := by
    intro entry member other ofEntry
    rcases SortedMap.mem_entries_insert member with rfl | old
    · rcases List.mem_append.mp ofEntry with sibling | new
      · exact registry.faultless _ (entry_of_mem_relationsFor sibling) other sibling
      · rw [List.mem_singleton.mp new]
        exact sound
    · exact registry.faultless entry old other ofEntry
  distinct := by
    intro entry member
    rcases SortedMap.mem_entries_insert member with rfl | old
    · refine List.pairwise_append.mpr
        ⟨registry.pairwise_relationsFor declared.parentTable, List.pairwise_singleton _ _, ?_⟩
      intro sibling ofSiblings other new
      rw [List.mem_singleton.mp new]
      exact fun same => fresh (List.any_eq_true.mpr ⟨sibling, ofSiblings, same⟩)
    · exact registry.distinct entry old

/-- Accepts one more relation at the end of its parent's list, or refuses it. -/
def add (registry : Registry) (declared : Relation) : Except CleanupError Registry :=
  match sound : declared.qualified.fault? with
  | some fault => .error (declared.qualified.refuse fault)
  | none =>
      if taken : (registry.relationsFor declared.parentTable).any
          (·.sameColumn declared.qualified) then
        .error (declared.qualified.refuse .duplicateColumn)
      else .ok (registry.listing declared sound taken)

/-- Accepts the relations of a list in order. -/
def addAll (registry : Registry) : List Relation → Except CleanupError Registry
  | [] => .ok registry
  | relation :: rest =>
      match registry.add relation with
      | .error error => .error error
      | .ok grown => grown.addAll rest

/-- The registry of a list of relations, if all of them are acceptable. -/
def ofList (relations : List Relation) : Except CleanupError Registry :=
  addAll {} relations

end Registry

end LooseKeys
