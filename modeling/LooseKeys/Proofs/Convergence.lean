/-
Module: LooseKeys.Proofs.Convergence
Purpose: However the work is divided among invocations, what they leave is the same.
Main exports: Registry.TablesApart, Store.remainder, Store.markedLog, Store.OnCourse,
  Sweep.Moves.onCourse, Invocation.runAll_converges
-/
import LooseKeys.Proofs.Finalization
import LooseKeys.Proofs.Provenance
import LooseKeys.Proofs.Store.Remains
import LooseKeys.Proofs.Store.Workload

/-!
At the start each relation looks for the keys of the pending records of its parent table, and with
that it is settled what is to remain of every row.  No later move changes what is to remain: a
pass looks only for keys that were awaited from the start.  Once no record is pending, no relation
finds any of its keys, and the rows are what was to remain of them.  The log says only which
records were marked, and those are all the pending ones.

A column that two parent tables share would spoil this, since one of them could set to null what
the other would have deleted the row for.
-/

namespace LooseKeys

/-- No column of a child table has relations of two parent tables. -/
def Registry.TablesApart (registry : Registry) : Prop :=
  ∀ first ∈ registry.relations, ∀ second ∈ registry.relations, first.sameColumn second →
    first.parentTable = second.parentTable

theorem Registry.TablesApart.ownColumns {registry : Registry} (apart : registry.TablesApart) :
    Relation.OwnColumns registry.relations := by
  intro first ofFirst second ofSecond same
  have listed := (mem_relationsFor_parentTable ofFirst).1
  have listed' := (mem_relationsFor_parentTable ofSecond).1
  rw [← apart first ofFirst second ofSecond same] at listed'
  exact eq_of_sameColumn listed listed' same

namespace Store

/-- What is to remain of the rows of a table when every relation of a registry looks for the keys
of the pending records of its parent table. -/
def remainder (store : Store) (registry : Registry) (name : String) : List Row :=
  remainingRows registry.relations (fun relation => store.pendingKeys relation.parentTable) name
    (store.rowsOf name)

/-- The log with all pending records of the parent tables of a registry marked. -/
def markedLog (store : Store) (registry : Registry) : List DeletedRecord :=
  store.log.map (fun record =>
    if record.isPending ∧ record.table ∈ registry.parentTables then record.processed else record)

/-- No parent table of a registry has a pending record. -/
def IsDrained (store : Store) (registry : Registry) : Prop :=
  ∀ record ∈ store.log, record.isPending → record.table ∉ registry.parentTables

variable {registry : Registry} {before after : Store}

/-- When only records of parent tables were marked and none of them is pending, all were
marked. -/
theorem Evolves.log_eq_markedLog (evolves : before.Evolves (registry.mandate before) after)
    (drained : after.IsDrained registry) : after.log = before.markedLog registry := by
  unfold markedLog
  have log := evolves.log
  unfold IsDrained at drained
  generalize before.log = records at log ⊢
  generalize after.log = records' at drained log ⊢
  induction log with
  | nil => rfl
  | @cons record later records records' change _ ih =>
      obtain ⟨here, others⟩ := List.forall_mem_cons.mp drained
      rw [List.map_cons, ih others]
      congr 1
      rcases change with rfl | ⟨pending, listed, rfl⟩
      · exact (if_neg (fun both => here both.1 both.2)).symm
      · exact (if_pos ⟨pending, listed⟩).symm

/-- A later store that went no other way than the first one asks for: only what its log allows was
done, and the same is to remain of the rows. -/
structure OnCourse (registry : Registry) (start later : Store) : Prop where
  evolves : start.Evolves (registry.mandate start) later
  remaining : ∀ name, remainingRows registry.relations
    (fun relation => start.pendingKeys relation.parentTable) name (later.rowsOf name)
      = start.remainder registry name

theorem OnCourse.refl (store : Store) : store.OnCourse registry store :=
  ⟨.refl store, fun _ => rfl⟩

/-- Where the rows and the log are the same, the course is the same. -/
theorem OnCourse.of_eq {start later latest : Store} (onCourse : start.OnCourse registry later)
    (tables : latest.tables = later.tables) (log : latest.log = later.log) :
    start.OnCourse registry latest := by
  constructor
  · exact onCourse.evolves.trans (evolves_of_eq tables log)
  · intro name
    rw [← onCourse.remaining name]
    simp only [rowsOf, table?, tables]

/-- A store that is on course and drained, and settled what it marked, has the rows that were to
remain: no relation finds a key any more that was pending at the start. -/
theorem OnCourse.rowsOf_eq_remainder {start later : Store}
    (onCourse : start.OnCourse registry later) (settles : start.Settles registry later)
    (drained : later.IsDrained registry) (name : String) :
    later.rowsOf name = start.remainder registry name := by
  rw [← onCourse.remaining name]
  symm
  apply remainingRows_of_clear
  rintro row member relation declared rfl references
  obtain ⟨key, pendingKey, holds⟩ := Row.references_iff.mp references
  obtain ⟨record, ofLog, ofTable, pending, rfl⟩ := mem_pendingKeys.mp pendingKey
  obtain ⟨ofParent, listed⟩ := Registry.mem_relationsFor_parentTable declared
  rw [← ofTable] at ofParent listed
  -- The record of the key is either pending still, or marked and then its key is in no row.
  rcases settles.evolves.mem_log_after ofLog with unmarked | ⟨_, marked⟩
  · exact drained record unmarked pending listed
  · exact settles.clear record ofLog pending marked relation ofParent row member holds

end Store

section Moves

variable {ω : Type} {sweep : Sweep Store ω}
  (own : Relation.OwnColumns sweep.registry.relations) {start : Store} {run later : Run Store ω}
  (sofar : start.OnCourse sweep.registry run.state)
include own sofar

/-- A pass looks only for keys that were pending at the start, and nothing else changes a row. -/
theorem Sweep.Move.onCourse (move : Move sweep run later) :
    start.OnCourse sweep.registry later.state := by
  have next := sofar.evolves.under_earlier_mandate move.evolves
  refine ⟨sofar.evolves.trans next, ?_⟩
  intro name
  rw [← sofar.remaining name]
  cases move with
  | told notice => rfl
  | charged budget => rfl
  | passed pass parentTable listed declared awaited =>
      have ofRegistry := Registry.mem_relations_of_mem_relationsFor declared
      refine pass.remainingRows_run own ofRegistry ?_ run.state name
      intro key ofPass
      rw [Store.mem_pendingKeys, Registry.parentTable_eq listed declared]
      exact sofar.evolves.awaits_before (awaited key ofPass)
  | marked parentTable firstId lastId listed settled =>
      rw [Store.rowsOf_markProcessed]

theorem Sweep.Moves.onCourse (moves : Moves sweep run later) :
    start.OnCourse sweep.registry later.state := by
  induction moves with
  | refl => exact sofar
  | tail _ move ih => exact move.onCourse own ih

end Moves

namespace Invocation

variable {ω ω' : Type} {registry : Registry}

section Course

variable (own : Relation.OwnColumns registry.relations) {start : Store}
include own

theorem onCourse (invocation : Invocation ω) {store : Store}
    (sofar : start.OnCourse registry store) :
    start.OnCourse registry (invocation.leaves registry store) := by
  have begun : start.OnCourse registry (invocation.begins store) :=
    sofar.of_eq (invocation.tables_begins store) (invocation.log_begins store)
  exact Sweep.Moves.onCourse own begun (invocation.moves registry store)

theorem runAll_onCourse (invocations : List (Invocation ω)) :
    ∀ {store : Store}, start.OnCourse registry store →
      start.OnCourse registry (runAll registry invocations store) := by
  induction invocations with
  | nil => exact fun sofar => sofar
  | cons invocation rest ih =>
      intro store sofar
      exact ih (invocation.onCourse own sofar)

end Course

/-- Invocations that drain a store leave of each table what was to remain of it at the
start, and a log in which all pending records of parent tables are marked.  So it does not matter
which invocations they are: two sequences that drain the store leave the same rows and the same
log.  Tables are neither made nor dropped. -/
theorem runAll_converges (apart : registry.TablesApart) {store : Store}
    (first : List (Invocation ω)) (second : List (Invocation ω'))
    (accepted : ∀ invocation ∈ first,
      invocation.settings.validate = .ok invocation.settings)
    (accepted' : ∀ invocation ∈ second,
      invocation.settings.validate = .ok invocation.settings)
    (drained : (runAll registry first store).IsDrained registry)
    (drained' : (runAll registry second store).IsDrained registry) :
    (∀ name, (runAll registry first store).rowsOf name
        = (runAll registry second store).rowsOf name) ∧
      (runAll registry first store).log = (runAll registry second store).log ∧
      (∀ name, (runAll registry first store).rowsOf name = store.remainder registry name) ∧
      (runAll registry first store).log = store.markedLog registry ∧
      ∀ name, ((runAll registry first store).table? name).map (·.lastId)
        = (store.table? name).map (·.lastId) := by
  have course := runAll_onCourse apart.ownColumns first (.refl store)
  have course' := runAll_onCourse apart.ownColumns second (.refl store)
  have settles := runAll_settles registry accepted store
  have settles' := runAll_settles registry accepted' store
  have rows := course.rowsOf_eq_remainder settles drained
  have rows' := course'.rowsOf_eq_remainder settles' drained'
  have log := course.evolves.log_eq_markedLog drained
  have log' := course'.evolves.log_eq_markedLog drained'
  refine ⟨?_, log.trans log'.symm, rows, log, course.evolves.tables⟩
  intro name
  rw [rows name, rows' name]

end Invocation

namespace Sample

/-- A budget of one row at a time, and a failure on the way. -/
def piecemeal : List (Invocation Unit) :=
  [invocation 1, { invocation 9 with failure := some "down" }, invocation 1, invocation 9]

end Sample

/-- One invocation and four, one of which fails, leave the same two builds. -/
theorem Invocation.runAll_converges_in_sample :
    (∀ name, (runAll Sample.buildRegistry Sample.piecemeal Sample.builds).rowsOf name
        = (runAll Sample.buildRegistry [Sample.invocation 9] Sample.builds).rowsOf name) ∧
      (runAll Sample.buildRegistry Sample.piecemeal Sample.builds).rowsOf "builds"
        = [{ id := 2, columns := .ofList [("project_id", 8)] },
          { id := 3, columns := .ofList [("agent_id", 4), ("project_id", 8)] }] := by
  have apart : Sample.buildRegistry.TablesApart := by
    intro first ofFirst second ofSecond same
    revert first second
    decide
  have accepted : ∀ invocation ∈ Sample.piecemeal,
      invocation.settings.validate = .ok invocation.settings := by
    intro invocation member
    simp only [Sample.piecemeal, List.mem_cons, List.not_mem_nil, or_false] at member
    rcases member with rfl | rfl | rfl | rfl <;> rfl
  have accepted' : ∀ invocation ∈ [Sample.invocation 9],
      invocation.settings.validate = .ok invocation.settings := by
    intro invocation member
    rw [List.mem_singleton.mp member]
    rfl
  have drained : (runAll Sample.buildRegistry Sample.piecemeal Sample.builds).IsDrained
      Sample.buildRegistry := by
    unfold Store.IsDrained
    decide +kernel
  have drained' : (runAll Sample.buildRegistry [Sample.invocation 9] Sample.builds).IsDrained
      Sample.buildRegistry := by
    unfold Store.IsDrained
    decide +kernel
  obtain ⟨same, _, remainder, _, _⟩ := runAll_converges apart Sample.piecemeal
    [Sample.invocation 9] accepted accepted' drained drained'
  refine ⟨same, (remainder "builds").trans ?_⟩
  decide +kernel

end LooseKeys
