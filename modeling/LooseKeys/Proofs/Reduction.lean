/-
Module: LooseKeys.Proofs.Reduction
Purpose: What the cleanup of a batch leaves of the rows once it is finalized, however often it
  was interrupted.
Main exports: Row.reduce, reduceRows, Store.ReducesTo, cleanBatch_reducesTo, Attempt,
  Attempt.finalized_reduces
-/
import LooseKeys.Proofs.Cleanup.Effects
import LooseKeys.Proofs.Registry
import LooseKeys.Proofs.Store.Remains

/-!
`Row.reduce` says at once what is to become of a row: it goes if a deleting relation finds it,
and else it loses the values that nullifying relations find.  A pass takes some of the rows that
its relation finds, so it changes the rows but not what they reduce to: all relations of a batch
look for its keys.  When all relations are clear, the rows are what they reduce to.  Nothing in
this depends on the order of passes, their sizes, the locks or the budget.
-/

namespace LooseKeys

theorem Registry.ownColumns (registry : Registry) (parentTable : String) :
    Relation.OwnColumns (registry.relationsFor parentTable) :=
  fun _ ofFirst _ ofSecond same => eq_of_sameColumn ofFirst ofSecond same

namespace Row

section Reduce

variable (relations : List Relation) (keys : List Int) (table : String) (row : Row)

/-- Whether a relation of a strategy finds one of the keys in the row of a table. -/
def isFoundBy (strategy : Strategy) (relation : Relation) : Bool :=
  relation.strategy = strategy && relation.childTable = table &&
    row.references relation.column keys

/-- Whether a deleting relation finds a key in the row. -/
def isDeleted : Bool := relations.any (row.isFoundBy keys table .asyncDelete)

/-- Whether a nullifying relation finds a key in a column of the row. -/
def losesColumn (column : String) : Bool :=
  relations.any (fun relation =>
    relation.column = column && row.isFoundBy keys table .asyncNullify relation)

/-- What is left of the row of a table: nothing if a deleting relation finds a key in it, and
else the values in which no nullifying relation finds one. -/
def reduce : Option Row :=
  if row.isDeleted relations keys table then none
  else
    some { row with
      columns := row.columns.filterKeys
        (fun column => !row.losesColumn relations keys table column) }

end Reduce

end Row

/-- What is left of the rows of a table. -/
def reduceRows (relations : List Relation) (keys : List Int) (table : String)
    (rows : List Row) : List Row :=
  rows.filterMap (·.reduce relations keys table)

/-- Reducing is what is to remain when every relation looks for the same keys. -/
theorem reduceRows_eq_remainingRows (relations : List Relation) (keys : List Int) (table : String)
    (rows : List Row) :
    reduceRows relations keys table rows = remainingRows relations (fun _ => keys) table rows :=
  rfl

/-- Rows in which no relation finds a key are left as they are. -/
theorem reduceRows_of_clear {relations : List Relation} {keys : List Int} {table : String}
    {rows : List Row}
    (clear : ∀ row ∈ rows, ∀ relation ∈ relations, relation.childTable = table →
      ¬ row.references relation.column keys) :
    reduceRows relations keys table rows = rows :=
  remainingRows_of_clear clear

/-- A later store whose rows reduce to the same as before. -/
def Store.ReducesTo (relations : List Relation) (keys : List Int) (before after : Store) : Prop :=
  ∀ name, reduceRows relations keys name (after.rowsOf name)
    = reduceRows relations keys name (before.rowsOf name)

namespace Store.ReducesTo

variable {relations : List Relation} {keys : List Int}

/-- Where the rows are the same, they reduce to the same. -/
theorem of_rowsOf_eq {before after : Store}
    (same : ∀ name, after.rowsOf name = before.rowsOf name) :
    before.ReducesTo relations keys after := by
  intro name
  rw [same]

theorem trans {first second third : Store} (one : first.ReducesTo relations keys second)
    (two : second.ReducesTo relations keys third) : first.ReducesTo relations keys third :=
  fun name => (two name).trans (one name)

end Store.ReducesTo

/-- A pass does not change what the rows reduce to, also when it fails. -/
theorem Pass.reducesTo_run (pass : Pass) {relations : List Relation}
    (own : Relation.OwnColumns relations) (declared : pass.relation ∈ relations) (store : Store) :
    store.ReducesTo relations pass.parentIds (pass.run Store.storage store).2 := by
  intro name
  simp only [reduceRows_eq_remainingRows]
  exact pass.remainingRows_run own declared (fun _ member => member) store name

section Batches

variable {ω : Type} {cleanup : Cleanup Store ω} {registry : Registry}
  (onStore : cleanup.storage = Store.storage)
include onStore

/-- The cleanup of a batch does not change what the rows reduce to, however it ends. -/
theorem cleanBatch_reducesTo (run : Run Store ω) :
    run.state.ReducesTo (registry.relationsFor cleanup.batch.parentTable) cleanup.batch.parentIds
      (cleanBatch cleanup registry run).2.state := by
  have own := registry.ownColumns cleanup.batch.parentTable
  have passes : ∀ relation ∈ registry.relationsFor cleanup.batch.parentTable, ∀ mode state,
      run.state.ReducesTo (registry.relationsFor cleanup.batch.parentTable)
        cleanup.batch.parentIds state →
      run.state.ReducesTo (registry.relationsFor cleanup.batch.parentTable)
        cleanup.batch.parentIds
        ((cleanup.pass relation mode).run cleanup.storage state).2 := by
    intro relation declared mode state sofar
    rw [onStore]
    apply sofar.trans
    exact (cleanup.pass relation mode).reducesTo_run own declared state
  refine cleanBatch_keep_state registry passes ?_ (.of_rowsOf_eq (fun _ => rfl))
  intro firstId lastId state sofar
  rw [onStore]
  apply sofar.trans
  apply Store.ReducesTo.of_rowsOf_eq
  intro name
  change (Store.markProcessed _ _ _ _).2.rowsOf name = _
  rw [Store.rowsOf_markProcessed]

/-- After a batch was finalized its relations are clear of its keys. -/
theorem isClear_of_finalized (accepted : cleanup.settings.validate = .ok cleanup.settings)
    {run after : Run Store ω} {outcome : BatchOutcome}
    (answered : cleanBatch cleanup registry run = (.ok outcome, after))
    (finalized : outcome.finalized) :
    ∀ relation ∈ registry.relationsFor cleanup.batch.parentTable,
      ∀ key ∈ cleanup.batch.parentIds, after.state.IsClear relation key := by
  have ends : Cleanup.BatchEnds cleanup (registry.relationsFor cleanup.batch.parentTable) run
      (cleanBatch cleanup registry run) := cleanBatch_ends registry run
  rw [answered] at ends
  intro relation declared key ofBatch
  cases ends with
  | empty nothing pending =>
      rw [finalized] at pending
      cases pending
  | left steps pending cause =>
      rw [finalized] at pending
      cases pending
  | @marked before firstId lastId count after _ range steps exhausted marked _ within =>
      have clear := (exhausted relation declared).isClear onStore accepted key ofBatch
      have tables : after.tables = before.state.tables := by
        have same := Store.tables_markProcessed cleanup.batch.parentTable firstId lastId
          before.state
        rw [onStore] at marked
        change Store.markProcessed _ _ _ _ = _ at marked
        rwa [marked] at same
      intro row member
      apply clear row
      simpa only [Run.tell, Store.rowsOf, Store.table?, tables] using member

end Batches

/-- One of several attempts at the same batch. -/
structure Attempt (ω : Type) where
  /-- What happens to the store before the attempt. -/
  meanwhile : Store → Store := id
  settings : Settings
  budget : Budget
  observer : Observer Store ω
  notes : ω

namespace Attempt

variable {ω : Type}

/-- Before the attempt nobody writes rows; locks, failures and the log may change. -/
def KeepsRows (attempt : Attempt ω) : Prop :=
  ∀ store name, (attempt.meanwhile store).rowsOf name = store.rowsOf name

def run (attempt : Attempt ω) (registry : Registry) (batch : Batch) (store : Store) :
    Reply (Run Store ω) BatchOutcome :=
  cleanBatch ⟨Store.storage, attempt.observer, attempt.settings, batch⟩ registry
    ⟨attempt.meanwhile store, attempt.budget, attempt.notes⟩

/-- The store after attempts in order. -/
def runAll (registry : Registry) (batch : Batch) : List (Attempt ω) → Store → Store
  | [], store => store
  | attempt :: rest, store => runAll registry batch rest (attempt.run registry batch store).2.state

variable (registry : Registry) (batch : Batch)

/-- An attempt does not change what the rows reduce to. -/
theorem run_reducesTo {attempt : Attempt ω} (keeps : attempt.KeepsRows) (store : Store) :
    store.ReducesTo (registry.relationsFor batch.parentTable) batch.parentIds
      (attempt.run registry batch store).2.state := by
  have meanwhile : store.ReducesTo (registry.relationsFor batch.parentTable) batch.parentIds
      (attempt.meanwhile store) := .of_rowsOf_eq (keeps store)
  let cleanup : Cleanup Store ω := ⟨Store.storage, attempt.observer, attempt.settings, batch⟩
  have onStore : cleanup.storage = Store.storage := rfl
  let start : Run Store ω := ⟨attempt.meanwhile store, attempt.budget, attempt.notes⟩
  exact meanwhile.trans (cleanBatch_reducesTo onStore start)

theorem runAll_reducesTo {attempts : List (Attempt ω)} :
    (∀ attempt ∈ attempts, attempt.KeepsRows) → ∀ store : Store,
      store.ReducesTo (registry.relationsFor batch.parentTable) batch.parentIds
        (runAll registry batch attempts store) := by
  induction attempts with
  | nil =>
      intro _ store
      exact .of_rowsOf_eq (fun _ => rfl)
  | cons attempt rest ih =>
      intro keeps store
      have here := run_reducesTo registry batch (keeps attempt List.mem_cons_self) store
      have others := fun other member => keeps other (List.mem_cons_of_mem attempt member)
      exact here.trans (ih others _)

/-- Once an attempt at a batch finalizes it, the rows of every table are what the rows before
the first attempt reduce to, however the earlier attempts went, in any store. -/
theorem finalized_reduces (store : Store) (earlier : List (Attempt ω)) (last : Attempt ω)
    (undisturbed : ∀ attempt ∈ earlier ++ [last], attempt.KeepsRows)
    (accepted : ∀ attempt ∈ earlier ++ [last],
      attempt.settings.validate = .ok attempt.settings)
    {outcome : BatchOutcome} {after : Run Store ω}
    (answered : last.run registry batch (runAll registry batch earlier store)
      = (.ok outcome, after))
    (finalized : outcome.finalized) (name : String) :
    after.state.rowsOf name
      = reduceRows (registry.relationsFor batch.parentTable) batch.parentIds name
        (store.rowsOf name) := by
  have ofLast : last ∈ earlier ++ [last] := List.mem_append_right _ List.mem_cons_self
  have keeps := undisturbed last ofLast
  have before := runAll_reducesTo registry batch
    (fun attempt member => undisturbed attempt (List.mem_append_left _ member)) store
  have whole := before.trans (run_reducesTo registry batch keeps _)
  rw [answered] at whole
  have clear := isClear_of_finalized rfl (accepted last ofLast) answered finalized
  have left : reduceRows (registry.relationsFor batch.parentTable) batch.parentIds name
      (after.state.rowsOf name) = after.state.rowsOf name := by
    apply reduceRows_of_clear
    intro row member relation ofParent onTable references
    obtain ⟨key, ofBatch, holds⟩ := Row.references_iff.mp references
    subst onTable
    exact clear relation ofParent key ofBatch row member holds
  rw [← left]
  exact whole name

end Attempt

/-! Three attempts at one batch: the budget ends the first, a failure the second. -/
namespace Sample

def postRelations : List Relation :=
  [.declare "users" "posts" "user_id" .asyncDelete,
    .declare "users" "posts" "editor_id" .asyncNullify]

def postRegistry : Registry where
  byParent := { entries := [("public.users", postRelations)] }

/-- Three posts, each with the columns of its author and its editor. -/
def posts : Store :=
  let first := (Store.empty.insertRow "posts" [("user_id", some 7)]).2
  let second := (first.insertRow "posts" [("user_id", some 8), ("editor_id", some 7)]).2
  (second.insertRow "posts" [("user_id", some 7), ("editor_id", some 9)]).2

def userBatch : Batch := ⟨"public.users", [⟨1, "public.users", 7, .pending, default⟩]⟩

def attempt (ceiling : Nat) (meanwhile : Store → Store) : Attempt Unit :=
  { meanwhile, settings := {}, budget := .ofCeiling ceiling, observer := .silent, notes := () }

/-- The attempts before the last one: a row is locked before the first, and the second fails. -/
def interrupted : List (Attempt Unit) :=
  [attempt 1 (·.lockRow "posts" 3), attempt 9 (·.failNext "down")]

end Sample

/-- The last attempt leaves what the rows reduce to at the start. -/
theorem Attempt.finalized_reduces_in_sample :
    ∃ outcome after,
      (Sample.attempt 9 id).run Sample.postRegistry Sample.userBatch
        (runAll Sample.postRegistry Sample.userBatch Sample.interrupted Sample.posts)
          = (.ok outcome, after) ∧
      after.state.rowsOf "posts" = [⟨2, { entries := [("user_id", 8)] }⟩] := by
  have undisturbed : ∀ attempt ∈ Sample.interrupted ++ [Sample.attempt 9 id],
      attempt.KeepsRows := by
    intro attempt member
    simp only [Sample.interrupted, List.cons_append, List.nil_append, List.mem_cons,
      List.not_mem_nil, or_false] at member
    rcases member with rfl | rfl | rfl
    · exact fun store name => store.rowsOf_lockRow "posts" name 3
    · exact fun _ _ => rfl
    · exact fun _ _ => rfl
  have accepted : ∀ attempt ∈ Sample.interrupted ++ [Sample.attempt 9 id],
      attempt.settings.validate = .ok attempt.settings := by
    intro attempt member
    simp only [Sample.interrupted, List.cons_append, List.nil_append, List.mem_cons,
      List.not_mem_nil, or_false] at member
    rcases member with rfl | rfl | rfl <;> rfl
  have ends : ((Sample.attempt 9 id).run Sample.postRegistry Sample.userBatch
      (runAll Sample.postRegistry Sample.userBatch Sample.interrupted Sample.posts)).1.toOption.map
        (·.finalized) = some true := by
    decide +kernel
  cases answered : (Sample.attempt 9 id).run Sample.postRegistry Sample.userBatch
      (runAll Sample.postRegistry Sample.userBatch Sample.interrupted Sample.posts) with
  | mk result after =>
      rw [answered] at ends
      cases result with
      | error error => cases ends
      | ok outcome =>
          have finalized : outcome.finalized = true := Option.some.inj ends
          have reduced := finalized_reduces Sample.postRegistry Sample.userBatch
            Sample.posts _ _ undisturbed accepted answered finalized "posts"
          refine ⟨outcome, after, rfl, reduced.trans ?_⟩
          decide +kernel

end LooseKeys
