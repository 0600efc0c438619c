/-
Module: LooseKeys.Proofs.Store.Composition
Purpose: Passes in turn over the store in memory do what one pass does with the sum of their limits.
Main exports: Table.selection_add, Table.apply_apply, Store.Agrees, Storage.modifyInTurn,
  Store.Answers.modifyChildren_add, Store.Answers.modifyInTurn_agrees, Store.passes_compose
-/
import LooseKeys.Proofs.Sequence
import LooseKeys.Proofs.Store.Takeable
import Mathlib.Algebra.Order.BigOperators.Group.List
import Mathlib.Algebra.Order.Ring.Int

/-!
A pass takes the first of the rows that it may take, and the next pass may take the rest of them,
in the same order: a deleted row is gone, a nullified one references no key any more, and the locks
that are released are those of rows that were taken.  So two passes select together what one
selects with the sum of their limits (`Table.selection_add`).  To delete or nullify the rows of one
selection and then those of another is to do it to both at once (`Table.apply_apply`), and no lock
is waited for twice (`Table.locksOn_append`).

Passes in turn follow from two, by induction on their limits (`Answers.modifyInTurn_agrees`).  The
stores that are compared differ in the log of passes, which has an entry for each of them.
-/

namespace LooseKeys

/-- Without the first rows, told by their ids, the others are left. -/
theorem filter_id_not_mem_take {rows : List Row} (distinct : (rows.map (·.id)).Nodup)
    (count : Nat) : rows.filter (·.id ∉ (rows.take count).map (·.id)) = rows.drop count := by
  have apart : ∀ row ∈ rows.drop count, row.id ∉ (rows.take count).map (·.id) := by
    intro row behind taken
    rw [← List.take_append_drop count rows, List.map_append] at distinct
    exact (List.nodup_append.mp distinct).2.2 row.id taken row.id (List.mem_map_of_mem behind) rfl
  have gone : (rows.take count).filter (·.id ∉ (rows.take count).map (·.id)) = [] := by
    apply List.filter_eq_nil_iff.mpr
    intro row taken
    exact fun left => of_decide_eq_true left (List.mem_map_of_mem taken)
  have kept : (rows.drop count).filter (·.id ∉ (rows.take count).map (·.id)) = rows.drop count := by
    apply List.filter_eq_self.mpr
    intro row behind
    exact decide_eq_true (apart row behind)
  calc rows.filter (·.id ∉ (rows.take count).map (·.id))
      = (rows.take count ++ rows.drop count).filter (·.id ∉ (rows.take count).map (·.id)) := by
        rw [List.take_append_drop]
    _ = rows.drop count := by rw [List.filter_append, gone, kept, List.nil_append]

/-- To leave out some ids and then others is to leave them all out. -/
theorem filter_not_mem_append {α : Type} (idOf : α → Int) (list : List α)
    (first second : List Int) :
    (list.filter (idOf · ∉ first)).filter (idOf · ∉ second)
      = list.filter (idOf · ∉ first ++ second) := by
  rw [List.filter_filter]
  apply List.filter_congr
  intro x _
  simp [Bool.and_comm]

namespace Row

@[simp] theorem id_nullify (row : Row) (column : String) : (row.nullify column).id = row.id := rfl

@[simp] theorem nullify_nullify (row : Row) (column : String) :
    (row.nullify column).nullify column = row.nullify column := by
  simp [nullify]

end Row

namespace Table

variable (table : Table) (kind : ModificationKind) (column : String)

/-! ### Two selections -/

section Selections

variable {table column} {keys : List Int} {mode : LockMode}

/-- A pass leaves the rest of the rows that it could have taken. -/
theorem eligible_apply_selection (limit : Int) :
    (table.apply kind column (table.selection column keys mode limit)).eligible column keys mode
      = (table.eligible column keys mode).drop limit.toNat := by
  rw [eligible_apply]
  apply filter_id_not_mem_take
  exact (List.filter_sublist.map _).nodup table.nodup_ids

/-- What two passes select, one after the other, is what one pass selects with both limits. -/
theorem selection_add {first second : Int} (firstNonneg : 0 ≤ first) (secondNonneg : 0 ≤ second) :
    table.selection column keys mode (first + second)
      = table.selection column keys mode first
        ++ (table.apply kind column (table.selection column keys mode first)).selection column keys
            mode second := by
  have next : (table.apply kind column (table.selection column keys mode first)).selection column
      keys mode second
        = (((table.eligible column keys mode).drop first.toNat).take second.toNat).map (·.id) := by
    rw [← eligible_apply_selection kind first]
    rfl
  rw [next]
  unfold selection
  rw [Int.toNat_add firstNonneg secondNonneg, List.take_add, List.map_append]

/-- No row is left to the next pass that was selected before. -/
theorem not_mem_of_mem_selection_apply {selected : List Int} {limit : Int} {id : Int}
    (next : id ∈ (table.apply kind column selected).selection column keys mode limit) :
    id ∉ selected := by
  obtain ⟨row, taken, rfl⟩ := List.mem_map.mp next
  have eligible := List.mem_of_mem_take taken
  rw [eligible_apply] at eligible
  exact of_decide_eq_true (List.mem_filter.mp eligible).2

end Selections

/-! ### What is done to two selections -/

variable (first second : List Int)

/-- To delete or nullify some rows and then others is to do it to them all. -/
theorem apply_apply :
    (table.apply kind column first).apply kind column second
      = table.apply kind column (first ++ second) := by
  have locked := filter_not_mem_append (fun id : Int => id) table.locked first second
  cases kind with
  | deletion =>
      have rows := filter_not_mem_append Row.id table.rows first second
      exact Table.ext rfl rows locked
  | update =>
      -- The rows keep their ids, and one that is in both is no different for being nullified twice.
      have rows : (table.rows.map (fun row =>
            if row.id ∈ first then row.nullify column else row)).map (fun row =>
              if row.id ∈ second then row.nullify column else row)
          = table.rows.map (fun row =>
              if row.id ∈ first ++ second then row.nullify column else row) := by
        rw [List.map_map]
        apply List.map_congr_left
        intro row _
        by_cases before : row.id ∈ first
        · by_cases again : row.id ∈ second <;> simp [before, again]
        · simp [before]
      exact Table.ext rfl rows locked

/-- The locks on some rows, and those on others that are still held when those are released. -/
theorem locksOn_append (apart : ∀ id ∈ second, id ∉ first) :
    table.locksOn (first ++ second)
      = table.locksOn first + (table.apply kind column first).locksOn second := by
  have held : second.filter (· ∈ table.locked)
      = second.filter (· ∈ (table.apply kind column first).locked) := by
    apply List.filter_congr
    intro id ofSecond
    simp [apart id ofSecond]
  unfold locksOn
  rw [List.filter_append, List.length_append, held]

end Table

/-! ### Stores that agree -/

namespace Store

/-- Two stores that differ at most in the passes that they have logged. -/
structure Agrees (first second : Store) : Prop where
  tables : ∀ name, first.table? name = second.table? name
  waits : first.waits = second.waits
  log : first.log = second.log
  armed : first.armed = second.armed

theorem Agrees.trans {first second third : Store} (one : first.Agrees second)
    (two : second.Agrees third) : first.Agrees third where
  tables name := (one.tables name).trans (two.tables name)
  waits := one.waits.trans two.waits
  log := one.log.trans two.log
  armed := one.armed.trans two.armed

/-- After passes that took some rows and then others the store is as if one had taken them all. -/
theorem afterPass_afterPass_agrees (store : Store) (kind : ModificationKind) (relation : Relation)
    (mode : LockMode) (table : Table) {first second : List Int}
    (apart : ∀ id ∈ second, id ∉ first) :
    ((store.afterPass kind relation mode table first).afterPass kind relation mode
        (table.apply kind relation.column first) second).Agrees
      (store.afterPass kind relation mode table (first ++ second)) where
  tables name := by
    by_cases here : name = relation.childTable
    · rw [here, table?_afterPass_self, table?_afterPass_self, Table.apply_apply]
    · simp only [table?_afterPass_of_ne _ _ _ _ _ _ here]
  waits := by
    change store.waits + _ + _ = store.waits + _
    rw [table.locksOn_append kind relation.column first second apart, Nat.add_assoc]
  log := rfl
  armed := rfl

end Store

/-! ### Calls in turn -/

/-- Calls on child rows in turn, alike but for their limits; the answer has what each of them
answered, and the first one that fails ends them. -/
def Storage.modifyInTurn {σ : Type} (storage : Storage σ) (kind : ModificationKind)
    (relation : Relation) (keys : List Int) (mode : LockMode) :
    List Int → σ → Reply σ (List Nat)
  | [], state => (.ok [], state)
  | limit :: rest, state =>
      (storage.modifyChildren kind relation keys mode limit state).andThen fun count after =>
        (storage.modifyInTurn kind relation keys mode rest after).andThen fun counts final =>
          (.ok (count :: counts), final)

namespace Store

namespace Answers

variable {store : Store} {relation : Relation} (answers : store.Answers relation)
  (kind : ModificationKind) (keys : List Int) (mode : LockMode)
include answers

/-- A call is answered, and the next one is too. -/
theorem exists_modifyChildren (limit : Int) :
    ∃ count after,
      storage.modifyChildren kind relation keys mode limit store = (.ok count, after) ∧
      count = min (store.takeable relation keys mode) limit.toNat ∧
      after.Answers relation ∧
      after.passes = store.passes ++ [⟨relation.childTable, mode, count⟩] := by
  obtain ⟨table, found⟩ := Option.isSome_iff_exists.mp answers.present
  refine ⟨_, _, ?_, length_selection_of_table? keys found mode limit,
    answers.afterPass found kind keys mode limit, rfl⟩
  rw [modifyChildren_storage]
  exact clean_of_table? answers.unarmed found kind keys mode limit

/-- Two calls count and leave what one call does with both limits. -/
theorem modifyChildren_add {first second : Int} (firstNonneg : 0 ≤ first)
    (secondNonneg : 0 ≤ second) :
    ∃ taken more middle after once,
      storage.modifyChildren kind relation keys mode first store = (.ok taken, middle) ∧
      storage.modifyChildren kind relation keys mode second middle = (.ok more, after) ∧
      storage.modifyChildren kind relation keys mode (first + second) store
        = (.ok (taken + more), once) ∧
      after.Agrees once := by
  obtain ⟨table, found⟩ := Option.isSome_iff_exists.mp answers.present
  let selected := table.selection relation.column keys mode first
  let left := table.apply kind relation.column selected
  let next := left.selection relation.column keys mode second
  let middle := store.afterPass kind relation mode table selected
  have answersNext : middle.Answers relation := answers.afterPass found kind keys mode first
  have foundNext : middle.table? relation.childTable = some left :=
    table?_afterPass_self _ _ _ _ _ _
  have both : table.selection relation.column keys mode (first + second) = selected ++ next :=
    Table.selection_add kind firstNonneg secondNonneg
  rw [modifyChildren_storage]
  refine ⟨selected.length, next.length, middle, middle.afterPass kind relation mode left next,
    store.afterPass kind relation mode table (selected ++ next), ?_, ?_, ?_, ?_⟩
  · exact clean_of_table? answers.unarmed found kind keys mode first
  · exact clean_of_table? answersNext.unarmed foundNext kind keys mode second
  · rw [clean_of_table? answers.unarmed found, both, List.length_append]
  · apply afterPass_afterPass_agrees
    exact fun id ofNext => Table.not_mem_of_mem_selection_apply kind ofNext

/-- Calls in turn count and leave what one call does with the sum of their limits. -/
theorem modifyInTurn_agrees {limits : List Int} (nonneg : ∀ limit ∈ limits, 0 ≤ limit) :
    ∃ counts after once,
      storage.modifyInTurn kind relation keys mode limits store = (.ok counts, after) ∧
      storage.modifyChildren kind relation keys mode limits.sum store = (.ok counts.sum, once) ∧
      after.Agrees once ∧
      after.passes = store.passes ++ counts.map (⟨relation.childTable, mode, ·⟩) := by
  induction limits generalizing store with
  | nil =>
      -- No call is made, and a call with the limit zero finds no row.
      obtain ⟨table, found⟩ := Option.isSome_iff_exists.mp answers.present
      have nothing : table.selection relation.column keys mode 0 = [] := rfl
      refine ⟨[], store, store.afterPass kind relation mode table [], rfl, ?_, ?_, ?_⟩
      · rw [modifyChildren_storage, List.sum_nil, clean_of_table? answers.unarmed found, nothing]
        rfl
      · exact ⟨fun name => (table?_afterPass_nil found kind mode name).symm, rfl, rfl, rfl⟩
      · exact (List.append_nil _).symm
  | cons limit rest ih =>
      -- The rest do what one call does from where the first leaves the store, and the two calls are
      -- one by the law of two.
      obtain ⟨limitNonneg, restNonneg⟩ := List.forall_mem_cons.mp nonneg
      obtain ⟨count, middle, called, _, answersNext, logged⟩ :=
        answers.exists_modifyChildren kind keys mode limit
      obtain ⟨counts, after, restOnce, ran, calledRest, agrees, passes⟩ :=
        ih answersNext restNonneg
      obtain ⟨_, _, _, _, once, called', calledRest', calledOnce, agrees'⟩ :=
        answers.modifyChildren_add kind keys mode limitNonneg (List.sum_nonneg restNonneg)
      cases called.symm.trans called'
      cases calledRest.symm.trans calledRest'
      refine ⟨count :: counts, after, once, ?_, ?_, agrees.trans agrees', ?_⟩
      · simp only [Storage.modifyInTurn, called, ran, Reply.andThen_ok]
      · rw [List.sum_cons, List.sum_cons]
        exact calledOnce
      · rw [passes, logged, List.append_assoc]
        rfl

end Answers

/-- Passes over the child table of a relation compose, deleting or nullifying, waiting for locks or
skipping locked rows, in any state in which they are answered.  Two passes leave the same rows,
locks and number of waits as one with the sum of their limits, and count as many rows together; so
do any number of passes, however the sum is divided among them.  Only the log tells them apart,
which has an entry for each.  What they count together is what there is to take, as far as the sum
goes. -/
theorem passes_compose {store : Store} {relation : Relation} (answers : store.Answers relation)
    (kind : ModificationKind) (keys : List Int) (mode : LockMode) :
    (∀ first second : Int, 0 ≤ first → 0 ≤ second →
      ∃ taken more middle after once,
        storage.modifyChildren kind relation keys mode first store = (.ok taken, middle) ∧
        storage.modifyChildren kind relation keys mode second middle = (.ok more, after) ∧
        storage.modifyChildren kind relation keys mode (first + second) store
          = (.ok (taken + more), once) ∧
        after.Agrees once) ∧
    ∀ limits : List Int, (∀ limit ∈ limits, 0 ≤ limit) →
      ∃ counts after once,
        storage.modifyInTurn kind relation keys mode limits store = (.ok counts, after) ∧
        storage.modifyChildren kind relation keys mode limits.sum store = (.ok counts.sum, once) ∧
        after.Agrees once ∧
        after.passes = store.passes ++ counts.map (⟨relation.childTable, mode, ·⟩) ∧
        counts.sum = min (store.takeable relation keys mode) limits.sum.toNat := by
  constructor
  · intro first second firstNonneg secondNonneg
    exact answers.modifyChildren_add kind keys mode firstNonneg secondNonneg
  · intro limits nonneg
    obtain ⟨counts, after, once, ran, called, agrees, passes⟩ :=
      answers.modifyInTurn_agrees kind keys mode nonneg
    obtain ⟨count, _, called', counted, _⟩ :=
      answers.exists_modifyChildren kind keys mode limits.sum
    cases called.symm.trans called'
    exact ⟨counts, after, once, ran, called, agrees, passes, counted⟩

end Store

/-- A relation whose column in the table with locks is set to null. -/
def Sample.authorship : Relation := .declare "users" "posts" "user_id" .asyncNullify

/-- Of three passes the first waits for a lock, the second may take no row, and the third takes the
row without a lock; one pass of two rows does the same. -/
theorem Store.passes_compose_in_sample :
    Sample.busy.Answers Sample.authorship ∧
      (∃ taken more middle after once,
        storage.modifyChildren .update Sample.authorship [7] .blocking 1 Sample.busy
          = (.ok taken, middle) ∧
        storage.modifyChildren .update Sample.authorship [7] .blocking 1 middle
          = (.ok more, after) ∧
        storage.modifyChildren .update Sample.authorship [7] .blocking (1 + 1) Sample.busy
          = (.ok (taken + more), once) ∧
        after.Agrees once) ∧
      ∃ after once,
        storage.modifyInTurn .update Sample.authorship [7] .blocking [1, 0, 1] Sample.busy
          = (.ok [1, 0, 1], after) ∧
        storage.modifyChildren .update Sample.authorship [7] .blocking 2 Sample.busy
          = (.ok 2, once) ∧
        after.Agrees once ∧ once.waits = 1 ∧
        once.table? "posts" = some { lastId := 2, rows := [⟨1, {}⟩, ⟨2, {}⟩], locked := [9] } := by
  have answers : Sample.busy.Answers Sample.authorship :=
    ⟨rfl, by decide⟩
  obtain ⟨two, inTurn⟩ := passes_compose answers .update [7] .blocking
  obtain ⟨counts, after, once, ran, called, agrees, _⟩ := inTurn [1, 0, 1] (by decide)
  have ends : (storage.modifyInTurn .update Sample.authorship [7] .blocking [1, 0, 1]
        Sample.busy).1 = .ok [1, 0, 1] ∧
      (storage.modifyInTurn .update Sample.authorship [7] .blocking [1, 0, 1]
        Sample.busy).2.waits = 1 ∧
      (storage.modifyInTurn .update Sample.authorship [7] .blocking [1, 0, 1]
        Sample.busy).2.table? "posts"
          = some { lastId := 2, rows := [⟨1, {}⟩, ⟨2, {}⟩], locked := [9] } := by
    decide
  rw [ran] at ends
  obtain ⟨answered, waits, table⟩ := ends
  cases answered
  rw [agrees.waits] at waits
  rw [agrees.tables] at table
  exact ⟨answers, two 1 1 (by decide) (by decide), after, once, ran, called, agrees, waits, table⟩

end LooseKeys
