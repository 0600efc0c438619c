/-
Module: LooseKeys.Proofs.Store.PassEffect
Purpose: Exactly what one pass does to the store in memory.
Main exports: Table.MayTake, Table.TakesFirst, Table.takesFirst_iff, Table.eligible_apply,
  RowsLeft, Store.Passed, Storage.modifyChildren, Store.pass_takes_first_rows
-/
import LooseKeys.Proofs.Sorting
import LooseKeys.Proofs.Store.Calls
import Mathlib.Data.List.Forall2
import Mathlib.Data.List.Nodup

/-!
Which rows a pass takes is said here without the selection that the store makes: they may be taken,
they ascend, there are no more than the limit, and a row that may be taken is left only behind all
of them and when the limit is reached.  The rows of a table ascend by their ids, so there is one
such list (`Table.takesFirst_iff`), and it says with the frame of the call all that there is to say.

The rows that are left for another pass, of either lock mode, are those that the pass could have
taken less those that it took (`Table.eligible_apply`).
-/

namespace LooseKeys

/-! ### Which rows are taken -/

namespace Table

section Taking

variable (table : Table) (column : String) (keys : List Int) (mode : LockMode)

/-- A pass may take a row whose column holds one of the keys, a locked one only if it waits. -/
structure MayTake (row : Row) : Prop where
  member : row ∈ table.rows
  holds : ∃ key ∈ keys, row.value? column = some key
  free : mode = .skipLocked → row.id ∉ table.locked

/-- The first of the rows that a pass may take, by their ids, as many as the limit allows; a
negative limit allows none. -/
structure TakesFirst (limit : Int) (taken : List Row) : Prop where
  may : ∀ row ∈ taken, table.MayTake column keys mode row
  ascends : taken.Pairwise (fun first second => first.id < second.id)
  within : (taken.length : Int) ≤ max limit 0
  /-- What is left was out of reach. -/
  left : ∀ row, table.MayTake column keys mode row → row ∉ taken →
    (taken.length : Int) = max limit 0 ∧ ∀ earlier ∈ taken, earlier.id < row.id

variable {table column keys mode}

theorem mem_eligible_iff {row : Row} :
    row ∈ table.eligible column keys mode ↔ table.MayTake column keys mode row := by
  have free : (!(mode.skipsLocked && decide (row.id ∈ table.locked))) = true ↔
      (mode = .skipLocked → row.id ∉ table.locked) := by
    cases mode <;> simp [LockMode.skipsLocked]
  unfold eligible
  rw [List.mem_filter, Bool.and_eq_true, Row.references_iff, free]
  constructor
  · rintro ⟨member, holds, free⟩
    exact ⟨member, holds, free⟩
  · rintro ⟨member, holds, free⟩
    exact ⟨member, holds, free⟩

/-- The selection of the store takes the first rows. -/
theorem takesFirst_take (table : Table) (column : String) (keys : List Int) (mode : LockMode)
    (limit : Int) :
    table.TakesFirst column keys mode limit
      ((table.eligible column keys mode).take limit.toNat) := by
  have order : (table.eligible column keys mode).Pairwise (fun first second => first.id < second.id)
    := table.ascending.filter _
  constructor
  · intro row taken
    exact mem_eligible_iff.mp (List.mem_of_mem_take taken)
  · exact order.sublist (List.take_sublist _ _)
  · rw [List.length_take]
    omega
  · intro row may left
    have eligible := mem_eligible_iff.mpr may
    rw [← List.take_append_drop limit.toNat (table.eligible column keys mode)] at eligible order
    have behind := (List.mem_append.mp eligible).resolve_left left
    constructor
    · have long : limit.toNat < (table.eligible column keys mode).length := by
        have inhabited := List.length_pos_of_mem behind
        rw [List.length_drop] at inhabited
        omega
      rw [List.length_take]
      omega
    · intro earlier taken
      exact (List.pairwise_append.mp order).2.2 earlier taken row behind

/-- There is one list of first rows. -/
theorem takesFirst_iff {limit : Int} {taken : List Row} :
    table.TakesFirst column keys mode limit taken ↔
      taken = (table.eligible column keys mode).take limit.toNat := by
  refine ⟨fun first => ?_, fun same => same ▸ takesFirst_take table column keys mode limit⟩
  -- The rows that are left come behind those that are taken, so together they are all of them.
  let rest := (table.eligible column keys mode).filter (· ∉ taken)
  have order : (taken ++ rest).Pairwise (fun first second => first.id < second.id) := by
    refine List.pairwise_append.mpr ⟨first.ascends, (table.ascending.filter _).filter _, ?_⟩
    intro earlier ofTaken row ofRest
    obtain ⟨eligible, left⟩ := List.mem_filter.mp ofRest
    exact (first.left row (mem_eligible_iff.mp eligible) (of_decide_eq_true left)).2 earlier ofTaken
  have all : taken ++ rest = table.eligible column keys mode := by
    apply eq_of_ascending order (table.ascending.filter _)
    intro row
    rw [List.mem_append, List.mem_filter, decide_eq_true_eq]
    constructor
    · rintro (ofTaken | ⟨eligible, _⟩)
      · exact mem_eligible_iff.mpr (first.may row ofTaken)
      · exact eligible
    · intro eligible
      exact (em (row ∈ taken)).imp_right (fun left => ⟨eligible, left⟩)
  have within := first.within
  rw [← all]
  cases untaken : rest with
  | nil => rw [List.append_nil, List.take_of_length_le (by omega)]
  | cons row others =>
      have ofRest : row ∈ rest := by
        rw [untaken]
        exact List.mem_cons_self
      obtain ⟨eligible, left⟩ := List.mem_filter.mp ofRest
      have full := (first.left row (mem_eligible_iff.mp eligible) (of_decide_eq_true left)).1
      rw [List.take_left' (by omega)]

end Taking

/-! ### What is left for another pass -/

/-- After a pass another one, of either lock mode, may take what it could have taken before, less
the rows that are gone from its reach. -/
theorem eligible_apply (table : Table) (kind : ModificationKind) (column : String)
    (keys selected : List Int) (mode : LockMode) :
    (table.apply kind column selected).eligible column keys mode
      = (table.eligible column keys mode).filter (·.id ∉ selected) := by
  cases kind with
  | deletion =>
      change (table.rows.filter _).filter _ = _
      unfold eligible
      rw [List.filter_filter, List.filter_filter]
      apply List.filter_congr
      intro row _
      by_cases taken : row.id ∈ selected
      · simp [taken]
      · simp [taken, apply, deleteRows]
  | update =>
      -- The rows that the pass took do not reference a key any more, and the others are the same.
      have reached : table.rows.filter ((fun row => row.references column keys &&
            !(mode.skipsLocked && decide (row.id ∈ (table.nullifyRows column selected).locked)))
              ∘ fun row => if row.id ∈ selected then row.nullify column else row)
          = (table.eligible column keys mode).filter (·.id ∉ selected) := by
        unfold eligible
        rw [List.filter_filter]
        apply List.filter_congr
        intro row _
        by_cases taken : row.id ∈ selected
        · simp [taken]
        · simp [taken, nullifyRows]
      change (table.rows.map _).filter _ = _
      rw [List.filter_map]
      refine (congrArg _ reached).trans ((List.map_congr_left ?_).trans (List.map_id _))
      intro row member
      exact if_neg (of_decide_eq_true (List.mem_filter.mp member).2)

end Table

/-! ### What is left of the rows -/

/-- The row with a column set to null, and nothing else changed. -/
structure Row.LosesOnly (column : String) (before after : Row) : Prop where
  id : after.id = before.id
  null : after.value? column = none
  kept : ∀ other, other ≠ column → after.value? other = before.value? other

theorem Row.losesOnly_nullify (row : Row) (column : String) :
    row.LosesOnly column (row.nullify column) :=
  ⟨rfl, row.value?_nullify_self column, fun _ ne => row.value?_nullify_of_ne ne⟩

/-- What a pass leaves of the rows of a table: a deleting one all but those that it takes, and a
nullifying one all of them, with the column set to null in those that it takes. -/
def RowsLeft (kind : ModificationKind) (column : String) (taken before after : List Row) : Prop :=
  match kind with
  | .deletion => after = before.filter (· ∉ taken)
  | .update =>
      List.Forall₂
        (fun row later => if row ∈ taken then row.LosesOnly column later else later = row)
        before after

/-- Where ids are given once, a row is told by its id. -/
theorem id_mem_map_iff {rows taken : List Row} (distinct : (rows.map (·.id)).Nodup)
    (within : taken ⊆ rows) {row : Row} (member : row ∈ rows) :
    row.id ∈ taken.map (·.id) ↔ row ∈ taken := by
  refine ⟨fun named => ?_, fun ofTaken => List.mem_map_of_mem ofTaken⟩
  obtain ⟨other, ofTaken, same⟩ := List.mem_map.mp named
  rwa [List.inj_on_of_nodup_map distinct member (within ofTaken) same.symm]

theorem Table.rowsLeft_apply (table : Table) (kind : ModificationKind) (column : String)
    {taken : List Row} (within : taken ⊆ table.rows) :
    RowsLeft kind column taken table.rows (table.apply kind column (taken.map (·.id))).rows := by
  cases kind with
  | deletion =>
      apply List.filter_congr
      intro row member
      simp only [id_mem_map_iff table.nodup_ids within member]
  | update =>
      refine List.forall₂_map_right_iff.mpr (List.forall₂_same.mpr ?_)
      intro row member
      simp only [id_mem_map_iff table.nodup_ids within member]
      split
      · exact row.losesOnly_nullify column
      · rfl

/-! ### The call -/

/-- The call that modifies child rows in a way. -/
def Storage.modifyChildren {σ : Type} (storage : Storage σ) :
    ModificationKind → Relation → List Int → LockMode → Int → σ → Reply σ Nat
  | .deletion => storage.deleteChildren
  | .update => storage.nullifyChildren

namespace Store

/-- A pass took some rows of a table and released their locks, and is logged.  Nothing else is
changed. -/
structure Passed (kind : ModificationKind) (relation : Relation) (mode : LockMode) (table : Table)
    (taken : List Row) (before after : Store) : Prop where
  rows : RowsLeft kind relation.column taken table.rows (after.rowsOf relation.childTable)
  found : ∃ later, after.table? relation.childTable = some later ∧
    later.lastId = table.lastId ∧ later.locked = table.locked.filter (· ∉ taken.map (·.id))
  others : ∀ name, name ≠ relation.childTable → after.table? name = before.table? name
  waits : after.waits = before.waits + (taken.filter (·.id ∈ table.locked)).length
  /-- Without waiting no lock is released. -/
  unwaited : mode = .skipLocked → after.waits = before.waits
  passes : after.passes = before.passes ++ [⟨relation.childTable, mode, taken.length⟩]
  log : after.log = before.log
  armed : after.armed = before.armed

theorem modifyChildren_storage (kind : ModificationKind) :
    storage.modifyChildren kind = clean kind := by
  cases kind <;> rfl

theorem locksOn_map (table : Table) (taken : List Row) :
    table.locksOn (taken.map (·.id)) = (taken.filter (·.id ∈ table.locked)).length := by
  unfold Table.locksOn
  rw [List.filter_map, List.length_map]
  rfl

/-- What a pass leaves that takes rows of a table. -/
theorem afterPass_passed (store : Store) (kind : ModificationKind) (relation : Relation)
    {table : Table} {mode : LockMode} {taken : List Row} (within : taken ⊆ table.rows)
    (free : mode = .skipLocked → ∀ row ∈ taken, row.id ∉ table.locked) :
    store.Passed kind relation mode table taken
      (store.afterPass kind relation mode table (taken.map (·.id))) := by
  have waits : (store.afterPass kind relation mode table (taken.map (·.id))).waits
      = store.waits + (taken.filter (·.id ∈ table.locked)).length :=
    congrArg (store.waits + ·) (locksOn_map table taken)
  constructor
  · rw [rowsOf_afterPass_self]
    exact table.rowsLeft_apply kind relation.column within
  · exact ⟨_, store.table?_afterPass_self kind relation mode table _, table.lastId_apply _ _ _,
      table.locked_apply _ _ _⟩
  · exact fun name ne => table?_afterPass_of_ne store kind relation mode table _ ne
  · exact waits
  · intro skips
    have unlocked : taken.filter (·.id ∈ table.locked) = [] := by
      apply List.filter_eq_nil_iff.mpr
      intro row ofTaken
      simpa using free skips row ofTaken
    rw [waits, unlocked, List.length_nil, Nat.add_zero]
  · unfold afterPass
    rw [List.length_map]
  · rfl
  · rfl

/-- A call on child rows, deleting or nullifying, in any state.  An armed failure comes first and
is used up, a missing table second, and neither changes anything else.  Otherwise the call takes
the first of the rows that it may take, answers with their number, and does nothing but what is to
be done to them. -/
theorem pass_takes_first_rows (store : Store) (kind : ModificationKind) (relation : Relation)
    (keys : List Int) (mode : LockMode) (limit : Int) :
    (∀ reason, store.armed = some reason →
      storage.modifyChildren kind relation keys mode limit store
        = (.error (.storage reason), { store with armed := none })) ∧
    (store.armed = none → store.table? relation.childTable = none →
      storage.modifyChildren kind relation keys mode limit store
        = (.error (.unknownTable relation.childTable), store)) ∧
    ∀ table, store.armed = none → store.table? relation.childTable = some table →
      ∃ taken after,
        storage.modifyChildren kind relation keys mode limit store = (.ok taken.length, after) ∧
        table.TakesFirst relation.column keys mode limit taken ∧
        (∀ other, table.TakesFirst relation.column keys mode limit other → other = taken) ∧
        store.Passed kind relation mode table taken after := by
  rw [modifyChildren_storage]
  have ends := clean_cases kind relation keys mode limit store
  refine ⟨?_, ?_, ?_⟩
  · intro reason armed
    rcases ends with ⟨_, same, ended⟩ | ⟨unarmed, _⟩ | ⟨_, unarmed, _⟩
    · cases same.symm.trans armed
      exact ended
    · cases unarmed.symm.trans armed
    · cases unarmed.symm.trans armed
  · intro unarmed missing
    rcases ends with ⟨_, armed, _⟩ | ⟨_, _, ended⟩ | ⟨_, _, found, _⟩
    · cases unarmed.symm.trans armed
    · exact ended
    · cases missing.symm.trans found
  · intro table unarmed found
    rcases ends with ⟨_, armed, _⟩ | ⟨_, missing, _⟩ | ⟨_, _, same, ended⟩
    · cases unarmed.symm.trans armed
    · cases missing.symm.trans found
    cases same.symm.trans found
    let taken := (table.eligible relation.column keys mode).take limit.toNat
    have first : table.TakesFirst relation.column keys mode limit taken :=
      table.takesFirst_take relation.column keys mode limit
    have passed := store.afterPass_passed kind relation
      (fun row member => (first.may row member).member)
      (fun skips row member => (first.may row member).free skips)
    refine ⟨taken, _, ?_, first, ?_, passed⟩
    · rw [ended]
      unfold Table.selection
      rw [List.length_map]
    · exact fun other firstToo => Table.takesFirst_iff.mp firstToo

end Store

/-! A table with a lock on its first row, and one on a row that it does not have. -/
namespace Sample

def busy : Store :=
  let first := (Store.empty.insertRow "posts" [("user_id", some 7)]).2
  let second := (first.insertRow "posts" [("user_id", some 7)]).2
  (second.lockRow "posts" 1).lockRow "posts" 9

def busyTable : Table :=
  { lastId := 2
    rows := [⟨1, { entries := [("user_id", 7)] }⟩, ⟨2, { entries := [("user_id", 7)] }⟩]
    locked := [1, 9] }

end Sample

/-- A pass of one row waits for the lock on the first row and leaves the other lock alone. -/
theorem Store.pass_takes_first_rows_in_sample :
    Sample.busy.table? "posts" = some Sample.busyTable ∧
      ∃ after, storage.modifyChildren .deletion (.declare "users" "posts" "user_id" .asyncDelete)
          [7] .blocking 1 Sample.busy = (.ok 1, after) ∧
        after.waits = 1 ∧
        after.table? "posts" = some
          { lastId := 2, rows := [⟨2, { entries := [("user_id", 7)] }⟩], locked := [9] } := by
  have found : Sample.busy.table? "posts" = some Sample.busyTable := by decide
  obtain ⟨_, _, effect⟩ := pass_takes_first_rows Sample.busy .deletion
    (.declare "users" "posts" "user_id" .asyncDelete) [7] .blocking 1
  obtain ⟨taken, after, answered, first, _, passed⟩ := effect Sample.busyTable rfl found
  have one : taken = [⟨1, { entries := [("user_id", 7)] }⟩] := Table.takesFirst_iff.mp first
  subst one
  refine ⟨found, after, answered, passed.waits, ?_⟩
  have left : after.rowsOf "posts" = [⟨2, { entries := [("user_id", 7)] }⟩] := passed.rows
  obtain ⟨later, here, lastId, locked⟩ := passed.found
  change after.table? "posts" = some later at here
  rw [rowsOf_of_table? here] at left
  rw [here]
  exact congrArg some (Table.ext lastId left locked)

end LooseKeys
