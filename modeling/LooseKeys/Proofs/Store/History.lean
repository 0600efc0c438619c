/-
Module: LooseKeys.Proofs.Store.History
Purpose: What every operation on the store keeps of the states before it.
Main exports: Store.Operation, Store.act, Store.actAll, Store.deletions_actAll, Store.Follows,
  Store.follows_act, Store.follows_actAll, Store.Follows.isMarkable_iff, Store.Keeps,
  Store.history_is_kept
-/
import LooseKeys.Proofs.Marking

/-!
`Store.Evolves` tells what a cleanup can do to a store; here everybody may write to it, so rows and
records come in as well.  They come in with greater ids than any given before, which is why a row
or a record of a later state can still be told to be that of an earlier one.

`Store.Follows` is the relation between two states of a history.  It is a preorder, each operation
leads from a state to one that follows it, and so does every sequence of operations.
-/

namespace LooseKeys.Store

/-- What can be done with the store. -/
inductive Operation where
  | createTable (name : String)
  | insertRow (name : String) (values : List (String × Option Int))
  | lockRow (name : String) (rowId : Int)
  | recordDeletion (parentTable : String) (primaryKey : Int) (createdAt : Timestamp)
  | failNext (reason : String)
  /-- One pass: a deleting or a nullifying call. -/
  | clean (kind : ModificationKind) (relation : Relation) (parentIds : List Int)
      (mode : LockMode) (limit : Int)
  | markProcessed (parentTable : String) (firstId lastId : Int)
  | loadPending (parentTable : String) (limit : Int)

/-- The store after an operation, whatever the operation answers. -/
def act (store : Store) : Operation → Store
  | .createTable name => store.createTable name
  | .insertRow name values => (store.insertRow name values).2
  | .lockRow name rowId => store.lockRow name rowId
  | .recordDeletion parentTable primaryKey createdAt =>
      (store.recordDeletion parentTable primaryKey createdAt).2
  | .failNext reason => store.failNext reason
  | .clean kind relation parentIds mode limit =>
      (clean kind relation parentIds mode limit store).2
  | .markProcessed parentTable firstId lastId => (markProcessed parentTable firstId lastId store).2
  | .loadPending parentTable limit => (loadPending parentTable limit store).2

/-- The store after some operations. -/
def actAll (store : Store) (operations : List Operation) : Store := operations.foldl act store

/-- The greatest id that a table has given; a table that does not exist has given none. -/
def lastIdOf (store : Store) (name : String) : Int := ((store.table? name).getD .empty).lastId

theorem lastIdOf_of_table? {store : Store} {name : String} {table : Table}
    (found : store.table? name = some table) : store.lastIdOf name = table.lastId := by
  unfold lastIdOf
  rw [found]
  rfl

theorem rowsOf_eq_getD (store : Store) (name : String) :
    store.rowsOf name = ((store.table? name).getD .empty).rows := by
  unfold rowsOf
  cases store.table? name <;> rfl

/-- A new row gets the id after the greatest one that its table has given. -/
theorem insertRow_id (store : Store) (name : String) (values : List (String × Option Int)) :
    (store.insertRow name values).1 = store.lastIdOf name + 1 := rfl

/-- The id of a row is one that its table has given. -/
theorem id_le_lastIdOf {store : Store} {name : String} {row : Row}
    (member : row ∈ store.rowsOf name) : row.id ≤ store.lastIdOf name := by
  unfold rowsOf at member
  cases found : store.table? name with
  | none =>
      rw [found] at member
      cases member
  | some table =>
      rw [found] at member
      rw [lastIdOf_of_table? found]
      exact (table.given row member).2

/-- A record of the log has the number of its place as its id. -/
theorem id_of_getElem? {store : Store} {index : Nat} {record : DeletedRecord}
    (found : store.log[index]? = some record) : record.id = index + 1 := by
  obtain ⟨within, _⟩ := List.getElem?_eq_some_iff.mp found
  have ids := congrArg (·[index]?) store.history.numbered
  simp only [List.getElem?_map, found, List.getElem?_range within, Option.map_some,
    Option.some.injEq] at ids
  exact ids

/-! ### The deletions on record -/

/-- The deleted row of which a record tells: its table and its key, and when it was deleted. -/
def deletionOf (record : DeletedRecord) : String × Int × Timestamp :=
  (record.table, record.primaryKey, record.createdAt)

/-- The deletion that an operation records. -/
def Operation.deletion? : Operation → Option (String × Int × Timestamp)
  | .recordDeletion parentTable primaryKey createdAt =>
      some (qualify parentTable, primaryKey, createdAt)
  | _ => none

/-- An operation puts the deletion that it records at the end of the log, and no other. -/
theorem deletions_act (store : Store) (operation : Operation) :
    (store.act operation).log.map deletionOf
      = store.log.map deletionOf ++ operation.deletion?.toList := by
  have unrecorded {after : Store} (same : after.log = store.log) :
      after.log.map deletionOf = store.log.map deletionOf ++ [] := by
    rw [same, List.append_nil]
  cases operation with
  | createTable name => exact unrecorded rfl
  | insertRow name values => exact unrecorded rfl
  | lockRow name rowId => exact unrecorded rfl
  | recordDeletion parentTable primaryKey createdAt => exact List.map_append
  | failNext reason => exact unrecorded rfl
  | clean kind relation parentIds mode limit =>
      apply unrecorded
      change (clean kind relation parentIds mode limit store).2.log = store.log
      rcases clean_cases kind relation parentIds mode limit store with
        ⟨_, _, ended⟩ | ⟨_, _, ended⟩ | ⟨_, _, _, ended⟩
      · rw [ended]
      · rw [ended]
      · rw [ended]
        rfl
  | markProcessed parentTable firstId lastId =>
      change (markProcessed parentTable firstId lastId store).2.log.map deletionOf = _ ++ []
      rw [List.append_nil]
      rcases markProcessed_cases parentTable firstId lastId store with
        ⟨_, _, ended⟩ | ⟨_, ended⟩
      · rw [ended]
      · -- A marking changes the status of records, of which their deletion says nothing.
        rw [ended, log_afterMark_eq_map, List.map_map]
        apply List.map_congr_left
        intro record _
        simp only [Function.comp]
        split <;> rfl
  | loadPending parentTable limit => exact unrecorded rfl

/-- So the log tells of the deletions that were recorded, in their order. -/
theorem deletions_actAll (store : Store) (operations : List Operation) :
    (store.actAll operations).log.map deletionOf
      = store.log.map deletionOf ++ operations.filterMap (·.deletion?) := by
  induction operations generalizing store with
  | nil => exact (List.append_nil _).symm
  | cons operation rest ih =>
      change ((store.act operation).actAll rest).log.map deletionOf = _
      rw [ih, deletions_act, List.append_assoc, List.filterMap_cons]
      cases operation.deletion? <;> rfl

/-! ### States of one history -/

/-- A state and a later one of the same history.  A row of the later state is new by its id, or was
there and has lost some values at most; a record keeps its place, and has been marked at most. -/
structure Follows (before after : Store) : Prop where
  lastIds : ∀ name, before.lastIdOf name ≤ after.lastIdOf name
  rows : ∀ name, ∀ later ∈ after.rowsOf name, before.lastIdOf name < later.id ∨
    ∃ row ∈ before.rowsOf name, row.Evolves (fun _ _ => True) later
  log : ∀ (index : Nat) (record : DeletedRecord), before.log[index]? = some record →
    ∃ later, after.log[index]? = some later ∧ record.Evolves (fun _ => True) later
  passes : before.passes <+: after.passes
  waits : before.waits ≤ after.waits

namespace Follows

theorem refl (store : Store) : store.Follows store where
  lastIds _ := Int.le_refl _
  rows _ later member := Or.inr ⟨later, member, .refl later⟩
  log _ record found := ⟨record, found, Or.inl rfl⟩
  passes := List.prefix_refl _
  waits := Nat.le_refl _

theorem trans {first second third : Store} (one : first.Follows second)
    (two : second.Follows third) : first.Follows third where
  lastIds name := Int.le_trans (one.lastIds name) (two.lastIds name)
  rows name later member := by
    rcases two.rows name later member with new | ⟨row, ofSecond, change⟩
    · exact Or.inl (Int.lt_of_le_of_lt (one.lastIds name) new)
    · rcases one.rows name row ofSecond with new | ⟨old, ofFirst, change'⟩
      · rw [← change.id] at new
        exact Or.inl new
      · exact Or.inr ⟨old, ofFirst, change'.trans change⟩
  log index record found := by
    obtain ⟨later, found', change⟩ := one.log index record found
    obtain ⟨latest, found'', change'⟩ := two.log index later found'
    exact ⟨latest, found'', change.trans change'⟩
  passes := one.passes.trans two.passes
  waits := Nat.le_trans one.waits two.waits

/-- Only the log was written to. -/
theorem of_log {before after : Store} (tables : after.tables = before.tables)
    (log : ∀ (index : Nat) (record : DeletedRecord), before.log[index]? = some record →
      ∃ later, after.log[index]? = some later ∧ record.Evolves (fun _ => True) later)
    (passes : after.passes = before.passes) (waits : after.waits = before.waits) :
    before.Follows after where
  lastIds name := by
    have same : before.lastIdOf name = after.lastIdOf name := by
      unfold lastIdOf table?
      rw [tables]
    exact Int.le_of_eq same
  rows name later member := by
    unfold rowsOf table? at member ⊢
    rw [tables] at member
    exact Or.inr ⟨later, member, .refl later⟩
  log := log
  passes := ⟨[], (List.append_nil _).trans passes.symm⟩
  waits := Nat.le_of_eq waits.symm

/-- Only one table was written to. -/
theorem of_table {before after : Store} (written : String)
    (others : ∀ name, name ≠ written → after.table? name = before.table? name)
    (lastId : before.lastIdOf written ≤ after.lastIdOf written)
    (rows : ∀ later ∈ after.rowsOf written, before.lastIdOf written < later.id ∨
      ∃ row ∈ before.rowsOf written, row.Evolves (fun _ _ => True) later)
    (log : after.log = before.log) (passes : before.passes <+: after.passes)
    (waits : before.waits ≤ after.waits) : before.Follows after where
  lastIds name := by
    by_cases same : name = written
    · rw [same]
      exact lastId
    · have kept : before.lastIdOf name = after.lastIdOf name := by
        unfold lastIdOf
        rw [others name same]
      exact Int.le_of_eq kept
  rows name later member := by
    by_cases same : name = written
    · rw [same] at member ⊢
      exact rows later member
    · unfold rowsOf at member ⊢
      rw [others name same] at member
      exact Or.inr ⟨later, member, .refl later⟩
  log index record found := ⟨record, by rw [log, found], Or.inl rfl⟩
  passes := passes
  waits := waits

end Follows

/-! ### One operation -/

section Operations

variable (store : Store)

theorem follows_createTable (name : String) :
    store.Follows (store.createTable name) := by
  have made : (store.createTable name).table? name = some ((store.table? name).getD .empty) :=
    store.tables.get?_upsert_self name _
  refine .of_table name (fun other ne => SortedMap.get?_upsert_of_ne _ ne _) ?_ ?_ rfl
    (List.prefix_refl _) (Nat.le_refl _)
  · exact Int.le_of_eq (lastIdOf_of_table? made).symm
  · intro later member
    rw [rowsOf_of_table? made, ← rowsOf_eq_getD] at member
    exact Or.inr ⟨later, member, .refl later⟩

theorem follows_insertRow (name : String) (values : List (String × Option Int)) :
    store.Follows (store.insertRow name values).2 := by
  obtain ⟨columns, inserted⟩ : ∃ columns, (store.insertRow name values).2.table? name =
      some (((store.table? name).getD .empty).insert columns) :=
    ⟨_, SortedMap.get?_insert_self _ _ _⟩
  refine .of_table name (fun other ne => SortedMap.get?_insert_of_ne _ ne _) ?_ ?_ rfl
    (List.prefix_refl _) (Nat.le_refl _)
  · rw [lastIdOf_of_table? inserted]
    exact Int.le_of_lt (Int.lt_succ _)
  · intro later member
    rw [rowsOf_of_table? inserted] at member
    rcases List.mem_append.mp member with old | new
    · rw [← rowsOf_eq_getD] at old
      exact Or.inr ⟨later, old, .refl later⟩
    · rw [List.mem_singleton.mp new]
      exact Or.inl (Int.lt_succ _)

theorem follows_lockRow (name : String) (rowId : Int) :
    store.Follows (store.lockRow name rowId) where
  lastIds other := by
    unfold lastIdOf table? lockRow
    rw [SortedMap.get?_modify]
    cases store.tables.get? other with
    | none => exact Int.le_refl _
    | some table =>
        simp only [Option.map_some, Option.getD_some]
        split
        · unfold Table.lock
          split <;> exact Int.le_refl _
        · exact Int.le_refl _
  rows other later member := by
    rw [rowsOf_lockRow] at member
    exact Or.inr ⟨later, member, .refl later⟩
  log _ record found := ⟨record, found, Or.inl rfl⟩
  passes := List.prefix_refl _
  waits := Nat.le_refl _

theorem follows_recordDeletion (parentTable : String) (primaryKey : Int) (createdAt : Timestamp) :
    store.Follows (store.recordDeletion parentTable primaryKey createdAt).2 := by
  refine .of_log rfl ?_ rfl rfl
  intro index record found
  obtain ⟨within, _⟩ := List.getElem?_eq_some_iff.mp found
  exact ⟨record, (List.getElem?_append_left within).trans found, Or.inl rfl⟩

/-- The log is as it was. -/
theorem follows_armed (armed : Option String) : store.Follows { store with armed } :=
  .of_log rfl (fun _ record found => ⟨record, found, Or.inl rfl⟩) rfl rfl

theorem follows_clean (kind : ModificationKind) (relation : Relation) (parentIds : List Int)
    (mode : LockMode) (limit : Int) :
    store.Follows (clean kind relation parentIds mode limit store).2 := by
  rcases clean_cases kind relation parentIds mode limit store with
    ⟨_, _, ended⟩ | ⟨_, _, ended⟩ | ⟨table, _, found, ended⟩
  · rw [ended]
    exact store.follows_armed none
  · rw [ended]
    exact .refl store
  · rw [ended]
    refine .of_table relation.childTable
      (fun name ne => table?_afterPass_of_ne store kind relation mode table _ ne) ?_ ?_ rfl
      (List.prefix_append _ _) (Nat.le_add_right _ _)
    · have kept := lastIdOf_of_table?
        (store.table?_afterPass_self kind relation mode table
          (table.selection relation.column parentIds mode limit))
      rw [Table.lastId_apply, ← lastIdOf_of_table? found] at kept
      exact Int.le_of_eq kept.symm
    · intro later member
      rw [rowsOf_afterPass_self] at member
      have evolves : RowsEvolve (fun _ _ _ => True) table.rows
          (table.apply kind relation.column
            (table.selection relation.column parentIds mode limit)).rows :=
        Table.apply_evolves (fun _ _ => trivial)
      rw [rowsOf_of_table? found]
      exact Or.inr (evolves.mem_before member)

theorem follows_markProcessed (parentTable : String) (firstId lastId : Int) :
    store.Follows (markProcessed parentTable firstId lastId store).2 := by
  have evolves := markProcessed_evolves_any parentTable firstId lastId store
  have waits : (markProcessed parentTable firstId lastId store).2.waits = store.waits := by
    rcases markProcessed_cases parentTable firstId lastId store with ⟨_, _, ended⟩ | ⟨_, ended⟩
    · rw [ended]
    · rw [ended]
      rfl
  exact .of_log (tables_markProcessed ..)
    (fun _ _ found => DeletedRecord.evolve_getElem? evolves.log found) (passes_markProcessed ..)
    waits

/-- Every operation leads to a state that follows. -/
theorem follows_act (operation : Operation) : store.Follows (store.act operation) := by
  cases operation with
  | createTable name => exact store.follows_createTable name
  | insertRow name values => exact store.follows_insertRow name values
  | lockRow name rowId => exact store.follows_lockRow name rowId
  | recordDeletion parentTable primaryKey createdAt =>
      exact store.follows_recordDeletion parentTable primaryKey createdAt
  | failNext reason => exact store.follows_armed (some reason)
  | clean kind relation parentIds mode limit =>
      exact store.follows_clean kind relation parentIds mode limit
  | markProcessed parentTable firstId lastId =>
      exact store.follows_markProcessed parentTable firstId lastId
  | loadPending parentTable limit => exact .refl store

/-- So do any number of operations. -/
theorem follows_actAll (operations : List Operation) : store.Follows (store.actAll operations) := by
  induction operations generalizing store with
  | nil => exact .refl store
  | cons operation rest ih => exact (store.follows_act operation).trans (ih (store.act operation))

end Operations

/-! ### What later states tell of earlier ones -/

/-- What is kept between two states of one history: records stay as they are, or pending ones are
processed; rows that are in both lose values at most; no later row is given the id of an earlier
one; and passes and waits add up. -/
structure Keeps (before after : Store) : Prop where
  records : ∀ (index : Nat) (record : DeletedRecord), before.log[index]? = some record →
    ∃ later, after.log[index]? = some later ∧
      (later = record ∨ record.isPending ∧ later = record.processed)
  values : ∀ name, ∀ row ∈ before.rowsOf name, ∀ later ∈ after.rowsOf name, later.id = row.id →
    ∀ column, later.value? column = row.value? column ∨
      later.value? column = none ∧ ∃ value, row.value? column = some value
  fresh : ∀ name values, ∀ row ∈ before.rowsOf name, (after.insertRow name values).1 ≠ row.id
  passes : before.passes <+: after.passes
  waits : before.waits ≤ after.waits

theorem Follows.keeps {before after : Store} (follows : before.Follows after) :
    before.Keeps after where
  records index record found := by
    obtain ⟨later, found', change⟩ := follows.log index record found
    exact ⟨later, found', change.imp_right (And.imp_right And.right)⟩
  values := by
    intro name row member later member' same column
    rcases follows.rows name later member' with new | ⟨old, ofBefore, change⟩
    · have given := id_le_lastIdOf member
      omega
    · -- No other row had the id, so the later row comes from this one.
      have sameRow : old = row :=
        List.inj_on_of_nodup_map (before.nodup_rowsOf name) ofBefore member
          (change.id.symm.trans same)
      rw [sameRow] at change
      rcases change.values column with kept | ⟨lost, value, held, _⟩
      · exact Or.inl kept
      · exact Or.inr ⟨lost, value, held⟩
  fresh := by
    intro name values row member same
    have given := id_le_lastIdOf member
    have grown := follows.lastIds name
    rw [insertRow_id] at same
    omega
  passes := follows.passes
  waits := follows.waits

/-- The range of a load has no pending record in a later log but those of the load that nobody has
marked in the meantime. -/
theorem Follows.isMarkable_iff {before after : Store} (follows : before.Follows after)
    {batch : Batch} (loaded : batch.LoadedFrom before) {firstId lastId : Int}
    (range : batch.idRange? = some (firstId, lastId)) {record : DeletedRecord}
    (member : record ∈ after.log) :
    isMarkable batch.parentTable firstId lastId record ↔ record ∈ batch.records := by
  rw [← loaded.filter_markable range]
  refine ⟨fun markable => ?_, fun markable => (List.mem_filter.mp markable).2⟩
  refine List.mem_filter.mpr ⟨?_, markable⟩
  obtain ⟨_, pending, _, within⟩ := Store.isMarkable_iff.mp markable
  -- The record stands in front of the last one of the load, so it was in the log by then.
  obtain ⟨index, found⟩ := List.mem_iff_getElem?.mp member
  obtain ⟨_, _, final, ofBatch, _, ids⟩ := loaded.idRange
  rw [ids] at range
  cases range
  obtain ⟨finalIndex, foundFinal⟩ := List.mem_iff_getElem?.mp (loaded.pending ofBatch).1
  have id := id_of_getElem? found
  have finalId := id_of_getElem? foundFinal
  obtain ⟨inLog, _⟩ := List.getElem?_eq_some_iff.mp foundFinal
  have early : index < before.log.length := by omega
  obtain ⟨later, found', change⟩ := follows.log index _ (List.getElem?_eq_getElem early)
  cases found.symm.trans found'
  rcases change with same | ⟨_, _, marked⟩
  · rw [same]
    exact List.getElem_mem early
  · rw [marked] at pending
    cases pending

/-- A marking whose range holds some records only marks these. -/
theorem markProcessed_of_isMarkable_iff {store : Store} (unarmed : store.armed = none)
    {parentTable : String} {firstId lastId : Int} {records : List DeletedRecord}
    (same : ∀ record ∈ store.log,
      isMarkable parentTable firstId lastId record ↔ record ∈ records) :
    ∃ marked : Log, marked.records = store.logMarking records ∧
      markProcessed parentTable firstId lastId store =
        (.ok (store.log.filter (· ∈ records)).length, { store with history := marked }) := by
  have found : store.log.filter (isMarkable parentTable firstId lastId) =
      store.log.filter (· ∈ records) := by
    apply List.filter_congr
    intro record member
    rw [Bool.eq_iff_iff, same record member, decide_eq_true_iff]
  have log : (store.afterMark parentTable firstId lastId).log = store.logMarking records := by
    apply List.map_congr_left
    intro record member
    simp only [same record member]
    rfl
  rcases markProcessed_cases parentTable firstId lastId store with ⟨_, armed, _⟩ | ⟨_, ended⟩
  · cases unarmed.symm.trans armed
  · rw [found] at ended
    exact ⟨_, log, ended⟩

/-- What a load from one state gives, and what a marking from its first to its last id does in a
later one: the load is the front of the pending records of the table, and the marking changes those
of them that are still pending, unless a failure is armed. -/
structure LoadHolds (before after : Store) (parentTable : String) (limit : Int)
    (loaded : List DeletedRecord) : Prop where
  front : loaded = (before.log.filter
    (fun record => record.table = parentTable && record.isPending)).take (max limit 0).toNat
  ascends : loaded.Pairwise (fun first second => first.id < second.id)
  marks : ∀ first final, loaded.head? = some first → loaded.getLast? = some final →
    after.armed = none → ∃ marked : Log, marked.records = after.logMarking loaded ∧
      markProcessed parentTable first.id final.id after =
        (.ok (after.log.filter (· ∈ loaded)).length, { after with history := marked })
  refused : ∀ firstId lastId reason, after.armed = some reason →
    markProcessed parentTable firstId lastId after =
      (.error (.storage reason), { after with armed := none })

theorem Follows.loadHolds {before after : Store} (follows : before.Follows after)
    (parentTable : String) (limit : Int) : before.LoadHolds after parentTable limit
      ((before.pendingOf parentTable).take limit.toNat) where
  front := by
    have positive : (max limit 0).toNat = limit.toNat := by omega
    rw [positive]
    rfl
  ascends := before.pairwise_take_pendingOf parentTable limit.toNat
  marks := by
    intro first final isFirst isFinal unarmed
    let batch : Batch := { parentTable, records := (before.pendingOf parentTable).take limit.toNat }
    have nonempty : batch.records ≠ [] := List.ne_nil_of_mem (List.mem_of_head? isFirst)
    have loaded : batch.LoadedFrom before := ⟨⟨limit.toNat, rfl⟩, nonempty⟩
    have range : batch.idRange? = some (first.id, final.id) := by
      unfold Batch.idRange? Batch.first? Batch.last?
      rw [isFirst, isFinal]
    exact markProcessed_of_isMarkable_iff unarmed
      (fun _ member => follows.isMarkable_iff loaded range member)
  refused := by
    intro firstId lastId reason armed
    rcases markProcessed_cases parentTable firstId lastId after with
      ⟨_, armed', ended⟩ | ⟨unarmed, _⟩
    · cases armed.symm.trans armed'
      exact ended
    · cases unarmed.symm.trans armed

/-- Whatever operations are carried out on the store from the empty one on, in any order and with
any arguments.  The log tells of the deletions that were recorded, in their order and of no others,
and its ids count its records from one; a new record is pending and stands at the end; no record is
removed or moved, and none changes but from pending to processed.  The ids of the rows of a table
are among those that it has given, no id is given twice, also not that of a row that is gone, and a
value that is there later was there before.  Passes are logged at the end, and waits are only added
to.  A load gives the first pending records of its table, in ascending order; and a marking from
the first to the last of them, at once or later on, changes exactly those that are still
pending. -/
theorem history_is_kept (earlier later : List Operation) :
    let middle := empty.actAll earlier
    let last := middle.actAll later
    middle.log.map (·.id) = (List.range middle.log.length).map (fun n : Nat => (n : Int) + 1) ∧
    middle.log.map deletionOf = earlier.filterMap (·.deletion?) ∧
    (∀ parentTable primaryKey createdAt, ∃ record grown,
      middle.recordDeletion parentTable primaryKey createdAt
        = (record, { middle with history := grown }) ∧
      grown.records = middle.log ++ [record] ∧
      record.isPending ∧ record.id = middle.log.length + 1 ∧
      deletionOf record = (qualify parentTable, primaryKey, createdAt)) ∧
    (∀ name table, middle.table? name = some table → ∀ row ∈ table.rows,
      1 ≤ row.id ∧ row.id ≤ table.lastId) ∧
    (∀ name values values', (middle.insertRow name values).1 <
      (((middle.insertRow name values).2.actAll later).insertRow name values').1) ∧
    middle.Keeps last ∧
    ∀ parentTable limit, ∃ loaded, loadPending parentTable limit middle = (.ok loaded, middle) ∧
      middle.LoadHolds last parentTable limit loaded := by
  intro middle last
  have follows : middle.Follows last := middle.follows_actAll later
  refine ⟨middle.history.numbered, empty.deletions_actAll earlier, ?_, ?_, ?_, follows.keeps, ?_⟩
  · exact fun parentTable primaryKey createdAt => ⟨_, _, rfl, rfl, rfl, rfl, rfl⟩
  · exact fun name table found row member => table.given row member
  · intro name values values'
    have grown := ((middle.insertRow name values).2.follows_actAll later).lastIds name
    have own : (middle.insertRow name values).2.lastIdOf name =
        (middle.insertRow name values).1 :=
      lastIdOf_of_table? (SortedMap.get?_insert_self _ _ _)
    rw [insertRow_id _ name values', ← own]
    exact Int.lt_add_one_of_le grown
  · exact fun parentTable limit => ⟨_, rfl, follows.loadHolds parentTable limit⟩

end LooseKeys.Store
