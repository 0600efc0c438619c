/-
Module: LooseKeys.Proofs.Finalization
Purpose: A record that is marked as processed has no child row left, from then on.
Main exports: Store.Settles, Sweep.Move.settles, Sweep.Moves.settles_shown,
  Invocation.history_settles, Invocation.marked_records_stay_clear
-/
import LooseKeys.Proofs.Invocation
import LooseKeys.Proofs.Sweep.Moves

/-!
Between two states of the store, `Store.Settles` says that nothing but a cleanup was at work and
that what it marked has no child row in the later state.  It is transitive because values are
never set again.  A marking move settles what it marks, since the waiting passes before it found
no row of any relation; every other move marks nothing.  So all states of a history, taken in
pairs, are settled, and it does not matter how an invocation ended.
-/

namespace LooseKeys

namespace Store

/-- Only a cleanup was at work, and the records that it marked have no child row left. -/
structure Settles (registry : Registry) (before after : Store) : Prop where
  evolves : before.Evolves Mandate.any after
  clear : ∀ record ∈ before.log, record.isPending → record.processed ∈ after.log →
    ∀ relation ∈ registry.relationsFor record.table, after.IsClear relation record.primaryKey

/-- In one log no two records have the same id. -/
theorem eq_of_id_eq {store : Store} {first second : DeletedRecord}
    (ofFirst : first ∈ store.log) (ofSecond : second ∈ store.log) (same : first.id = second.id) :
    first = second := by
  have distinct : (store.log.map (·.id)).Nodup :=
    List.pairwise_map.mpr (store.pairwise_log.imp Int.ne_of_lt)
  exact List.inj_on_of_nodup_map distinct ofFirst ofSecond same

/-- A pending record is not processed in the same log. -/
theorem processed_not_mem {store : Store} {record : DeletedRecord} (member : record ∈ store.log)
    (pending : record.isPending) : record.processed ∉ store.log := by
  intro marked
  have same := eq_of_id_eq member marked rfl
  rw [same] at pending
  cases pending

/-- A pending record is processed after a marking exactly when the marking finds it. -/
theorem processed_mem_afterMark_iff {store : Store} {parentTable : String}
    {firstId lastId : Int} {record : DeletedRecord}
    (member : record ∈ store.log) (pending : record.isPending) :
    record.processed ∈ (store.afterMark parentTable firstId lastId).log ↔
      isMarkable parentTable firstId lastId record := by
  constructor
  · intro marked
    obtain ⟨old, ofLog, became⟩ := List.mem_map.mp marked
    split at became
    · rename_i markable
      have sameId : old.processed.id = record.processed.id := congrArg DeletedRecord.id became
      have same : old = record := eq_of_id_eq ofLog member sameId
      rwa [same] at markable
    · subst became
      exact absurd ofLog (processed_not_mem member pending)
  · intro markable
    refine List.mem_map.mpr ⟨record, member, ?_⟩
    rw [if_pos markable]
    rfl

namespace Settles

variable {registry : Registry}

/-- Where the log is the same, nothing was marked. -/
theorem of_log_eq {before after : Store} (evolves : before.Evolves Mandate.any after)
    (same : after.log = before.log) : before.Settles registry after := by
  constructor
  · exact evolves
  · intro record member pending marked
    rw [same] at marked
    exact absurd marked (processed_not_mem member pending)

theorem refl (store : Store) : store.Settles registry store := of_log_eq (.refl store) rfl

theorem trans {first second third : Store} (one : first.Settles registry second)
    (two : second.Settles registry third) : first.Settles registry third := by
  constructor
  · exact one.evolves.trans two.evolves
  · intro record member pending marked relation declared
    -- The record was marked before the middle state or after it.
    rcases one.evolves.mem_log_after member with unmarked | ⟨_, earlier⟩
    · exact two.clear record unmarked pending marked relation declared
    · exact two.evolves.isClear (one.clear record member pending earlier relation declared)

/-- One more state in front of settled ones. -/
theorem pairwise_cons {first second : Store} {rest : List Store}
    (one : first.Settles registry second)
    (ordered : (second :: rest).Pairwise (Settles registry)) :
    (first :: second :: rest).Pairwise (Settles registry) := by
  refine List.pairwise_cons.mpr ⟨?_, ordered⟩
  intro state member
  rcases List.mem_cons.mp member with rfl | later
  · exact one
  · exact one.trans ((List.pairwise_cons.mp ordered).1 state later)

/-- Settled states up to a middle one, and settled states from there on. -/
theorem pairwise_join {states later : List Store} {middle : Store}
    (ordered : (states ++ [middle]).Pairwise (Settles registry))
    (onward : (middle :: later).Pairwise (Settles registry)) :
    (states ++ later).Pairwise (Settles registry) := by
  obtain ⟨early, _, reach⟩ := List.pairwise_append.mp ordered
  obtain ⟨fromMiddle, late⟩ := List.pairwise_cons.mp onward
  refine List.pairwise_append.mpr ⟨early, late, ?_⟩
  intro first ofEarly second ofLate
  exact (reach first ofEarly middle List.mem_cons_self).trans (fromMiddle second ofLate)

end Settles

/-- Marking settles when what it marks has no child row. -/
theorem markProcessed_settles {registry : Registry} {store : Store} {parentTable : String}
    {firstId lastId : Int}
    (settled : ∀ record ∈ store.log, isMarkable parentTable firstId lastId record →
      ∀ relation ∈ registry.relationsFor parentTable,
        store.IsClear relation record.primaryKey) :
    store.Settles registry (markProcessed parentTable firstId lastId store).2 := by
  have evolves := markProcessed_evolves_any parentTable firstId lastId store
  rcases markProcessed_cases parentTable firstId lastId store with ⟨_, _, ended⟩ | ⟨_, ended⟩
  · rw [ended] at evolves ⊢
    exact .of_log_eq evolves rfl
  · rw [ended] at evolves ⊢
    constructor
    · exact evolves
    · intro record member pending marked relation declared
      have markable := (processed_mem_afterMark_iff member pending).mp marked
      rw [(isMarkable_iff.mp markable).1] at declared
      exact evolves.isClear (settled record member markable relation declared)

end Store

namespace Sweep

variable {ω : Type} {sweep : Sweep Store ω}
  (accepted : sweep.settings.validate = .ok sweep.settings)
include accepted

/-- Under accepted settings every move settles what it marks. -/
theorem Move.settles {run later : Run Store ω} (move : Move sweep run later) :
    run.state.Settles sweep.registry later.state := by
  cases move with
  | told notice => exact .refl run.state
  | charged budget => exact .refl run.state
  | passed pass parentTable listed declared awaited =>
      exact .of_log_eq (pass.evolves_any run.state) (pass.log_run run.state)
  | marked parentTable firstId lastId listed settled =>
      exact Store.markProcessed_settles (settled accepted)

/-- The states that a watched invocation shows, a first one before them and the present one
after them, are settled in pairs. -/
theorem Moves.settles_shown {first : Store} {run later : Run Store (ω × List Store)}
    (moves : Moves sweep.watched run later)
    (before : (first :: run.notes.2 ++ [run.state]).Pairwise (Store.Settles sweep.registry)) :
    (first :: later.notes.2 ++ [later.state]).Pairwise (Store.Settles sweep.registry) := by
  have acceptedToo : sweep.watched.settings.validate = .ok sweep.watched.settings := accepted
  induction moves with
  | refl => exact before
  | @tail middle later earlier move ih =>
      have last := move.settles acceptedToo
      have next : (first :: middle.notes.2 ++ [later.state]).Pairwise
          (Store.Settles sweep.registry) :=
        Store.Settles.pairwise_join ih (List.pairwise_pair.mpr last)
      cases move with
      | told notice =>
          -- The present state is shown, so it comes twice from now on.
          have same : middle.state.Settles sweep.registry middle.state := .refl middle.state
          have twice := Store.Settles.pairwise_join ih
            (same.pairwise_cons (List.pairwise_pair.mpr same))
          change (first :: (middle.notes.2 ++ [middle.state]) ++ [middle.state]).Pairwise _
          simpa using twice
      | charged budget => exact next
      | passed pass parentTable listed declared awaited => exact next
      | marked parentTable firstId lastId listed settled => exact next

end Sweep

namespace Invocation

variable {ω : Type} {registry : Registry}

/-- Arming a failure settles, as nothing is marked. -/
theorem begins_settles (invocation : Invocation ω) (store : Store) :
    store.Settles registry (invocation.begins store) :=
  .of_log_eq
    (Store.evolves_of_eq (invocation.tables_begins store) (invocation.log_begins store))
    (invocation.log_begins store)

/-- The first state of an invocation, those that it shows, and the last one are settled in
pairs. -/
theorem shown_settles (registry : Registry) (invocation : Invocation ω)
    (accepted : invocation.settings.validate = .ok invocation.settings) (store : Store) :
    (invocation.begins store :: invocation.shown registry store
      ++ [invocation.leaves registry store]).Pairwise (Store.Settles registry) := by
  have moves := (invocation.sweep registry).watched.run_moves rfl (invocation.begins store)
    (invocation.notes, [])
  rw [invocation.leaves_eq_watched]
  apply Sweep.Moves.settles_shown accepted moves
  apply List.pairwise_pair.mpr
  exact .refl _

/-- An invocation settles the store, however it ends. -/
theorem settles (invocation : Invocation ω)
    (accepted : invocation.settings.validate = .ok invocation.settings) (store : Store) :
    store.Settles registry (invocation.leaves registry store) := by
  have last := (List.pairwise_cons.mp (invocation.shown_settles registry accepted store)).1
    (invocation.leaves registry store) (by simp)
  exact (invocation.begins_settles store).trans last

/-- Invocations in order settle the store. -/
theorem runAll_settles (registry : Registry) {invocations : List (Invocation ω)} :
    (∀ invocation ∈ invocations, invocation.settings.validate = .ok invocation.settings) →
      ∀ store : Store, store.Settles registry (runAll registry invocations store) := by
  induction invocations with
  | nil =>
      intro _ store
      exact .refl store
  | cons invocation rest ih =>
      intro accepted store
      obtain ⟨here, others⟩ := List.forall_mem_cons.mp accepted
      exact (invocation.settles here store).trans (ih others _)

/-- All states of a history are settled in pairs, and the first one with every one. -/
theorem history_settles (registry : Registry) (invocations : List (Invocation ω))
    (accepted : ∀ invocation ∈ invocations,
      invocation.settings.validate = .ok invocation.settings) :
    ∀ store : Store, (store :: history registry invocations store).Pairwise
      (Store.Settles registry) := by
  induction invocations with
  | nil =>
      intro store
      exact List.pairwise_pair.mpr (.refl store)
  | cons invocation rest ih =>
      intro store
      have shown := invocation.shown_settles registry (accepted _ List.mem_cons_self) store
      have whole : (store :: store :: invocation.begins store :: invocation.shown registry store
          ++ [invocation.leaves registry store]).Pairwise (Store.Settles registry) :=
        (Store.Settles.refl store).pairwise_cons
          ((invocation.begins_settles store).pairwise_cons shown)
      have others := ih (fun other ofRest => accepted other (List.mem_cons_of_mem _ ofRest))
        (invocation.leaves registry store)
      change (store :: store :: invocation.begins store :: invocation.shown registry store
        ++ history registry rest (invocation.leaves registry store)).Pairwise _
      exact Store.Settles.pairwise_join whole others

/-- Any state of a history settles those from it on. -/
theorem history_settles_of_le {invocations : List (Invocation ω)}
    (accepted : ∀ invocation ∈ invocations,
      invocation.settings.validate = .ok invocation.settings)
    {store : Store} {i j : Nat} {earlier later : Store}
    (atEarlier : (history registry invocations store)[i]? = some earlier)
    (atLater : (history registry invocations store)[j]? = some later) (le : i ≤ j) :
    earlier.Settles registry later := by
  have ordered := (List.pairwise_cons.mp (history_settles registry invocations accepted store)).2
  rcases Nat.lt_or_eq_of_le le with lt | rfl
  · obtain ⟨_, rfl⟩ := List.getElem?_eq_some_iff.mp atEarlier
    obtain ⟨_, rfl⟩ := List.getElem?_eq_some_iff.mp atLater
    exact List.pairwise_iff_getElem.mp ordered i j _ _ lt
  · rw [atEarlier] at atLater
    cases atLater
    exact .refl earlier

/-- A record that turns from pending to processed during invocations has no child row left under
any relation of its parent table, from the state in which it is marked on. -/
theorem marked_records_stay_clear {store : Store} (invocations : List (Invocation ω))
    (accepted : ∀ invocation ∈ invocations,
      invocation.settings.validate = .ok invocation.settings)
    {i j k : Nat} {before marked later : Store}
    (atBefore : (history registry invocations store)[i]? = some before)
    (atMarked : (history registry invocations store)[j]? = some marked)
    (atLater : (history registry invocations store)[k]? = some later)
    (forward : i ≤ j) (onward : j ≤ k)
    {record : DeletedRecord} (member : record ∈ before.log) (pending : record.isPending)
    (processed : record.processed ∈ marked.log) :
    ∀ relation ∈ registry.relationsFor record.table,
      later.IsClear relation record.primaryKey := by
  have marking := history_settles_of_le accepted atBefore atMarked forward
  have afterwards := history_settles_of_le accepted atMarked atLater onward
  intro relation ofParent
  apply afterwards.evolves.isClear
  exact marking.clear record member pending processed relation ofParent

/-- The first of two invocations is cut short; the second one marks the record, and it stays
clear. -/
theorem marked_record_stays_clear_in_sample :
    Sample.record.processed ∈ Sample.drained.log ∧
      ∀ relation ∈ Sample.registry.relationsFor "public.users",
        Sample.drained.IsClear relation 7 := by
  have atStart : (history Sample.registry [Sample.invocation 1, Sample.invocation 9]
      Sample.store)[0]? = some Sample.store := rfl
  have atMarking : (history Sample.registry [Sample.invocation 1, Sample.invocation 9]
      Sample.store)[12]? = some Sample.drained := by decide +kernel
  have atEnd : (history Sample.registry [Sample.invocation 1, Sample.invocation 9]
      Sample.store)[13]? = some Sample.drained := by decide +kernel
  have accepted : ∀ invocation ∈ [Sample.invocation 1, Sample.invocation 9],
      invocation.settings.validate = .ok invocation.settings := by
    intro invocation member
    rcases List.mem_pair.mp member with rfl | rfl <;> rfl
  have member : Sample.record ∈ Sample.store.log := by decide +kernel
  have processed : Sample.record.processed ∈ Sample.drained.log := by decide
  have clear := marked_records_stay_clear _ accepted atStart
    atMarking atEnd (by decide) (by decide) member rfl processed
  exact ⟨processed, clear⟩

end Invocation

end LooseKeys
