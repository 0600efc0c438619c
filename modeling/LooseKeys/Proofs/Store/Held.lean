/-
Module: LooseKeys.Proofs.Store.Held
Purpose: Storages that hold a store in memory, on which failures may be armed between the calls.
Main exports: Store.arming, Storage.Holds, Store.storage_holds, Store.journaled_holds,
  Storage.Holds.pass_ok, Storage.Holds.pass_error, Storage.Holds.mark_ok, Storage.Holds.mark_error,
  Storage.Holds.load_eq
-/
import LooseKeys.Proofs.Store.Evolution
import LooseKeys.Storage.Journal

/-!
Whoever has the store may arm a failure while a cleanup is at work.  Only the next pass or marking
can tell, so it is enough to say what is armed right before each of them.  A storage that holds a
store makes each call on it after that arming: the store itself, on which nothing is armed, and
the store with a journal, whose concurrent writer does nothing but arm failures.

A call that answers was made on the store as it was.  A call that fails has used up what was
armed, or has missed its table, and has changed nothing else.
-/

namespace LooseKeys

variable {σ τ α : Type}

namespace Store

/-- Arms a failure, if there is one to arm. -/
def arming (failure : Option String) (store : Store) : Store :=
  match failure with
  | some reason => store.failNext reason
  | none => store

/-- The store with nothing armed. -/
def disarmed (store : Store) : Store := { store with armed := none }

@[simp] theorem log_disarmed (store : Store) : store.disarmed.log = store.log := rfl

@[simp] theorem armed_arming (failure : Option String) (store : Store) :
    (store.arming failure).armed = failure.or store.armed := by
  cases failure <;> rfl

@[simp] theorem disarmed_arming (failure : Option String) (store : Store) :
    (store.arming failure).disarmed = store.disarmed := by
  cases failure <;> rfl

/-- Where nothing is armed afterwards, nothing was, and nothing was done. -/
theorem arming_eq_self {failure : Option String} {store : Store}
    (unarmed : (store.arming failure).armed = none) : store.arming failure = store := by
  cases failure with
  | none => rfl
  | some reason => cases unarmed

theorem disarmed_eq_self {store : Store} (unarmed : store.armed = none) :
    store.disarmed = store := by
  cases store
  cases unarmed
  rfl

end Store

/-- The reply of a call, as it shows in a part of the state. -/
def Reply.seen (view : τ → σ) (reply : Reply τ α) : Reply σ α := (reply.1, view reply.2)

/-- A storage whose states show a store, and on which each call is made as on that store.  Right
before a pass or a marking a failure may have been armed; the state afterwards tells which. -/
structure Storage.Holds (storage : Storage τ) (view : τ → Store) (newly : τ → Option String) :
    Prop where
  deletes : ∀ relation parentIds mode limit state,
    (storage.deleteChildren relation parentIds mode limit state).seen view
      = Store.clean .deletion relation parentIds mode limit ((view state).arming
        (newly (storage.deleteChildren relation parentIds mode limit state).2))
  nullifies : ∀ relation parentIds mode limit state,
    (storage.nullifyChildren relation parentIds mode limit state).seen view
      = Store.clean .update relation parentIds mode limit ((view state).arming
        (newly (storage.nullifyChildren relation parentIds mode limit state).2))
  marks : ∀ parentTable firstId lastId state,
    (storage.markProcessed parentTable firstId lastId state).seen view
      = Store.markProcessed parentTable firstId lastId ((view state).arming
        (newly (storage.markProcessed parentTable firstId lastId state).2))
  loads : ∀ parentTable limit state,
    (storage.loadPending parentTable limit state).seen view
      = Store.loadPending parentTable limit (view state)

/-- The store holds itself, and nothing is armed on the way. -/
theorem Store.storage_holds : Store.storage.Holds id (fun _ => none) where
  deletes _ _ _ _ _ := rfl
  nullifies _ _ _ _ _ := rfl
  marks _ _ _ _ := rfl
  loads _ _ _ := rfl

theorem Store.holds_of_eq {storage : Storage Store} (onStore : storage = Store.storage) :
    storage.Holds id (fun _ => none) := by
  rw [onStore]
  exact Store.storage_holds

/-- With a journal, the n-th failure of a list is armed before the n-th pass or marking. -/
theorem Store.journaled_holds (failures : Nat → Option String) :
    (Store.storage.journaled fun turn => Store.arming (failures turn)).Holds Journaled.state
      (fun journal => failures journal.writes) where
  deletes _ _ _ _ _ := rfl
  nullifies _ _ _ _ _ := rfl
  marks _ _ _ _ := rfl
  loads _ _ _ := rfl

namespace Storage.Holds

variable {storage : Storage τ} {view : τ → Store} {newly : τ → Option String}
  (holds : storage.Holds view newly)
include holds

theorem call_seen (pass : Pass) (state : τ) :
    (pass.call storage state).seen view = pass.call Store.storage
      ((view state).arming (newly (pass.call storage state).2)) := by
  unfold Pass.call
  cases pass.relation.strategy with
  | asyncDelete => exact holds.deletes _ _ _ _ state
  | asyncNullify => exact holds.nullifies _ _ _ _ state

/-- A pass for at least one parent. -/
theorem run_seen {pass : Pass} (parents : pass.parentIds ≠ []) (state : τ) :
    (pass.run storage state).seen view = pass.run Store.storage
      ((view state).arming (newly (pass.run storage state).2)) := by
  have nonempty : pass.parentIds.isEmpty = false := by simpa using parents
  have called := holds.call_seen pass state
  unfold Pass.run
  simp only [nonempty, Bool.false_eq_true, if_false]
  generalize pass.call storage state = reply at called ⊢
  obtain ⟨answer | error, after⟩ := reply
  · simp only [← called, Reply.seen]
  · simp only [← called, Reply.seen]

/-- A pass that answers was made on the store as it was. -/
theorem pass_ok {pass : Pass} {state after : τ} {result : PassResult}
    (answered : pass.run storage state = (.ok result, after)) :
    pass.run Store.storage (view state) = (.ok result, view after) := by
  by_cases nobody : pass.parentIds = []
  · rw [Pass.run_of_parentIds_nil nobody] at answered ⊢
    cases answered
    rfl
  · have seen := holds.run_seen nobody state
    rw [answered] at seen
    rcases pass.run_cases nobody ((view state).arming (newly after)) with
      ⟨_, _, ended⟩ | ⟨_, _, ended⟩ | ⟨_, unarmed, _, _⟩
    · cases seen.trans ended
    · cases seen.trans ended
    · rw [Store.arming_eq_self unarmed] at seen
      exact seen.symm

/-- A pass that fails was met by what was armed, or misses its table, and leaves all else as it
was. -/
theorem pass_error {pass : Pass} {state after : τ} {error : CleanupError}
    (refused : pass.run storage state = (.error error, after)) :
    view after = (view state).disarmed ∧
      ((∃ reason, error = .storage reason ∧ (newly after).or (view state).armed = some reason) ∨
        (error = .unknownTable pass.relation.childTable ∧
          (view state).table? pass.relation.childTable = none)) := by
  have parents : pass.parentIds ≠ [] := by
    intro nobody
    rw [Pass.run_of_parentIds_nil nobody] at refused
    cases refused
  have seen := holds.run_seen parents state
  rw [refused] at seen
  rcases pass.run_cases parents ((view state).arming (newly after)) with
    ⟨reason, armed, ended⟩ | ⟨unarmed, missing, ended⟩ | ⟨_, _, _, ended⟩
  · obtain ⟨same, shown⟩ := Prod.mk.inj (seen.trans ended)
    cases same
    rw [Store.armed_arming] at armed
    exact ⟨shown.trans (Store.disarmed_arming _ _), Or.inl ⟨reason, rfl, armed⟩⟩
  · obtain ⟨same, shown⟩ := Prod.mk.inj (seen.trans ended)
    cases same
    have still := Store.arming_eq_self unarmed
    rw [still] at unarmed missing shown
    exact ⟨shown.trans (Store.disarmed_eq_self unarmed).symm, Or.inr ⟨rfl, missing⟩⟩
  · cases seen.trans ended

theorem log_pass (pass : Pass) (state : τ) :
    (view (pass.run storage state).2).log = (view state).log := by
  cases ended : pass.run storage state with
  | mk result after =>
      cases result with
      | error error => rw [(holds.pass_error ended).1, Store.log_disarmed]
      | ok result =>
          have log := pass.log_run (view state)
          rwa [holds.pass_ok ended] at log

/-- A marking that answers was made on the store as it was. -/
theorem mark_ok {parentTable : String} {firstId lastId : Int} {state after : τ} {marked : Nat}
    (answered : storage.markProcessed parentTable firstId lastId state = (.ok marked, after)) :
    marked = ((view state).log.filter (Store.isMarkable parentTable firstId lastId)).length ∧
      view after = (view state).afterMark parentTable firstId lastId := by
  have seen := holds.marks parentTable firstId lastId state
  rw [answered] at seen
  rcases Store.markProcessed_cases parentTable firstId lastId
      ((view state).arming (newly after)) with ⟨_, _, ended⟩ | ⟨unarmed, ended⟩
  · cases seen.trans ended
  · rw [Store.arming_eq_self unarmed] at seen ended
    obtain ⟨same, shown⟩ := Prod.mk.inj (seen.trans ended)
    cases same
    exact ⟨rfl, shown⟩

/-- A marking that fails was met by what was armed, and leaves all else as it was. -/
theorem mark_error {parentTable : String} {firstId lastId : Int} {state after : τ}
    {error : CleanupError}
    (refused : storage.markProcessed parentTable firstId lastId state = (.error error, after)) :
    view after = (view state).disarmed ∧
      ∃ reason, error = .storage reason ∧ (newly after).or (view state).armed = some reason := by
  have seen := holds.marks parentTable firstId lastId state
  rw [refused] at seen
  rcases Store.markProcessed_cases parentTable firstId lastId
      ((view state).arming (newly after)) with ⟨reason, armed, ended⟩ | ⟨_, ended⟩
  · obtain ⟨same, shown⟩ := Prod.mk.inj (seen.trans ended)
    cases same
    rw [Store.armed_arming] at armed
    exact ⟨shown.trans (Store.disarmed_arming _ _), reason, rfl, armed⟩
  · cases seen.trans ended

/-- A load answers with the first pending records of the store, and shows it as it was. -/
theorem load_eq (parentTable : String) (limit : Int) (state : τ) :
    ∃ after, storage.loadPending parentTable limit state
      = (.ok (((view state).pendingOf parentTable).take limit.toNat), after) ∧
        view after = view state := by
  obtain ⟨answer, shown⟩ := Prod.mk.inj (holds.loads parentTable limit state)
  exact ⟨_, Prod.ext answer rfl, shown⟩

end Storage.Holds

end LooseKeys
