/-
Module: LooseKeys.Proofs.Charges
Purpose: A budget is charged exactly the rows and the values that an invocation takes.
Main exports: Run.Tallies, Turn.tallies, Turns.tallies, Invocation.run_charges
-/
import LooseKeys.Proofs.Budget
import LooseKeys.Proofs.Invocation
import LooseKeys.Proofs.Store.Takings
import LooseKeys.Proofs.Turns

/-!
A watched run keeps the states that it shows, and each pass is announced in the state that it
starts from.  So the states on record, with the present one, are all that the rows went through,
and `Run.Tallies` can say of a run what its budget counts: the rows that are gone, and the values
that were null in one of these states.  A pass adds to the budget what it adds to the sets.
-/

namespace LooseKeys

variable {ω : Type}

/-- Members that are added to others and all belong to one table. -/
theorem encard_among_union {α : Type} {old new : Set α} (disjoint : Disjoint old new)
    (tableOf : α → String) {table : String} (same : ∀ x ∈ new, tableOf x = table)
    (covers : String → Bool) :
    {x ∈ old ∪ new | covers (tableOf x)}.encard =
      {x ∈ old | covers (tableOf x)}.encard + if covers table then new.encard else 0 := by
  by_cases covered : covers table
  · have split : {x ∈ old ∪ new | covers (tableOf x)} = {x ∈ old | covers (tableOf x)} ∪ new := by
      ext x
      have fits : x ∈ new → covers (tableOf x) := fun member => by rw [same x member, covered]
      simp only [Set.mem_union, Set.mem_ofPred_eq]
      tauto
    rw [split, if_pos covered, Set.encard_union_eq (disjoint.mono_left (Set.sep_subset _ _))]
  · have split : {x ∈ old ∪ new | covers (tableOf x)} = {x ∈ old | covers (tableOf x)} := by
      ext x
      have strays : x ∈ new → ¬ covers (tableOf x) := fun member => by rwa [same x member]
      simp only [Set.mem_union, Set.mem_ofPred_eq]
      tauto
    rw [split, if_neg covered, add_zero]

/-- What a charge adds to the rows of the tables that a test lets through. -/
theorem Tally.cast_among_add (tally : Tally) (table : String) (count : Nat)
    (covers : String → Bool) :
    ((tally.add table count).among covers : ℕ∞) =
      tally.among covers + if covers table then (count : ℕ∞) else 0 := by
  rw [among_add, Nat.cast_add, Nat.cast_ite, Nat.cast_zero]

/-- The budget of a watched run counts what was taken since a first state, when it was `opening`:
the rows that are gone and the values that were set to null on the way, of the tables that a test
lets through. -/
structure Run.Tallies (covers : String → Bool) (start : Store) (opening : Budget)
    (run : Run Store (ω × List Store)) : Prop where
  evolves : start.Evolves Mandate.any run.state
  seen : ∀ state ∈ run.notes.2, state.Evolves Mandate.any run.state
  removed : (run.budget.deletions.among covers : ℕ∞) = opening.deletions.among covers +
    {place ∈ start.removed run.state | covers place.table}.encard
  nulled : (run.budget.updates.among covers : ℕ∞) = opening.updates.among covers +
    {cell ∈ start.nulled (run.notes.2 ++ [run.state]) | covers cell.table}.encard

namespace Run.Tallies

variable {covers : String → Bool} {start : Store} {opening : Budget}

/-- Nothing is taken at first. -/
theorem fresh (start : Store) (opening : Budget) (notes : ω) :
    Run.Tallies covers start opening ⟨start, opening, (notes, [])⟩ where
  evolves := .refl start
  seen := by simp
  removed := by simp
  nulled := by simp

variable {run : Run Store (ω × List Store)} (tallies : run.Tallies covers start opening)
include tallies

/-- A call that leaves the rows alone is charged nothing. -/
theorem still {state : Store} {budget : Budget} (evolves : run.state.Evolves Mandate.any state)
    (rows : state.rowsOf = run.state.rowsOf) (deletions : budget.deletions = run.budget.deletions)
    (updates : budget.updates = run.budget.updates) :
    Run.Tallies covers start opening { run with state, budget } := by
  have has : state.Has = run.state.Has := by
    unfold Store.Has
    rw [rows]
  have null : state.IsNull = run.state.IsNull := by
    unfold Store.IsNull
    rw [rows]
  constructor
  · exact tallies.evolves.trans evolves
  · exact fun earlier member => (tallies.seen earlier member).trans evolves
  · have removed := tallies.removed
    simp only [Store.removed, has, deletions] at removed ⊢
    exact removed
  · have nulled := tallies.nulled
    simp only [Store.nulled, List.mem_append, List.mem_singleton, or_and_right, exists_or,
      exists_eq_left, null, updates] at nulled ⊢
    exact nulled

/-- The present state may be put on record. -/
theorem told (observer : Observer Store ω) (notice : Notice) :
    (run.tell observer.watching notice).Tallies covers start opening := by
  constructor
  · exact tallies.evolves
  · intro state member
    rcases List.mem_append.mp member with earlier | present
    · exact tallies.seen state earlier
    · rw [List.mem_singleton.mp present]
      exact .refl run.state
  · exact tallies.removed
  · have same : start.nulled ((run.notes.2 ++ [run.state]) ++ [run.state])
        = start.nulled (run.notes.2 ++ [run.state]) := Store.nulled_congr (by simp)
    unfold tell Observer.watching
    rw [same]
    exact tallies.nulled

/-- A pass from a state on record is charged what it takes. -/
theorem passed (shown : run.state ∈ run.notes.2) {pass : Pass} {result : PassResult}
    {after : Store} (answered : pass.run Store.storage run.state = (.ok result, after)) :
    Run.Tallies covers start opening
      { run with state := after, budget := (run.budget.record result).tick } := by
  have evolves := pass.evolves_any run.state
  rw [answered] at evolves
  rcases Pass.cases_of_run_ok answered with ⟨_, rfl, rfl⟩ | ⟨table, _, _, found, rfl, rfl⟩
  · rw [Budget.record_of_nothing run.budget rfl]
    exact tallies.still evolves rfl rfl rfl
  · have seen : ∀ state ∈ run.notes.2, state.Evolves Mandate.any (pass.leaves run.state table) :=
      fun state member => (tallies.seen state member).trans evolves
    -- The present state is on record, so the pass is held against the states on record alone.
    have sofar : start.nulled (run.notes.2 ++ [run.state]) = start.nulled run.notes.2 :=
      Store.nulled_congr (by simp [shown])
    have nulled := tallies.nulled
    rw [sofar] at nulled
    let taken := pass.result (pass.selected table).length
    cases strategy : pass.relation.strategy with
    | asyncDelete =>
        have kind : taken.kind = .deletion := congrArg Strategy.kind strategy
        have placed : ∀ place ∈ pass.places table, place.table = pass.relation.childTable := by
          rintro place ⟨_, _, rfl⟩
          rfl
        rw [Budget.record_of_deletion run.budget kind]
        refine ⟨tallies.evolves.trans evolves, seen, ?_, ?_⟩
        · rw [pass.removed_leaves_of_deletes found strategy tallies.evolves,
            encard_among_union (pass.disjoint_removed_places found) RowPlace.table placed,
            pass.encard_places table, ← add_assoc, ← tallies.removed]
          exact run.budget.deletions.cast_among_add taken.table taken.affectedRows covers
        · rw [pass.nulled_leaves_of_deletes found shown strategy]
          exact nulled
    | asyncNullify =>
        have kind : taken.kind = .update := congrArg Strategy.kind strategy
        have placed : ∀ cell ∈ pass.cells table, cell.table = pass.relation.childTable := by
          rintro cell ⟨_, _, rfl⟩
          rfl
        rw [Budget.record_of_update run.budget kind]
        refine ⟨tallies.evolves.trans evolves, seen, ?_, ?_⟩
        · rw [pass.removed_leaves_of_nullifies found strategy]
          exact tallies.removed
        · rw [pass.nulled_leaves_of_nullifies found shown strategy tallies.evolves,
            encard_among_union (pass.disjoint_nulled_cells found tallies.seen) Cell.table placed,
            pass.encard_cells table, ← add_assoc, ← nulled]
          exact run.budget.updates.cast_among_add taken.table taken.affectedRows covers

end Run.Tallies

section Turns

variable {observer : Observer Store ω} {settings : Settings} {cap : Nat}
  {covers : String → Bool} {start : Store} {opening : Budget}
  {run later : Run Store (ω × List Store)} (sofar : run.Tallies covers start opening)
include sofar

/-- Every turn is charged what it takes: a pass is made from the state that is shown with its
announcement, and nothing else takes a row or a value. -/
theorem Turn.tallies (turn : Turn Store.storage observer.watching settings cap run later) :
    later.Tallies covers start opening := by
  cases turn with
  | told notice other => exact sofar.told observer notice
  | ticked => exact sofar.still (.refl run.state) rfl rfl rfl
  | loaded answered =>
      cases answered
      exact sofar.still (.refl run.state) rfl rfl rfl
  | @passed batch relation mode result after within answered =>
      have announced := sofar.told observer
        (.passStarting (Pass.plan settings batch relation mode) run.budget)
      exact announced.passed (List.mem_append_right _ List.mem_cons_self) answered
  | @failed batch relation mode error after within refused =>
      have announced := sofar.told observer
        (.passStarting (Pass.plan settings batch relation mode) run.budget)
      have evolves := (Pass.plan settings batch relation mode).evolves_any run.state
      rw [refused] at evolves
      exact announced.still evolves (Pass.rowsOf_of_run_error refused) rfl rfl
  | @marked parentTable firstId lastId answer after answered =>
      have evolves := Store.markProcessed_evolves_any parentTable firstId lastId run.state
      have rows := Store.rowsOf_markProcessed parentTable firstId lastId run.state
      change Store.markProcessed parentTable firstId lastId run.state = _ at answered
      rw [answered] at evolves rows
      exact sofar.still evolves rows rfl rfl

theorem Turns.tallies (turns : Turns Store.storage observer.watching settings cap run later) :
    later.Tallies covers start opening := by
  induction turns with
  | refl => exact sofar
  | tail _ turn ih => exact turn.tallies ih

end Turns

/-- At the end of an invocation its budget has been charged the rows that are gone, and the values
that were set to null in some state that was shown, or are null at the end. -/
theorem Invocation.run_charges (invocation : Invocation ω) (registry : Registry) (store : Store) :
    let after := (invocation.run registry store).2
    (store.removed after.state).encard = after.budget.deleted ∧
      (store.nulled (invocation.shown registry store ++ [after.state])).encard
        = after.budget.updated := by
  let sweep := (invocation.sweep registry).watched
  let start : Run Store (ω × List Store) := ⟨store, sweep.budget, (invocation.notes, [])⟩
  have fresh : start.Tallies (fun _ => true) store sweep.budget :=
    .fresh store sweep.budget invocation.notes
  have begun : Run.Tallies (fun _ => true) store sweep.budget
      { start with state := invocation.begins store } := by
    refine fresh.still ?_ ?_ rfl rfl
    · exact Store.evolves_of_eq (invocation.tables_begins store) (invocation.log_begins store)
    · funext name
      simp only [start, Store.rowsOf, Store.table?, Invocation.tables_begins]
  have ended := (sweep.run_turns (invocation.begins store) (invocation.notes, [])).tallies begun
  have watched := (invocation.sweep registry).run_watched (invocation.begins store)
    invocation.notes []
  have removed := ended.removed
  have nulled := ended.nulled
  rw [Tally.among_true, Tally.among_true] at removed nulled
  have all {α : Type} (set : Set α) : {x ∈ set | true = true} = set := by simp
  rw [all] at removed nulled
  unfold Invocation.run
  rw [← watched]
  exact ⟨(removed.trans (zero_add _)).symm, (nulled.trans (zero_add _)).symm⟩

end LooseKeys
