/-
Module: LooseKeys.Proofs.Budget
Purpose: Budgets whose time does not run out, and budgets whose sums fit in a machine word.
Main exports: Budget.InTime, Budget.InTime.ceiling_le_total, Budget.sums, Budget.FitsWord,
  Budget.fitsWord_of_total_lt, Tally.among, Tally.among_add, Tally.among_eq_countFor
-/
import LooseKeys.Budget
import LooseKeys.Proofs.SortedMap
import Mathlib.Algebra.Order.BigOperators.Group.List
import Mathlib.Algebra.Order.Group.Nat
import Mathlib.Algebra.Order.Ring.Int

/-!
The seconds that have passed and those that are still to pass add up to the same number at
every look at the clock.  When that number is below the limit, only the ceiling can be reached.

A budget adds up its counts table by table.  None of the sums on the way is greater than the
total, so the total alone tells whether all of them fit in a word.

`Tally.among` counts the rows of some tables, so that what holds of the total and of the count of
one table is shown once.
-/

namespace LooseKeys

theorem Tally.total_eq_sum (tally : Tally) : tally.total = tally.values.sum := rfl

end LooseKeys

namespace LooseKeys.Budget

/-- The time will not be used up, however often one looks at the clock. -/
def InTime (budget : Budget) : Prop :=
  ∀ limit, budget.runtimeLimit = some limit → budget.elapsed + budget.delays.sum < limit

/-- A look at the clock only turns seconds to come into seconds that have passed. -/
theorem elapsed_add_delays_tick (budget : Budget) :
    budget.tick.elapsed + budget.tick.delays.sum
      = budget.elapsed + budget.delays.sum := by
  unfold tick
  cases budget.delays with
  | nil => rfl
  | cons delay rest =>
      simp only [List.headD_cons, List.tail_cons, List.sum_cons]
      omega

namespace InTime

variable {budget : Budget} (inTime : budget.InTime)
include inTime

theorem tick : budget.tick.InTime := by
  intro limit limited
  rw [elapsed_add_delays_tick]
  exact inTime limit limited

theorem record (result : PassResult) : (budget.record result).InTime := by
  unfold Budget.record
  cases result.kind with
  | deletion => exact inTime
  | update => exact inTime

theorem not_isOverTime : budget.isOverTime = false := by
  unfold isOverTime
  cases limited : budget.runtimeLimit with
  | none => rfl
  | some limit =>
      have below := inTime limit limited
      simp only [Option.any_some, decide_eq_false_iff_not]
      omega

/-- A budget that is over its limit in time has reached its ceiling. -/
theorem ceiling_le_total (spent : budget.isOverLimit) : budget.ceiling ≤ budget.total := by
  simpa [isOverLimit, inTime.not_isOverTime] using spent

end InTime

/-- A deleting pass is charged to the deletions. -/
theorem record_of_deletion (budget : Budget) {result : PassResult}
    (deletes : result.kind = .deletion) :
    budget.record result = budget.addDeletions result.table result.affectedRows := by
  unfold Budget.record
  rw [deletes]

/-- A nullifying pass is charged to the updates. -/
theorem record_of_update (budget : Budget) {result : PassResult} (updates : result.kind = .update) :
    budget.record result = budget.addUpdates result.table result.affectedRows := by
  unfold Budget.record
  rw [updates]

/-- A pass that took no row is charged to nothing. -/
theorem record_of_nothing (budget : Budget) {result : PassResult}
    (nothing : result.affectedRows = 0) : budget.record result = budget := by
  unfold Budget.record addDeletions addUpdates Tally.add
  rw [nothing]
  cases result.kind <;> rfl

/-- The sums that are formed when the numbers of a list are added one by one. -/
def runningSums {α : Type} (number : α → Nat) (start : Nat) : List α → List Nat
  | [] => [start]
  | x :: rest => start :: runningSums number (start + number x) rest

/-- Every sum that the budget forms: the counts of the tables, what adding them up goes through,
and the total. -/
def sums (budget : Budget) : List Nat :=
  budget.deletions.values ++ budget.updates.values ++
    runningSums Prod.snd 0 budget.deletions.entries ++
    runningSums Prod.snd 0 budget.updates.entries ++ [budget.total]

/-- No sum that the budget forms is too great for a word of 64 bits. -/
def FitsWord (budget : Budget) : Prop := ∀ sum ∈ budget.sums, sum < 2 ^ 64

theorem le_of_mem_runningSums {α : Type} {number : α → Nat} {list : List α} :
    ∀ {start sum : Nat}, sum ∈ runningSums number start list →
      sum ≤ start + (list.map number).sum := by
  induction list with
  | nil =>
      intro start sum member
      rw [List.mem_singleton.mp member]
      exact Nat.le_refl start
  | cons x rest ih =>
      intro start sum member
      rw [List.map_cons, List.sum_cons]
      rcases List.mem_cons.mp member with rfl | later
      · exact Nat.le_add_right _ _
      · have le := ih later
        omega

theorem le_total_of_mem_values {tally : Tally} {count : Nat} (member : count ∈ tally.values) :
    count ≤ tally.total := by
  rw [tally.total_eq_sum]
  exact List.le_sum_of_mem member

/-- No sum that the budget forms is greater than its total. -/
theorem le_total_of_mem_sums {budget : Budget} {sum : Nat} (member : sum ∈ budget.sums) :
    sum ≤ budget.total := by
  simp only [sums, List.mem_append, List.mem_singleton] at member
  unfold total deleted updated
  rcases member with (((count | count) | running) | running) | rfl
  · exact Nat.le_add_right_of_le (le_total_of_mem_values count)
  · exact Nat.le_add_left_of_le (le_total_of_mem_values count)
  · have le := le_of_mem_runningSums running
    rw [Nat.zero_add, ← SortedMap.values, ← Tally.total_eq_sum] at le
    exact Nat.le_add_right_of_le le
  · have le := le_of_mem_runningSums running
    rw [Nat.zero_add, ← SortedMap.values, ← Tally.total_eq_sum] at le
    exact Nat.le_add_left_of_le le
  · exact Nat.le_refl _

theorem fitsWord_of_total_lt {budget : Budget} (below : budget.total < 2 ^ 64) :
    budget.FitsWord :=
  fun _ member => Nat.lt_of_le_of_lt (le_total_of_mem_sums member) below

end LooseKeys.Budget

namespace LooseKeys.Tally

/-- The rows of the tables that a test lets through. -/
def among (covers : String → Bool) (tally : Tally) : Nat :=
  ((tally.entries.filter (covers ·.1)).map Prod.snd).sum

theorem among_true (tally : Tally) : tally.among (fun _ => true) = tally.total := by
  unfold among
  rw [List.filter_eq_self.mpr (fun _ _ => rfl), ← SortedMap.values, ← total_eq_sum]

theorem sum_filter_upsertEntry (covers : String → Bool) (table : String) (count : Nat)
    (entries : List (String × Nat)) :
    (((SortedMap.upsertEntry table (fun present => present.getD 0 + count)
        entries).filter (covers ·.1)).map Prod.snd).sum
      = ((entries.filter (covers ·.1)).map Prod.snd).sum + if covers table then count else 0 := by
  induction entries with
  | nil => cases here : covers table <;> simp [SortedMap.upsertEntry, here]
  | cons entry rest ih =>
      obtain ⟨other, value⟩ := entry
      simp only [SortedMap.upsertEntry]
      split
      · rename_i same
        subst same
        cases here : covers table with
        | false => simp [here]
        | true => simp [here, Nat.add_right_comm]
      · split
        · cases here : covers table with
          | false => simp [here]
          | true => simp [here, Nat.add_comm]
        · cases there : covers other with
          | false => simpa [there] using ih
          | true => simpa [there, Nat.add_assoc] using ih

/-- Counting further rows of a table adds them where the table is let through. -/
theorem among_add (covers : String → Bool) (tally : Tally) (table : String) (count : Nat) :
    (tally.add table count).among covers
      = tally.among covers + if covers table then count else 0 := by
  unfold add
  split
  · rename_i uncounted
    simp [uncounted]
  · exact sum_filter_upsertEntry covers table count tally.entries

/-- A table has at most one entry. -/
theorem among_eq_countFor (tally : Tally) (table : String) :
    tally.among (· = table) = tally.countFor table := by
  obtain ⟨entries, ascending⟩ := tally
  simp only [among, countFor, SortedMap.get?]
  induction ascending with
  | nil => rfl
  | @cons entry rest above _ ih =>
      by_cases here : entry.1 = table
      · have others : rest.filter (fun other => other.1 = table) = [] := by
          apply List.filter_eq_nil_iff.mpr
          intro other member same
          exact Std.ne_of_lt (above other member) (here.trans (of_decide_eq_true same).symm)
        simp [here, others]
      · simpa [here] using ih

end LooseKeys.Tally
