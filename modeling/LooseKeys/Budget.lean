/-
Module: LooseKeys.Budget
Purpose: The budget of one invocation: rows deleted and updated so far, and the limits on them.
Main exports: PassResult, Budget, Budget.record, Budget.isOverLimit, BudgetStats
-/
import LooseKeys.LockMode
import LooseKeys.Relation
import LooseKeys.Settings
import LooseKeys.SortedMap

/-!
Counts only grow, so a budget that is over its limit stays over it.  The clock is not read: the
seconds that pass before each look at it are given beforehand.  A table is counted from its
first modified row on; `total_addDeletions` and `total_addUpdates` say that the total grows by
exactly what is added.
-/

namespace LooseKeys

/-- The outcome of one bounded pass over one child table. -/
structure PassResult where
  table : String
  affectedRows : Nat
  kind : ModificationKind
  lockMode : LockMode
deriving DecidableEq, Repr, Inhabited

/-- Rows per table. -/
abbrev Tally := SortedMap String Nat

namespace Tally

/-- Counts further rows of a table; no rows leave no trace. -/
def add (tally : Tally) (table : String) (count : Nat) : Tally :=
  if count = 0 then tally
  else tally.upsert table (fun present => present.getD 0 + count)

/-- The rows of one table. -/
def countFor (tally : Tally) (table : String) : Nat := (tally.get? table).getD 0

/-- The rows of all tables. -/
def total (tally : Tally) : Nat := tally.values.foldr (· + ·) 0

theorem foldr_upsertEntry (table : String) (count : Nat) (entries : List (String × Nat)) :
    ((SortedMap.upsertEntry table (fun present => present.getD 0 + count) entries).map
      Prod.snd).foldr (· + ·) 0 = (entries.map Prod.snd).foldr (· + ·) 0 + count := by
  induction entries with
  | nil => simp [SortedMap.upsertEntry]
  | cons entry rest ih =>
      simp only [SortedMap.upsertEntry]
      split
      · simp; omega
      · split
        · simp; omega
        · simp only [List.map_cons, List.foldr_cons, ih]; omega

@[simp] theorem total_add (tally : Tally) (table : String) (count : Nat) :
    (tally.add table count).total = tally.total + count := by
  unfold add
  split
  · simp_all
  · exact foldr_upsertEntry table count tally.entries

end Tally

/-- A budget and what has been used of it. -/
structure Budget where
  /-- The number of modified rows at which the budget is used up. -/
  ceiling : Nat
  /-- The number of seconds after which the time is used up. -/
  runtimeLimit : Option Nat := none
  /-- The seconds that have passed since the budget was opened. -/
  elapsed : Nat := 0
  /-- The seconds that pass before each of the next looks at the clock; none pass after these. -/
  delays : List Nat := []
  deletions : Tally := {}
  updates : Tally := {}
deriving DecidableEq, Repr, Inhabited

/-- The counts of a budget at one moment. -/
structure BudgetStats where
  deletions : Tally := {}
  updates : Tally := {}
  total : Nat := 0
deriving DecidableEq, Repr, Inhabited

namespace Budget

/-- An unused budget without a limit on the time. -/
def ofCeiling (ceiling : Nat) : Budget := { ceiling }

/-- The same budget with a limit on the time. -/
def withRuntimeLimit (budget : Budget) (seconds : Nat) : Budget :=
  { budget with runtimeLimit := some seconds }

/-- The unused budget that the settings ask for. -/
def ofSettings (settings : Settings) : Budget :=
  { ceiling := settings.maxModifications, runtimeLimit := settings.maxRuntime? }

def addDeletions (budget : Budget) (table : String) (count : Nat) : Budget :=
  { budget with deletions := budget.deletions.add table count }

def addUpdates (budget : Budget) (table : String) (count : Nat) : Budget :=
  { budget with updates := budget.updates.add table count }

/-- Counts the rows of a pass as what the pass did to them. -/
def record (budget : Budget) (result : PassResult) : Budget :=
  match result.kind with
  | .deletion => budget.addDeletions result.table result.affectedRows
  | .update => budget.addUpdates result.table result.affectedRows

/-- The budget at the next look at the clock. -/
def tick (budget : Budget) : Budget :=
  { budget with
    elapsed := budget.elapsed + budget.delays.headD 0
    delays := budget.delays.tail }

def deleted (budget : Budget) : Nat := budget.deletions.total

def updated (budget : Budget) : Nat := budget.updates.total

/-- The number of modified rows. -/
def total (budget : Budget) : Nat := budget.deleted + budget.updated

/-- Whether the time is used up; a limit of zero seconds is reached at once. -/
def isOverTime (budget : Budget) : Bool := budget.runtimeLimit.any (· ≤ budget.elapsed)

/-- Whether nothing may be modified any more. -/
def isOverLimit (budget : Budget) : Bool :=
  budget.ceiling ≤ budget.total || budget.isOverTime

def stats (budget : Budget) : BudgetStats :=
  { deletions := budget.deletions, updates := budget.updates, total := budget.total }

@[simp] theorem total_addDeletions (budget : Budget) (table : String) (count : Nat) :
    (budget.addDeletions table count).total = budget.total + count := by
  simp [total, deleted, updated, addDeletions]; omega

@[simp] theorem total_addUpdates (budget : Budget) (table : String) (count : Nat) :
    (budget.addUpdates table count).total = budget.total + count := by
  simp [total, deleted, updated, addUpdates]; omega

@[simp] theorem total_record (budget : Budget) (result : PassResult) :
    (budget.record result).total = budget.total + result.affectedRows := by
  unfold record; split <;> simp

@[simp] theorem ceiling_record (budget : Budget) (result : PassResult) :
    (budget.record result).ceiling = budget.ceiling := by
  unfold record; split <;> rfl

@[simp] theorem total_tick (budget : Budget) : budget.tick.total = budget.total := rfl

@[simp] theorem ceiling_tick (budget : Budget) : budget.tick.ceiling = budget.ceiling := rfl

/-- A budget below its limit is below its ceiling. -/
theorem total_lt_ceiling {budget : Budget} (h : ¬ budget.isOverLimit) :
    budget.total < budget.ceiling := by
  simp only [isOverLimit, Bool.or_eq_true, decide_eq_true_eq, not_or] at h
  omega

end Budget

end LooseKeys
