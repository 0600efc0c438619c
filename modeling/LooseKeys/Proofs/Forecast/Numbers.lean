/-
Module: LooseKeys.Proofs.Forecast.Numbers
Purpose: How the passes of a relation go, told beforehand from numbers.
Main exports: Forecast, Forecast.passes, Forecast.phaseEnd, Forecast.stopsAfter_succ_iff,
  RelationForecast, RelationForecast.foldl_count
-/
import LooseKeys.Proofs.Spans
import Mathlib.Data.Nat.Find

/-!
The passes of a phase take full batches until what is left is less than one.  So the number of rows
that are taken after each pass is known beforehand, and with it the pass that ends the phase: the
first one that brings the budget to its ceiling, finds no row, or is the last one allowed.

A relation has two such phases.  What the first one leaves, of the rows and of the room in the
budget, is what the second one has.
-/

namespace LooseKeys

/-- The numbers that decide how a phase of passes goes. -/
structure Forecast where
  /-- The rows that its passes may take. -/
  rows : Nat
  /-- The greatest number of rows of a pass. -/
  size : Nat
  positive : 0 < size
  /-- The greatest number of passes in a row that find rows. -/
  limit : Option Nat
  /-- The rows with which the budget reaches its ceiling. -/
  room : Nat

namespace Forecast

variable (forecast : Forecast)

/-- The rows that so many passes take together. -/
def taken (passes : Nat) : Nat := min forecast.rows (passes * forecast.size)

/-- The rows that one more pass takes. -/
def take (earlier : Nat) : Nat := forecast.taken (earlier + 1) - forecast.taken earlier

/-- So many passes are a reason to end the phase: the budget has reached its ceiling, the last one
found no row, or as many found rows as are allowed. -/
def StopsAfter (passes : Nat) : Prop :=
  forecast.room ≤ forecast.taken passes ∨
    forecast.taken passes = forecast.taken (passes - 1) ∨ forecast.limit.any (· ≤ passes)

instance : DecidablePred forecast.StopsAfter :=
  fun _ => inferInstanceAs (Decidable (_ ∨ _ ∨ _))

@[simp] theorem taken_zero : forecast.taken 0 = 0 := by
  unfold taken
  rw [Nat.zero_mul, Nat.min_zero]

theorem taken_add_take (earlier : Nat) :
    forecast.taken earlier + forecast.take earlier = forecast.taken (earlier + 1) := by
  have more : earlier * forecast.size ≤ (earlier + 1) * forecast.size :=
    Nat.mul_le_mul_right _ (Nat.le_succ earlier)
  unfold take taken
  omega

/-- A pass takes a full batch, or what is left. -/
theorem take_eq_min (earlier : Nat) :
    forecast.take earlier = min (forecast.rows - forecast.taken earlier) forecast.size := by
  unfold take taken
  rw [Nat.succ_mul]
  omega

theorem sum_take (passes : Nat) :
    ((List.range passes).map forecast.take).sum = forecast.taken passes := by
  induction passes with
  | zero => exact forecast.taken_zero.symm
  | succ passes ih =>
      rw [List.range_succ, List.map_append, List.sum_append, ih, List.map_singleton,
        List.sum_singleton]
      exact forecast.taken_add_take passes

/-- At the latest when every row is taken one more pass finds none. -/
theorem exists_stop : ∃ passes, 1 ≤ passes ∧ forecast.StopsAfter passes := by
  have all : forecast.rows ≤ forecast.rows * forecast.size :=
    Nat.le_mul_of_pos_right _ forecast.positive
  refine ⟨forecast.rows + 1, Nat.succ_pos _, Or.inr (Or.inl ?_)⟩
  unfold taken
  rw [Nat.add_one_sub_one, Nat.succ_mul]
  omega

/-- The passes of the phase. -/
def passes : Nat := Nat.find forecast.exists_stop

/-- The rows that they take. -/
def affected : Nat := forecast.taken forecast.passes

/-- How the phase ends.  When there are several reasons, the budget counts before the rows, and the
rows before the limit of passes. -/
def phaseEnd : PhaseEnd :=
  if forecast.room ≤ forecast.affected then .overLimit
  else if forecast.affected = forecast.taken (forecast.passes - 1) then .drained
  else .passLimit

/-- What the passes of the phase find. -/
def results (pass : Pass) : List PassResult :=
  (List.range forecast.passes).map (fun earlier => pass.result (forecast.take earlier))

/-- What is logged of them. -/
def entries (childTable : String) (mode : LockMode) : List PassEntry :=
  (List.range forecast.passes).map (fun earlier => ⟨childTable, mode, forecast.take earlier⟩)

theorem passes_pos : 0 < forecast.passes := (Nat.find_spec forecast.exists_stop).1

theorem stopsAfter_passes : forecast.StopsAfter forecast.passes :=
  (Nat.find_spec forecast.exists_stop).2

/-- No earlier pass ends the phase. -/
theorem not_stopsAfter {made : Nat} (positive : 1 ≤ made) (below : made < forecast.passes) :
    ¬ forecast.StopsAfter made :=
  fun stops => Nat.find_min forecast.exists_stop below ⟨positive, stops⟩

/-- The total stays the same when a pass finds no row. -/
theorem taken_succ_eq_iff (made : Nat) :
    forecast.taken (made + 1) = forecast.taken made ↔ forecast.take made = 0 := by
  have more := forecast.taken_add_take made
  omega

theorem stopsAfter_succ_iff (made : Nat) :
    forecast.StopsAfter (made + 1) ↔ forecast.room ≤ forecast.taken (made + 1) ∨
      forecast.take made = 0 ∨ forecast.limit.any (· ≤ made + 1) := by
  unfold StopsAfter
  rw [Nat.add_one_sub_one, taken_succ_eq_iff]

theorem phaseEnd_of_last {made : Nat} (last : made + 1 = forecast.passes) :
    forecast.phaseEnd =
      if forecast.room ≤ forecast.taken (made + 1) then .overLimit
      else if forecast.take made = 0 then .drained
      else .passLimit := by
  unfold phaseEnd affected
  rw [← last, Nat.add_one_sub_one]
  simp only [taken_succ_eq_iff]

theorem length_results (pass : Pass) : (forecast.results pass).length = forecast.passes := by
  unfold results
  rw [List.length_map, List.length_range]

theorem sum_results (pass : Pass) :
    ((forecast.results pass).map (·.affectedRows)).sum = forecast.affected := by
  unfold results affected
  rw [List.map_map, ← sum_take]
  rfl

theorem map_entry_results (pass : Pass) :
    (forecast.results pass).map PassResult.entry
      = forecast.entries pass.relation.childTable pass.lockMode := by
  unfold results entries
  rw [List.map_map]
  rfl

/-- The passes of a phase are all of its lock mode. -/
theorem rowsIn_results (mode : LockMode) (pass : Pass) :
    rowsIn mode (forecast.results pass)
      = if pass.lockMode = mode then forecast.affected else 0 := by
  have ofMode : ∀ result ∈ forecast.results pass, result.lockMode = pass.lockMode := by
    intro result member
    obtain ⟨earlier, _, rfl⟩ := List.mem_map.mp member
    rfl
  unfold rowsIn
  split
  · rename_i same
    rw [List.filter_eq_self.mpr, sum_results]
    intro result member
    exact decide_eq_true ((ofMode result member).trans same)
  · rename_i other
    rw [List.filter_eq_nil_iff.mpr, List.map_nil, List.sum_nil]
    intro result member ofOther
    exact other ((ofMode result member).symm.trans (of_decide_eq_true ofOther))

end Forecast

/-- The numbers that decide how the cleanup of a relation goes. -/
structure RelationForecast where
  /-- The rows that reference a parent of the batch and are not locked. -/
  unlocked : Nat
  /-- The rows that reference one and are locked. -/
  locked : Nat
  size : Nat
  positive : 0 < size
  limit : Option Nat
  room : Nat
  /-- A phase that leaves locked rows alone comes first. -/
  skips : Bool

namespace RelationForecast

variable (forecast : RelationForecast)

/-- The phase that leaves locked rows alone, if there is one. -/
def first : Forecast :=
  { rows := forecast.unlocked, size := forecast.size, positive := forecast.positive,
    limit := forecast.limit, room := forecast.room }

def skippedRows : Nat := if forecast.skips then forecast.first.affected else 0

/-- The budget ends the relation before its waiting phase. -/
def isCut : Bool := forecast.skips && decide (forecast.first.phaseEnd = .overLimit)

/-- The waiting phase takes what the first one left, locked or not. -/
def second : Forecast :=
  { rows := forecast.unlocked + forecast.locked - forecast.skippedRows
    size := forecast.size, positive := forecast.positive, limit := forecast.limit
    room := forecast.room - forecast.skippedRows }

def waitedRows : Nat := if forecast.isCut then 0 else forecast.second.affected

def passes : Nat :=
  (if forecast.skips then forecast.first.passes else 0)
    + if forecast.isCut then 0 else forecast.second.passes

def phaseEnd : PhaseEnd :=
  if forecast.isCut then .overLimit else forecast.second.phaseEnd

/-- What is told of the relation before it is known whether it is drained. -/
def summary (relation : Relation) : RelationSummary :=
  { RelationSummary.ofRelation relation with
    skipLockedRows := forecast.skippedRows
    blockingRows := forecast.waitedRows
    passes := forecast.passes }

/-- What is logged of both phases. -/
def entries (childTable : String) : List PassEntry :=
  (if forecast.skips then forecast.first.entries childTable .skipLocked else [])
    ++ if forecast.isCut then [] else forecast.second.entries childTable .blocking

def skippedResults (pass : Pass) : List PassResult :=
  if forecast.skips then forecast.first.results pass else []

def waitedResults (pass : Pass) : List PassResult :=
  if forecast.isCut then [] else forecast.second.results pass

theorem sum_skippedResults (pass : Pass) :
    ((forecast.skippedResults pass).map (·.affectedRows)).sum = forecast.skippedRows := by
  unfold skippedResults skippedRows
  split
  · exact forecast.first.sum_results pass
  · rfl

theorem sum_waitedResults (pass : Pass) :
    ((forecast.waitedResults pass).map (·.affectedRows)).sum = forecast.waitedRows := by
  unfold waitedResults waitedRows
  split
  · rfl
  · exact forecast.second.sum_results pass

/-- The summary counts what the passes of both phases find. -/
theorem foldl_count (relation : Relation) {skipping waiting : Pass}
    (skips : skipping.lockMode = .skipLocked) (waits : waiting.lockMode = .blocking) :
    (forecast.skippedResults skipping ++ forecast.waitedResults waiting).foldl
        RelationSummary.count (.ofRelation relation)
      = forecast.summary relation := by
  rw [RelationSummary.foldl_count]
  unfold skippedResults waitedResults summary passes skippedRows waitedRows
    RelationSummary.ofRelation
  cases forecast.skips <;> cases forecast.isCut <;>
    simp [rowsIn_append, Forecast.rowsIn_results, Forecast.length_results, skips, waits]

theorem map_entry_results {skipping waiting : Pass} {childTable : String}
    (skips : skipping.lockMode = .skipLocked) (waits : waiting.lockMode = .blocking)
    (skipped : skipping.relation.childTable = childTable)
    (waited : waiting.relation.childTable = childTable) :
    (forecast.skippedResults skipping ++ forecast.waitedResults waiting).map PassResult.entry
      = forecast.entries childTable := by
  unfold skippedResults waitedResults entries
  rw [List.map_append, apply_ite (List.map PassResult.entry), apply_ite (List.map PassResult.entry),
    Forecast.map_entry_results, Forecast.map_entry_results, skips, waits, skipped, waited]
  rfl

end RelationForecast

end LooseKeys
