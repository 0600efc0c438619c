/-
Module: LooseKeys.Proofs.Budget.Books
Purpose: What a budget tells of the charges that were made to it, in whatever order and portions.
Main exports: Tally.Canonical, Charge, Budget.charge, Budget.chargeAll, Charge.rows,
  Budget.among_chargeAll, Budget.stats_chargeAll_congr, Budget.Books, Budget.books_hold
-/
import LooseKeys.Proofs.Budget
import LooseKeys.Proofs.Sorting

/-!
A tally has one entry for each table with rows, and none for the others, so it is determined by
the counts of the tables.  A charge adds to the count of one table.  Hence all that a budget tells
follows from the sums of the charges, and two lists of charges with the same sums cannot be told
apart by it: neither the order counts, nor how the rows of one table are split up.
-/

namespace LooseKeys

/-! ### Tallies -/

namespace Tally

/-- Each table that is counted has rows. -/
def Canonical (tally : Tally) : Prop := ∀ entry ∈ tally.entries, 0 < entry.2

theorem Canonical.empty : Canonical {} := by
  simp [Canonical]

namespace Canonical

variable {tally other : Tally} (canonical : tally.Canonical)
include canonical

theorem add (table : String) (count : Nat) : (tally.add table count).Canonical := by
  intro entry member
  unfold Tally.add at member
  split at member
  · exact canonical entry member
  · rename_i counted
    rcases SortedMap.mem_upsertEntry member with rfl | old | ⟨present, held, rfl⟩
    · change 0 < 0 + count
      omega
    · exact canonical entry old
    · change 0 < present + count
      omega

/-- The entries are the tables with rows. -/
theorem mem_entries_iff {table : String} {count : Nat} :
    (table, count) ∈ tally.entries ↔ 0 < count ∧ count = tally.countFor table := by
  rw [SortedMap.mem_entries_iff]
  unfold countFor
  constructor
  · intro found
    refine ⟨canonical _ (SortedMap.mem_entries_of_get? found), ?_⟩
    simp only [found, Option.getD_some]
  · rintro ⟨positive, same⟩
    cases found : tally.get? table with
    | none =>
        rw [found] at same
        exact absurd same (Nat.ne_of_gt positive)
    | some present =>
        rw [found] at same
        exact congrArg some same.symm

/-- The counts determine the tally. -/
theorem eq_of_countFor (canonical' : other.Canonical)
    (same : ∀ table, tally.countFor table = other.countFor table) : tally = other := by
  apply SortedMap.ext
  apply eq_of_ascending tally.ascending other.ascending
  rintro ⟨table, count⟩
  rw [canonical.mem_entries_iff, canonical'.mem_entries_iff, same]

end Canonical

end Tally

/-! ### Charges -/

/-- A call that charges rows to a budget. -/
inductive Charge where
  | deletions (table : String) (count : Nat)
  | updates (table : String) (count : Nat)
  | record (result : PassResult)
deriving DecidableEq, Repr

namespace Charge

def kind : Charge → ModificationKind
  | .deletions _ _ => .deletion
  | .updates _ _ => .update
  | .record result => result.kind

def table : Charge → String
  | .deletions table _ => table
  | .updates table _ => table
  | .record result => result.table

def count : Charge → Nat
  | .deletions _ count => count
  | .updates _ count => count
  | .record result => result.affectedRows

/-- Whether rows are charged as modified in a way, in one of the tables that a test lets through. -/
def isFor (kind : ModificationKind) (covers : String → Bool) (charge : Charge) : Bool :=
  charge.kind = kind && covers charge.table

/-- The rows that are charged as modified in a way, in the tables that a test lets through. -/
def rows (kind : ModificationKind) (covers : String → Bool) (charges : List Charge) : Nat :=
  ((charges.filter (isFor kind covers)).map count).sum

/-- The parts charge the same table in the same way, and together as many rows. -/
structure SplitsInto (whole : Charge) (parts : List Charge) : Prop where
  same : ∀ part ∈ parts, part.kind = whole.kind ∧ part.table = whole.table
  count : (parts.map Charge.count).sum = whole.count

theorem rows_cons (kind : ModificationKind) (covers : String → Bool) (charge : Charge)
    (rest : List Charge) : rows kind covers (charge :: rest) =
      (if charge.isFor kind covers then charge.count else 0) + rows kind covers rest := by
  unfold rows
  by_cases passes : charge.isFor kind covers
  · rw [List.filter_cons_of_pos passes, List.map_cons, List.sum_cons, if_pos passes]
  · rw [List.filter_cons_of_neg passes, if_neg passes, Nat.zero_add]

theorem rows_append (kind : ModificationKind) (covers : String → Bool)
    (first second : List Charge) : rows kind covers (first ++ second) =
      rows kind covers first + rows kind covers second := by
  unfold rows
  rw [List.filter_append, List.map_append, List.sum_append]

theorem rows_perm {first second : List Charge} (perm : first.Perm second)
    (kind : ModificationKind) (covers : String → Bool) :
    rows kind covers first = rows kind covers second := by
  unfold rows
  exact ((perm.filter _).map _).sum_eq

/-- All or none of the parts pass a test, as the whole does. -/
theorem SplitsInto.rows_eq {whole : Charge} {parts : List Charge} (splits : whole.SplitsInto parts)
    (kind : ModificationKind) (covers : String → Bool) :
    rows kind covers parts = rows kind covers [whole] := by
  have test : ∀ part ∈ parts, part.isFor kind covers = whole.isFor kind covers := by
    intro part member
    obtain ⟨sameKind, sameTable⟩ := splits.same part member
    unfold isFor
    rw [sameKind, sameTable]
  unfold rows
  cases passes : whole.isFor kind covers with
  | false =>
      have unaffected : ∀ part ∈ parts, ¬ part.isFor kind covers := by
        intro part member
        rw [test part member, passes]
        exact Bool.false_ne_true
      rw [List.filter_eq_nil_iff.mpr unaffected, List.filter_cons_of_neg (by simp [passes])]
      rfl
  | true =>
      have all : ∀ part ∈ parts, part.isFor kind covers = true := by
        intro part member
        rw [test part member, passes]
      rw [List.filter_eq_self.mpr all, List.filter_cons_of_pos passes, splits.count]
      rfl

/-- Every row is charged in one of the two ways. -/
theorem rows_deletion_add_update (charges : List Charge) :
    rows .deletion (fun _ => true) charges + rows .update (fun _ => true) charges =
      (charges.map count).sum := by
  induction charges with
  | nil => rfl
  | cons charge rest ih =>
      rw [rows_cons, rows_cons, List.map_cons, List.sum_cons, ← ih]
      unfold isFor
      cases charge.kind with
      | deletion => simp [Nat.add_assoc]
      | update => simp [Nat.add_left_comm]

end Charge

namespace Budget

/-- The budget after a call. -/
def charge (budget : Budget) : Charge → Budget
  | .deletions table count => budget.addDeletions table count
  | .updates table count => budget.addUpdates table count
  | .record result => budget.record result

/-- The budget after some calls. -/
def chargeAll (budget : Budget) (charges : List Charge) : Budget := charges.foldl charge budget

/-- What a budget has counted as modified in a way. -/
def tally (budget : Budget) : ModificationKind → Tally
  | .deletion => budget.deletions
  | .update => budget.updates

/-- A call is counted where it belongs, and changes nothing else. -/
theorem tally_charge (budget : Budget) (charge : Charge) (kind : ModificationKind) :
    (budget.charge charge).tally kind =
      if charge.kind = kind then (budget.tally kind).add charge.table charge.count
      else budget.tally kind := by
  cases charge with
  | deletions table count => cases kind <;> rfl
  | updates table count => cases kind <;> rfl
  | record result =>
      change (budget.record result).tally kind = if result.kind = kind then
        (budget.tally kind).add result.table result.affectedRows else budget.tally kind
      cases recorded : result.kind with
      | deletion =>
          rw [record_of_deletion budget recorded]
          cases kind <;> rfl
      | update =>
          rw [record_of_update budget recorded]
          cases kind <;> rfl

theorem limits_charge (budget : Budget) (charge : Charge) :
    (budget.charge charge).ceiling = budget.ceiling ∧
      (budget.charge charge).runtimeLimit = budget.runtimeLimit := by
  cases charge with
  | deletions table count => exact ⟨rfl, rfl⟩
  | updates table count => exact ⟨rfl, rfl⟩
  | record result =>
      change (budget.record result).ceiling = _ ∧ (budget.record result).runtimeLimit = _
      unfold Budget.record
      split <;> exact ⟨rfl, rfl⟩

theorem limits_chargeAll (budget : Budget) (charges : List Charge) :
    (budget.chargeAll charges).ceiling = budget.ceiling ∧
      (budget.chargeAll charges).runtimeLimit = budget.runtimeLimit := by
  induction charges generalizing budget with
  | nil => exact ⟨rfl, rfl⟩
  | cons charge rest ih =>
      obtain ⟨ceiling, runtimeLimit⟩ := ih (budget.charge charge)
      obtain ⟨ceiling', runtimeLimit'⟩ := budget.limits_charge charge
      exact ⟨ceiling.trans ceiling', runtimeLimit.trans runtimeLimit'⟩

/-- Calls add the rows that they charge to what was counted before. -/
theorem among_chargeAll (budget : Budget) (charges : List Charge) (kind : ModificationKind)
    (covers : String → Bool) : ((budget.chargeAll charges).tally kind).among covers =
      (budget.tally kind).among covers + Charge.rows kind covers charges := by
  induction charges generalizing budget with
  | nil => rfl
  | cons charge rest ih =>
      change (((budget.charge charge).chargeAll rest).tally kind).among covers = _
      rw [ih, tally_charge, Charge.rows_cons, ← Nat.add_assoc]
      unfold Charge.isFor
      by_cases ofKind : charge.kind = kind
      · simp [ofKind, Tally.among_add]
      · simp [ofKind]

theorem canonical_chargeAll {budget : Budget} {kind : ModificationKind}
    (canonical : (budget.tally kind).Canonical) (charges : List Charge) :
    ((budget.chargeAll charges).tally kind).Canonical := by
  induction charges generalizing budget with
  | nil => exact canonical
  | cons charge rest ih =>
      apply ih
      rw [tally_charge]
      split
      · exact canonical.add _ _
      · exact canonical

/-! ### An unused budget -/

section Fresh

variable (ceiling : Nat) (charges : List Charge)

theorem canonical_ofCeiling (kind : ModificationKind) :
    ((ofCeiling ceiling).tally kind).Canonical := by
  cases kind <;> exact Tally.Canonical.empty

theorem among_ofCeiling (kind : ModificationKind) (covers : String → Bool) :
    (((ofCeiling ceiling).chargeAll charges).tally kind).among covers =
      Charge.rows kind covers charges := by
  rw [among_chargeAll]
  cases kind <;> exact Nat.zero_add _

/-- The count of a table is what was charged for it. -/
theorem countFor_ofCeiling (kind : ModificationKind) (table : String) :
    (((ofCeiling ceiling).chargeAll charges).tally kind).countFor table =
      Charge.rows kind (· = table) charges := by
  rw [← among_ofCeiling ceiling, Tally.among_eq_countFor]

/-- The rows that were modified in one way are those that were charged so. -/
theorem total_tally_ofCeiling (kind : ModificationKind) :
    (((ofCeiling ceiling).chargeAll charges).tally kind).total =
      Charge.rows kind (fun _ => true) charges := by
  rw [← among_ofCeiling ceiling, Tally.among_true]

theorem total_ofCeiling :
    ((ofCeiling ceiling).chargeAll charges).total = (charges.map Charge.count).sum := by
  rw [← Charge.rows_deletion_add_update, ← total_tally_ofCeiling ceiling,
    ← total_tally_ofCeiling ceiling]
  rfl

/-- Without a limit on the time only the ceiling counts. -/
theorem isOverLimit_ofCeiling : ((ofCeiling ceiling).chargeAll charges).isOverLimit ↔
    ceiling ≤ (charges.map Charge.count).sum := by
  obtain ⟨sameCeiling, untimed⟩ := limits_chargeAll (ofCeiling ceiling) charges
  have inTime : ((ofCeiling ceiling).chargeAll charges).isOverTime = false := by
    unfold isOverTime
    rw [untimed]
    rfl
  unfold isOverLimit
  rw [inTime, sameCeiling, total_ofCeiling, Bool.or_false, decide_eq_true_eq]
  exact Iff.rfl

/-- Charges with the same sums leave the same counts. -/
theorem stats_chargeAll_congr {others : List Charge}
    (same : ∀ kind covers, Charge.rows kind covers charges = Charge.rows kind covers others) :
    ((ofCeiling ceiling).chargeAll charges).stats =
      ((ofCeiling ceiling).chargeAll others).stats := by
  have tallies (kind : ModificationKind) : ((ofCeiling ceiling).chargeAll charges).tally kind =
      ((ofCeiling ceiling).chargeAll others).tally kind := by
    apply Tally.Canonical.eq_of_countFor
    · exact canonical_chargeAll (canonical_ofCeiling ceiling kind) charges
    · exact canonical_chargeAll (canonical_ofCeiling ceiling kind) others
    · intro table
      rw [countFor_ofCeiling, countFor_ofCeiling, same]
  have deletions : ((ofCeiling ceiling).chargeAll charges).deletions =
      ((ofCeiling ceiling).chargeAll others).deletions := tallies .deletion
  have updates : ((ofCeiling ceiling).chargeAll charges).updates =
      ((ofCeiling ceiling).chargeAll others).updates := tallies .update
  unfold stats total deleted updated
  rw [deletions, updates]

end Fresh

/-- What the budget tells are the sums of the charges: table by table, for each kind of
modification and over all; and its counts list exactly the tables with rows. -/
structure Books (budget : Budget) (charges : List Charge) : Prop where
  deletionsFor : ∀ table,
    budget.deletions.countFor table = Charge.rows .deletion (· = table) charges
  updatesFor : ∀ table, budget.updates.countFor table = Charge.rows .update (· = table) charges
  deleted : budget.deleted = Charge.rows .deletion (fun _ => true) charges
  updated : budget.updated = Charge.rows .update (fun _ => true) charges
  total : budget.total = (charges.map Charge.count).sum
  parts : budget.total = budget.deleted + budget.updated
  statsTotal : budget.stats.total = budget.total
  ascending : budget.stats.deletions.keys.Pairwise (· < ·) ∧
    budget.stats.updates.keys.Pairwise (· < ·)
  listsDeletions : ∀ table count, (table, count) ∈ budget.stats.deletions.entries ↔
    0 < count ∧ count = Charge.rows .deletion (· = table) charges
  listsUpdates : ∀ table count, (table, count) ∈ budget.stats.updates.entries ↔
    0 < count ∧ count = Charge.rows .update (· = table) charges

theorem books_ofCeiling (ceiling : Nat) (charges : List Charge) :
    ((ofCeiling ceiling).chargeAll charges).Books charges := by
  have canonical (kind : ModificationKind) :=
    canonical_chargeAll (canonical_ofCeiling ceiling kind) charges
  have listed (kind : ModificationKind) (table : String) (count : Nat) :
      (table, count) ∈ (((ofCeiling ceiling).chargeAll charges).tally kind).entries ↔
        0 < count ∧ count = Charge.rows kind (· = table) charges := by
    rw [(canonical kind).mem_entries_iff, countFor_ofCeiling]
  constructor
  · exact countFor_ofCeiling ceiling charges .deletion
  · exact countFor_ofCeiling ceiling charges .update
  · exact total_tally_ofCeiling ceiling charges .deletion
  · exact total_tally_ofCeiling ceiling charges .update
  · exact total_ofCeiling ceiling charges
  · rfl
  · rfl
  · exact ⟨SortedMap.pairwise_keys _, SortedMap.pairwise_keys _⟩
  · exact listed .deletion
  · exact listed .update

/-- A budget is a ledger whose order does not count.  After any calls on an unused budget without a
limit on the time, it tells the sums of what was charged.  The same calls in another order, or one
of them split up into several, leave the same counts.  The total never falls; the budget is over
its limit exactly when the total has reached the ceiling, and then stays so.  As long as all that is
charged fits in a word of 64 bits, so does every sum that the budget forms on the way. -/
theorem books_hold (ceiling : Nat) (charges : List Charge) :
    let budget := (ofCeiling ceiling).chargeAll charges
    budget.Books charges ∧
    (∀ others, others.Perm charges →
      ((ofCeiling ceiling).chargeAll others).stats = budget.stats) ∧
    (∀ before whole parts after, charges = before ++ whole :: after → whole.SplitsInto parts →
      ((ofCeiling ceiling).chargeAll (before ++ parts ++ after)).stats = budget.stats) ∧
    (budget.isOverLimit ↔ ceiling ≤ budget.total) ∧
    ∀ earlier, earlier <+: charges →
      let sofar := (ofCeiling ceiling).chargeAll earlier
      sofar.total ≤ budget.total ∧ (sofar.isOverLimit → budget.isOverLimit) ∧
        ((charges.map Charge.count).sum < 2 ^ 64 → sofar.FitsWord) := by
  intro budget
  refine ⟨books_ofCeiling ceiling charges, ?_, ?_, ?_, ?_⟩
  · intro others perm
    apply stats_chargeAll_congr
    exact fun kind covers => Charge.rows_perm perm kind covers
  · rintro before whole parts after rfl splits
    apply stats_chargeAll_congr
    intro kind covers
    rw [← List.singleton_append, ← List.append_assoc]
    simp only [Charge.rows_append, splits.rows_eq]
  · rw [total_ofCeiling]
    exact isOverLimit_ofCeiling ceiling charges
  · rintro earlier ⟨rest, rfl⟩
    intro sofar
    have grows : (earlier.map Charge.count).sum ≤ ((earlier ++ rest).map Charge.count).sum := by
      rw [List.map_append, List.sum_append]
      exact Nat.le_add_right _ _
    refine ⟨?_, ?_, ?_⟩
    · rw [total_ofCeiling, total_ofCeiling]
      exact grows
    · rw [isOverLimit_ofCeiling, isOverLimit_ofCeiling]
      exact fun reached => Nat.le_trans reached grows
    · intro fits
      apply fitsWord_of_total_lt
      rw [total_ofCeiling]
      exact Nat.lt_of_le_of_lt grows fits

end Budget

end LooseKeys
