/-
Module: LooseKeys.Proofs.Report
Purpose: The report of an invocation accounts exactly for what the invocation did.
Main exports: SweepReport.Accounts, Invocation.report_accounts
-/
import LooseKeys.Proofs.Charges
import LooseKeys.Proofs.Marking
import LooseKeys.Proofs.Provenance

/-!
A report is put together from three sources: the outcomes of the batches, the counts of the
budget, and the numbers that the markings answer.  Here each is held against the store before and
after the invocation.  That the report is over the limit exactly when its last batch is rests on
the budget being looked at after every pass: between two tables it is either within its ceiling or
the batch before has said so.
-/

namespace LooseKeys

/-- As many records have turned from pending to processed as fewer are pending. -/
theorem DeletedRecord.countP_turned {may : DeletedRecord → Prop}
    {before after : List DeletedRecord} (evolve : List.Forall₂ (Evolves may) before after) :
    before.countP (·.isPending) = after.countP (·.isPending)
      + (before.zip after).countP (fun pair => pair.1.isPending && !pair.2.isPending) := by
  induction evolve with
  | nil => rfl
  | @cons record later _ _ evolves _ ih =>
      simp only [List.zip_cons_cons, List.countP_cons, ih]
      rcases evolves with rfl | ⟨pending, _, rfl⟩
      · simp only [Bool.and_not_self, Bool.false_eq_true, if_false]
        omega
      · have marked : record.processed.isPending = false := rfl
        simp only [pending, marked, Bool.not_false, Bool.and_true, Bool.false_eq_true, if_true,
          if_false]
        omega

/-- A report accounts for what happened between two stores, with some states on the way that were
shown. -/
structure SweepReport.Accounts (report : SweepReport) (registry : Registry) (settings : Settings)
    (before : Store) (shown : List Store) (after : Store) : Prop where
  /-- The batches are of the parent tables with pending records, from the first one on. -/
  tables : report.batches.map (·.parentTable) <+: before.pendingTables registry.parentTables
  /-- They ascend, so none comes twice. -/
  ascending : (report.batches.map (·.parentTable)).Pairwise (· < ·)
  /-- A batch that the budget ended is the last one. -/
  upToOverLimit : ∀ batch ∈ report.batches.dropLast, batch.overLimit = false
  /-- If there is none, every table with pending records has its batch. -/
  complete : (∀ batch ∈ report.batches, batch.overLimit = false) →
    report.batches.map (·.parentTable) = before.pendingTables registry.parentTables
  /-- The report is over the limit when its last batch is. -/
  overLimit : report.overLimit = true ↔
    ∃ last, report.batches.getLast? = some last ∧ last.overLimit = true
  /-- It is over the limit when as many rows were modified as are allowed. -/
  spent : report.overLimit = true ↔ settings.maxModifications ≤ report.stats.total
  /-- As many rows were deleted as are gone. -/
  deletedRows : (before.removed after).encard = report.deletedRows
  /-- As many rows were updated as values were set to null, also in rows that were deleted
  afterwards. -/
  updatedRows : (before.nulled (shown ++ [after])).encard = report.updatedRows
  /-- The records that finalized batches account for are processed, the others are as they
  were. -/
  log : after.log = before.logMarking
    (report.batches.flatMap (·.records settings.recordsPerTable.toNat before))
  /-- Each batch says how many records it accounts for. -/
  marked : ∀ batch ∈ report.batches,
    batch.markedProcessed = (batch.records settings.recordsPerTable.toNat before).length
  /-- As many records were processed as turned from pending to processed. -/
  recordsProcessed : report.recordsProcessed
    = (before.log.zip after.log).countP (fun pair => pair.1.isPending && !pair.2.isPending)

namespace Invocation

variable {ω : Type} {registry : Registry}

/-- The report of an invocation whose time does not run out accounts for what it did. -/
theorem report_accounts (store : Store) (invocation : Invocation ω)
    (accepted : invocation.settings.validate = .ok invocation.settings)
    (inTime : ∀ limit, invocation.settings.maxRuntime? = some limit →
      invocation.delays.sum < limit)
    {report : SweepReport} {after : Run Store ω}
    (answered : invocation.run registry store = (.ok report, after)) :
    report.Accounts registry invocation.settings store (invocation.shown registry store)
      after.state := by
  have ordered := registry.pairwise_parentTables
  let sweep := invocation.sweep registry
  let start : Run Store ω := ⟨invocation.begins store, sweep.budget, invocation.notes⟩
  have opened : start.budget.Within sweep.settings.maxModifications :=
    ⟨Settings.maxModifications_pos accepted, Nat.le_refl _⟩
  have timely : start.budget.InTime := sweep.inTime_budget inTime
  obtain ⟨ended, final, swept, made⟩ : ∃ ended final,
      sweepTables sweep sweep.registry.parentTables start = (.ok ended, final) ∧
        (Except.ok { batches := ended.1, stats := final.budget.stats, overLimit := ended.2 },
          final) = ((.ok report, after) : Reply (Run Store ω) SweepReport) := by
    unfold run at answered
    rw [Sweep.run_eq_andThen] at answered
    exact Reply.exists_of_andThen_eq_ok answered
  cases made
  have visits := Sweep.sweepTables_visits rfl (Settings.recordsPerTable_pos accepted) start
    timely opened swept
  have proceeds := sweepTables_proceeds sweep sweep.registry.parentTables
    (Nat.le_refl sweep.settings.maxModifications) (fun _ => opened)
  rw [swept] at proceeds
  obtain ⟨front, whole⟩ := visits.parentTables (ordered.imp Std.ne_of_lt)
  obtain ⟨log, marked⟩ := visits.accounts (ordered.imp Std.ne_of_lt)
  -- Arming a failure leaves the log alone, so the visits may be read from the store itself.
  have sameLog : start.state.log = store.log := invocation.log_begins store
  have sameRecords : ∀ batch : BatchOutcome, ∀ limit,
      batch.records limit start.state = batch.records limit store :=
    fun batch => BatchOutcome.records_congr (Store.pendingOf_of_log_eq sameLog _)
  rw [Store.pendingTables_of_log_eq sameLog] at front whole
  simp only [sameRecords] at log marked
  obtain ⟨removed, nulled⟩ := invocation.run_charges registry store
  have evolves := invocation.evolves registry store
  unfold leaves at evolves
  rw [answered] at removed nulled evolves
  refine ⟨front, ?_, visits.overLimit_dropLast, ?_, visits.stopped_iff, ?_, removed, nulled, ?_,
    marked, ?_⟩
  · exact (ordered.filter _).sublist front.sublist
  · intro uncut
    apply whole
    rw [← Bool.not_eq_true, visits.stopped_iff]
    rintro ⟨last, found, stops⟩
    rw [uncut last (List.mem_of_getLast? found)] at stops
    cases stops
  · have ceiling : after.budget.ceiling = invocation.settings.maxModifications :=
      proceeds.turns.ceiling_eq
    constructor
    · intro stops
      have reached := (proceeds.turns.inTime timely).ceiling_le_total
        (proceeds.spent ended rfl stops)
      rwa [ceiling] at reached
    · intro reached
      by_contra goes
      have below := (proceeds.within ended rfl goes).total
      exact absurd reached (Nat.not_le.mpr below)
  · rw [log, Store.logMarking, sameLog]
    rfl
  · have fallen := visits.falls
    have turned := DeletedRecord.countP_turned evolves.log
    rw [sameLog] at fallen
    exact Nat.add_left_cancel (fallen.symm.trans turned)

/-- A budget of three rows: two builds lose their agent, and with one of them gone the budget is
used up before its project can be marked. -/
theorem report_accounts_in_sample :
    ∃ report after,
      (Sample.invocation 3).run Sample.buildRegistry Sample.builds = (.ok report, after) ∧
      report.batches.map (fun batch => (batch.parentTable, batch.finalized, batch.overLimit))
        = [("public.agents", true, false), ("public.projects", false, true)] ∧
      (Sample.builds.removed after.state).encard = 1 ∧
      (Sample.builds.nulled
        ((Sample.invocation 3).shown Sample.buildRegistry Sample.builds ++ [after.state])).encard
          = 2 ∧
      report.Accounts Sample.buildRegistry (Sample.invocation 3).settings Sample.builds
        ((Sample.invocation 3).shown Sample.buildRegistry Sample.builds) after.state := by
  have inTime : ∀ limit, (Sample.invocation 3).settings.maxRuntime? = some limit →
      (Sample.invocation 3).delays.sum < limit := by
    intro limit limited
    cases limited
    decide
  have batches : ((Sample.invocation 3).run Sample.buildRegistry Sample.builds).1.toOption.map
      (fun report => report.batches.map
        (fun batch => (batch.parentTable, batch.finalized, batch.overLimit)))
      = some [("public.agents", true, false), ("public.projects", false, true)] := by
    decide +kernel
  have counts : ((Sample.invocation 3).run Sample.buildRegistry Sample.builds).1.toOption.map
      (fun report => (report.deletedRows, report.updatedRows)) = some (1, 2) := by
    decide +kernel
  cases answered : (Sample.invocation 3).run Sample.buildRegistry Sample.builds with
  | mk result after =>
      rw [answered] at batches counts
      cases result with
      | error error => cases counts
      | ok report =>
          have accounts := report_accounts Sample.builds (Sample.invocation 3) rfl inTime answered
          obtain ⟨deleted, updated⟩ := Prod.mk.inj (Option.some.inj counts)
          refine ⟨report, after, rfl, Option.some.inj batches, ?_, ?_, accounts⟩
          · rw [accounts.deletedRows, deleted]
            rfl
          · rw [accounts.updatedRows, updated]
            rfl

end Invocation

end LooseKeys
