/-
Module: LooseKeys.Proofs.Outcome
Purpose: What the outcome of a batch tells of the relations, the budget and the child rows.
Main exports: BatchOutcome.CutShort, BatchOutcome.LeftUndone, BatchOutcome.Completed,
  BatchOutcome.InOneWay, BatchOutcome.Tells, Cleanup.outcome_tells
-/
import LooseKeys.Proofs.Invocation
import LooseKeys.Proofs.Spans

/-!
A relation ends in one of three ways, and only one of them ends the batch.  So there are three
outcomes: the budget ended the work at some relation, or all relations were gone through and some
waiting phase was stopped by its limit of passes, or every relation was drained and the records
are marked.
-/

namespace LooseKeys

namespace BatchOutcome

variable {ω : Type} (outcome : BatchOutcome) (relations : List Relation)
  (spans : List (Span Store ω))

/-- The budget ended the work: the last pass of the last relation brought its total to the
ceiling. -/
structure CutShort (ceiling : Nat) : Prop where
  overLimit : outcome.overLimit = true
  pending : outcome.finalized = false
  unmarked : outcome.markedProcessed = 0
  relations_prefix : spans.map (·.relation) <+: relations
  reached : ∃ earlier last front entry, spans = earlier ++ [last] ∧
    last.summary.drained = false ∧ last.made = front ++ [entry] ∧
    last.before.budget.total + (front.map (·.affectedRows)).sum < ceiling ∧
    ceiling ≤ last.before.budget.total + (last.made.map (·.affectedRows)).sum

/-- All relations were gone through, and some of them not drained: those whose waiting phase made
as many passes in a row as it may, each of which found rows. -/
structure LeftUndone (passLimit : Option Nat) : Prop where
  within : outcome.overLimit = false
  pending : outcome.finalized = false
  unmarked : outcome.markedProcessed = 0
  relations_eq : spans.map (·.relation) = relations
  undrained : ∃ span ∈ spans, span.summary.drained = false
  undrained_iff : ∀ span ∈ spans, span.summary.drained = false ↔
    passLimit = some span.waiting.length ∧ ∀ entry ∈ span.waiting, entry.affectedRows ≠ 0

/-- Every relation was drained, and the records are marked. -/
structure Completed : Prop where
  within : outcome.overLimit = false
  finalized : outcome.finalized = true
  relations_eq : spans.map (·.relation) = relations
  drained : ∀ span ∈ spans, span.summary.drained = true

/-- Exactly one of the three. -/
structure InOneWay (ceiling : Nat) (passLimit : Option Nat) : Prop where
  cases : outcome.CutShort relations spans ceiling ∨
    outcome.LeftUndone relations spans passLimit ∨ outcome.Completed relations spans
  not_cut_and_undone :
    ¬ (outcome.CutShort relations spans ceiling ∧ outcome.LeftUndone relations spans passLimit)
  not_cut_and_completed :
    ¬ (outcome.CutShort relations spans ceiling ∧ outcome.Completed relations spans)
  not_undone_and_completed :
    ¬ (outcome.LeftUndone relations spans passLimit ∧ outcome.Completed relations spans)

variable {outcome relations spans}

/-- The three tell themselves apart by whether the budget ended the work and whether the records
are marked. -/
theorem InOneWay.of_cases {ceiling : Nat} {passLimit : Option Nat}
    (cases : outcome.CutShort relations spans ceiling ∨
      outcome.LeftUndone relations spans passLimit ∨ outcome.Completed relations spans) :
    outcome.InOneWay relations spans ceiling passLimit := by
  refine ⟨cases, ?_, ?_, ?_⟩
  · rintro ⟨cut, undone⟩
    cases cut.overLimit.symm.trans undone.within
  · rintro ⟨cut, completed⟩
    cases cut.overLimit.symm.trans completed.within
  · rintro ⟨undone, completed⟩
    cases undone.pending.symm.trans completed.finalized

end BatchOutcome

section Statement

variable {ω : Type} (cleanup : Cleanup Store ω) (registry : Registry) (run after : Run Store ω)

/-- What an outcome tells, with which a cleanup that led from one run to another answered. -/
structure BatchOutcome.Tells (outcome : BatchOutcome) : Prop where
  done : outcome.state = .done
  relations : outcome.relations = (cleanup.batchSpans registry run).map (·.summary)
  named : ∀ span ∈ cleanup.batchSpans registry run,
    span.summary.childTable = span.relation.childTable ∧
      span.summary.column = span.relation.column ∧
      span.summary.strategy = span.relation.strategy
  inOneWay : outcome.InOneWay (registry.relationsFor cleanup.batch.parentTable)
    (cleanup.batchSpans registry run) run.budget.ceiling cleanup.settings.maxPassesPerPhase
  below : outcome.finalized → after.budget.total < run.budget.ceiling
  /-- No child row of a drained relation holds a key of the batch, locked or not, when the
  relation ends, and when the cleanup does. -/
  clear : ∀ span ∈ cleanup.batchSpans registry run, span.summary.drained →
    ∀ record ∈ cleanup.batch.records,
      span.after.state.IsClear span.relation record.primaryKey ∧
        after.state.IsClear span.relation record.primaryKey

end Statement

namespace Cleanup

variable {σ ω : Type} {cleanup : Cleanup σ ω} {relations : List Relation} {run later : Run σ ω}

theorem Steps.inTime (steps : Steps cleanup relations run later) (inTime : run.budget.InTime) :
    later.budget.InTime := by
  induction steps with
  | refl => exact inTime
  | tail _ step ih =>
      cases step with
      | told notice => exact ih
      | passed declared answered => exact (ih.record _).tick
      | failed declared refused => exact ih

theorem Steps.ceiling_eq (steps : Steps cleanup relations run later) :
    later.budget.ceiling = run.budget.ceiling := by
  induction steps with
  | refl => rfl
  | tail _ step ih =>
      cases step with
      | told notice => exact ih
      | passed declared answered => exact (Budget.ceiling_record _ _).trans ih
      | failed declared refused => exact ih

theorem Cleans.named {span : Span σ ω} (cleans : cleanup.Cleans span) :
    span.summary.childTable = span.relation.childTable ∧
      span.summary.column = span.relation.column ∧
      span.summary.strategy = span.relation.strategy := by
  obtain ⟨counted, answered, summary⟩ := cleans
  obtain ⟨skipped, waited, results⟩ := cleanRelation_results answered
  have fold := results.counted
  rw [RelationSummary.foldl_count] at fold
  rw [summary, fold]
  exact ⟨rfl, rfl, rfl⟩

end Cleanup

namespace Cleanup

variable {ω : Type} {cleanup : Cleanup Store ω} (onStore : cleanup.storage = Store.storage)
  {registry : Registry} {relations : List Relation} {run final : Run Store ω}
  {spans : List (Span Store ω)} {overLimit : Bool}
include onStore

/-- The pass that ended the work is the one that brought the total of the budget to its ceiling. -/
theorem Spanned.reached (parents : cleanup.batch.parentIds ≠ [])
    (inTime : run.budget.InTime) (unspent : ¬ run.budget.isOverLimit)
    (spanned : Spanned cleanup relations run spans true final) :
    ∃ earlier last front entry, spans = earlier ++ [last] ∧
      last.summary.drained = false ∧ last.made = front ++ [entry] ∧
      last.before.budget.total + (front.map (·.affectedRows)).sum < run.budget.ceiling ∧
      run.budget.ceiling ≤ last.before.budget.total + (last.made.map (·.affectedRows)).sum := by
  obtain ⟨earlier, last, split, ended⟩ := spanned.exists_last rfl
  have member : last ∈ spans := by
    rw [split]
    exact List.mem_append_right _ List.mem_cons_self
  have cleans := spanned.cleans last member
  obtain ⟨listed, toSpan, _⟩ := (spanned.steps (fun _ member => member)).2 last member
  obtain ⟨skipped, waited, counted, results, summary, _, made, _⟩ :=
    cleans.exists_results onStore parents
  obtain ⟨front, entry, passes, below⟩ :=
    results.reached ended (spanned.before_within unspent last member)
  have charged (list : List PassResult) :
      ((list.map PassResult.entry).map (·.affectedRows)).sum =
        (list.map (·.affectedRows)).sum := by
    rw [List.map_map]
    rfl
  have toEnd : Steps cleanup relations run last.after := toSpan.trans (cleans.steps listed)
  have spent := (toEnd.inTime inTime).ceiling_le_total (results.spent ended)
  refine ⟨earlier, last, front.map PassResult.entry, entry.entry, split, ?_, ?_, ?_, ?_⟩
  · rw [summary, ended]
    rfl
  · rw [made, passes, List.map_append]
    rfl
  · rw [charged, ← toSpan.ceiling_eq]
    exact below
  · rw [made, charged, ← results.total_eq, ← toSpan.ceiling_eq, ← results.ceiling_eq]
    exact spent

/-- A relation that did not end the work is drained unless its waiting passes have all found rows
and were as many as are allowed. -/
theorem Cleans.drained_eq_false_iff {span : Span Store ω} (cleans : cleanup.Cleans span)
    (parents : cleanup.batch.parentIds ≠ [])
    (positive : cleanup.settings.maxPassesPerPhase ≠ some 0) (goes : span.phaseEnd ≠ .overLimit) :
    span.summary.drained = false ↔
      cleanup.settings.maxPassesPerPhase = some span.waiting.length ∧
        ∀ entry ∈ span.waiting, entry.affectedRows ≠ 0 := by
  obtain ⟨skipped, waited, counted, results, summary, _, _, waiting⟩ :=
    cleans.exists_results onStore parents
  rw [summary, waiting, List.length_map]
  cases ended : span.phaseEnd with
  | overLimit => exact absurd ended goes
  | drained =>
      obtain ⟨result, member, nothing⟩ := results.drained ended
      constructor
      · exact fun undrained => nomatch undrained
      · rintro ⟨_, filled⟩
        exact absurd nothing (filled result.entry (List.mem_map_of_mem member))
  | passLimit =>
      obtain ⟨filled, exactly⟩ := results.limited ended
      refine ⟨fun _ => ⟨exactly positive, ?_⟩, fun _ => rfl⟩
      intro entry member
      obtain ⟨result, ofWaited, rfl⟩ := List.mem_map.mp member
      exact filled result ofWaited

/-- A relation that was drained is clear of the keys of the batch from its end on. -/
theorem Spanned.clear (accepted : cleanup.settings.validate = .ok cleanup.settings)
    (spanned : Spanned cleanup relations run spans overLimit final) :
    ∀ span ∈ spans, span.summary.drained → ∀ key ∈ cleanup.batch.parentIds,
      span.after.state.IsClear span.relation key ∧ final.state.IsClear span.relation key := by
  intro span member drained key ofBatch
  have cleans := spanned.cleans span member
  obtain ⟨listed, toSpan, fromSpan⟩ := (spanned.steps (fun _ member => member)).2 span member
  have clear := (cleans.exhausts listed drained).isClear onStore accepted key ofBatch
  exact ⟨clear, (fromSpan.evolves_any onStore).isClear clear⟩

/-- What the outcome of a batch with records means, when the budget has something left at first and
time does not run out.  The budget ended the work, at the first relation with which its ceiling was
reached, and nothing is marked; or all relations were gone through, and some of them are not
drained, namely those whose waiting phase was stopped by its limit of passes, and nothing is
marked; or all relations are drained and the records are marked.  Marking leaves the budget below
its ceiling, and a relation that counts as drained has no child row left for any record. -/
theorem outcome_tells (accepted : cleanup.settings.validate = .ok cleanup.settings)
    (registry : Registry) {after : Run Store ω}
    (inTime : run.budget.InTime) (unspent : ¬ run.budget.isOverLimit)
    (records : cleanup.batch.records ≠ []) {outcome : BatchOutcome}
    (answered : cleanBatch cleanup registry run = (.ok outcome, after)) :
    outcome.Tells cleanup registry run after := by
  have parents := Batch.parentIds_ne_nil records
  have positive := (cleanup.settings.validate_ok_iff.mp accepted).2.2.2.2
  have keyed : ∀ record ∈ cleanup.batch.records, record.primaryKey ∈ cleanup.batch.parentIds :=
    fun record member => Batch.mem_parentIds.mpr ⟨record, member, rfl⟩
  obtain ⟨ids, range⟩ := Batch.exists_idRange? records
  cases cleanBatch_spanned range answered with
  | @left overLimit final spanned cause =>
      constructor
      · rfl
      · rfl
      · exact fun span member => (spanned.cleans span member).named
      · apply BatchOutcome.InOneWay.of_cases
        cases overLimit with
        | true =>
            exact Or.inl ⟨rfl, rfl, rfl, spanned.relations_prefix,
              spanned.reached onStore parents inTime unspent⟩
        | false =>
            obtain ⟨span, member, undrained⟩ := cause.resolve_left Bool.false_ne_true
            refine Or.inr (Or.inl ⟨rfl, rfl, rfl, spanned.relations_eq rfl, ?_, ?_⟩)
            · exact ⟨span, member, eq_false_of_ne_true undrained⟩
            · exact fun other ofSpans => (spanned.cleans other ofSpans).drained_eq_false_iff onStore
                parents positive (spanned.phaseEnd_ne rfl other ofSpans)
      · exact fun finalized => nomatch finalized
      · intro span member drained record ofBatch
        exact spanned.clear onStore accepted span member drained _ (keyed record ofBatch)
  | @marked final firstId lastId marked state _ spanned drained called =>
      have within := spanned.final_within rfl unspent
      have ceiling := (spanned.steps (fun _ member => member)).1.ceiling_eq
      constructor
      · rfl
      · rfl
      · exact fun span member => (spanned.cleans span member).named
      · exact .of_cases (Or.inr (Or.inr ⟨rfl, rfl, spanned.relations_eq rfl, drained⟩))
      · intro _
        rw [← ceiling]
        exact Budget.total_lt_ceiling within
      · intro span member wasDrained record ofBatch
        obtain ⟨here, last⟩ :=
          spanned.clear onStore accepted span member wasDrained _ (keyed record ofBatch)
        have marking : final.state.Evolves Mandate.any state := by
          have evolves := Store.markProcessed_evolves_any cleanup.batch.parentTable firstId lastId
            final.state
          rw [onStore] at called
          change Store.markProcessed _ firstId lastId final.state = _ at called
          rwa [called] at evolves
        exact ⟨here, marking.isClear last⟩

end Cleanup

/-- A cleanup that takes one row with each pass and makes one pass in each phase. -/
def Sample.hasty : Cleanup Store Unit :=
  { storage := Store.storage, observer := .silent
    settings := { deleteBatchSize := 1, maxPassesPerPhase := some 1 }
    batch := { parentTable := "public.users", records := [Sample.record] } }

/-- The two rows of the deleted parent are taken one by each phase, and no pass finds that none is
left. -/
theorem Cleanup.outcome_tells_in_sample :
    ∃ outcome after,
      cleanBatch Sample.hasty Sample.registry ⟨Sample.store, .ofCeiling 3, ()⟩
        = (.ok outcome, after) ∧
      outcome.relations = [⟨"posts", "user_id", .asyncDelete, 1, 1, 2, false⟩] ∧
      outcome.Tells Sample.hasty Sample.registry ⟨Sample.store, .ofCeiling 3, ()⟩ after := by
  have summaries : (cleanBatch Sample.hasty Sample.registry
      ⟨Sample.store, .ofCeiling 3, ()⟩).1.toOption.map (·.relations)
        = some [⟨"posts", "user_id", .asyncDelete, 1, 1, 2, false⟩] := by
    decide +kernel
  have inTime : (Budget.ofCeiling 3).InTime := by
    intro limit limited
    cases limited
  cases answered : cleanBatch Sample.hasty Sample.registry ⟨Sample.store, .ofCeiling 3, ()⟩ with
  | mk result after =>
      rw [answered] at summaries
      cases result with
      | error error => cases summaries
      | ok outcome =>
          exact ⟨outcome, after, rfl, Option.some.inj summaries,
            outcome_tells rfl rfl Sample.registry inTime (by decide)
              (List.cons_ne_nil _ _) answered⟩

end LooseKeys
