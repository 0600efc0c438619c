/-
Module: LooseKeys.Proofs.Spans
Purpose: The cleanup of a batch relation by relation, with the run that each begins and ends with.
Main exports: Span, Cleanup.spans, Cleanup.batchSpans, Cleanup.Spanned, cleanBatch_spanned,
  Span.made, Cleanup.Cleans.recorded
-/
import LooseKeys.Proofs.Batch.Construction
import LooseKeys.Proofs.Cleanup.Effects
import LooseKeys.Proofs.Phases

/-!
`Cleanup.spans` tells what a cleanup goes through: which relations it cleans up, and the runs
before and after each of them.  `Spanned` is the inductive view of it that the proofs use, with a
case for each way in which the cleanup of relations answers.  On the store in memory the passes
that are logged during a span are what its summary counts.
-/

namespace LooseKeys

variable {σ ω : Type}

/-- The cleanup of one relation, from the run that it begins with to the one that it ends with. -/
structure Span (σ ω : Type) where
  relation : Relation
  before : Run σ ω
  phaseEnd : PhaseEnd
  summary : RelationSummary
  after : Run σ ω

namespace Cleanup

/-- The relation that comes next in a run, once it is answered for. -/
def span (cleanup : Cleanup σ ω) (relation : Relation) (run : Run σ ω) (phaseEnd : PhaseEnd)
    (counted : RelationSummary) (after : Run σ ω) : Span σ ω :=
  { relation, before := run.tell cleanup.observer (.beforeRelation relation), phaseEnd,
    summary := { counted with drained := decide (phaseEnd = .drained) }, after }

/-- The run in which the end of a relation has been made known. -/
def told (cleanup : Cleanup σ ω) (span : Span σ ω) : Run σ ω :=
  span.after.tell cleanup.observer (.afterRelation span.relation span.summary)

/-- The relations that are cleaned up in order, until one of them fails or the budget ends the
work. -/
def spans (cleanup : Cleanup σ ω) : List Relation → Run σ ω → List (Span σ ω)
  | [], _ => []
  | relation :: rest, run =>
      match cleanRelation cleanup relation
          (run.tell cleanup.observer (.beforeRelation relation)) with
      | (.error _, _) => []
      | (.ok (phaseEnd, counted), after) =>
          let span := cleanup.span relation run phaseEnd counted after
          if phaseEnd = .overLimit then [span] else span :: cleanup.spans rest (cleanup.told span)

/-- The relations that are cleaned up for a batch; for an empty one there are none. -/
def batchSpans (cleanup : Cleanup σ ω) (registry : Registry) (run : Run σ ω) :
    List (Span σ ω) :=
  match cleanup.batch.idRange? with
  | none => []
  | some _ => cleanup.spans (registry.relationsFor cleanup.batch.parentTable) run

/-- Cleaning up the relation of the span leads from its first run to its last one. -/
def Cleans (cleanup : Cleanup σ ω) (span : Span σ ω) : Prop :=
  ∃ counted, cleanRelation cleanup span.relation span.before
      = (.ok (span.phaseEnd, counted), span.after) ∧
    span.summary = { counted with drained := decide (span.phaseEnd = .drained) }

/-- Relations that are all answered for, or up to the one at which the budget ended the work. -/
inductive Spanned (cleanup : Cleanup σ ω) :
    List Relation → Run σ ω → List (Span σ ω) → Bool → Run σ ω → Prop where
  | done (run : Run σ ω) : Spanned cleanup [] run [] false run
  | stopped {relation : Relation} {rest : List Relation} {run after : Run σ ω}
      {counted : RelationSummary}
      (cleaned : cleanup.Cleans (cleanup.span relation run .overLimit counted after)) :
      Spanned cleanup (relation :: rest) run [cleanup.span relation run .overLimit counted after]
        true (cleanup.told (cleanup.span relation run .overLimit counted after))
  | more {relation : Relation} {rest : List Relation} {run after final : Run σ ω}
      {phaseEnd : PhaseEnd} {counted : RelationSummary} {spans : List (Span σ ω)} {overLimit : Bool}
      (cleaned : cleanup.Cleans (cleanup.span relation run phaseEnd counted after))
      (goes : phaseEnd ≠ .overLimit)
      (others : Spanned cleanup rest
        (cleanup.told (cleanup.span relation run phaseEnd counted after)) spans overLimit final) :
      Spanned cleanup (relation :: rest) run
        (cleanup.span relation run phaseEnd counted after :: spans) overLimit final

end Cleanup

open Cleanup

variable {cleanup : Cleanup σ ω}

/-- Relations that are answered for are told of by their spans. -/
theorem cleanRelations_spanned {relations : List Relation} :
    ∀ {run final : Run σ ω} {summaries : List RelationSummary} {overLimit : Bool},
      cleanRelations cleanup relations run = (.ok (summaries, overLimit), final) →
      Spanned cleanup relations run (cleanup.spans relations run) overLimit final ∧
        summaries = (cleanup.spans relations run).map (·.summary) := by
  induction relations with
  | nil =>
      intro run final summaries overLimit answered
      cases answered
      exact ⟨.done run, rfl⟩
  | cons relation rest ih =>
      intro run final summaries overLimit answered
      rw [cleanRelations_cons_eq_andThen] at answered
      obtain ⟨⟨phaseEnd, counted⟩, after, cleaned, next⟩ := Reply.exists_of_andThen_eq_ok answered
      have cleans : cleanup.Cleans (cleanup.span relation run phaseEnd counted after) :=
        ⟨counted, cleaned, rfl⟩
      unfold spans
      simp only [cleaned] at next ⊢
      by_cases stops : phaseEnd = .overLimit
      · subst stops
        rw [if_pos rfl] at next ⊢
        cases next
        exact ⟨.stopped cleans, rfl⟩
      · rw [if_neg stops] at next ⊢
        obtain ⟨⟨others, overLimit'⟩, last, rested, form⟩ := Reply.exists_of_andThen_eq_ok next
        cases form
        obtain ⟨spanned, same⟩ := ih rested
        refine ⟨.more cleans stops spanned, ?_⟩
        rw [same]
        rfl

namespace Cleanup.Spanned

variable {relations todo : List Relation} {run final : Run σ ω} {spans : List (Span σ ω)}
  {overLimit : Bool}

theorem cleans (spanned : Spanned cleanup todo run spans overLimit final) :
    ∀ span ∈ spans, cleanup.Cleans span := by
  induction spanned with
  | done run => simp
  | stopped cleaned => exact List.forall_mem_singleton.mpr cleaned
  | more cleaned goes others ih => exact List.forall_mem_cons.mpr ⟨cleaned, ih⟩

/-- The relations are gone through in order. -/
theorem relations_prefix (spanned : Spanned cleanup todo run spans overLimit final) :
    spans.map (·.relation) <+: todo := by
  induction spanned with
  | done run => exact List.prefix_refl []
  | @stopped relation rest run after counted cleaned => exact ⟨rest, rfl⟩
  | more cleaned goes others ih => exact List.prefix_cons_inj _ |>.mpr ih

/-- All of them are, unless the budget ended the work. -/
theorem relations_eq (spanned : Spanned cleanup todo run spans overLimit final)
    (within : overLimit = false) : spans.map (·.relation) = todo := by
  induction spanned with
  | done run => rfl
  | stopped cleaned => cases within
  | more cleaned goes others ih => exact congrArg (List.cons _) (ih within)

theorem phaseEnd_ne (spanned : Spanned cleanup todo run spans overLimit final)
    (within : overLimit = false) : ∀ span ∈ spans, span.phaseEnd ≠ .overLimit := by
  induction spanned with
  | done run => simp
  | stopped cleaned => cases within
  | more cleaned goes others ih => exact List.forall_mem_cons.mpr ⟨goes, ih within⟩

/-- The budget ends the work with the last relation. -/
theorem exists_last (spanned : Spanned cleanup todo run spans overLimit final)
    (ended : overLimit = true) :
    ∃ earlier last, spans = earlier ++ [last] ∧ last.phaseEnd = .overLimit := by
  induction spanned with
  | done run => cases ended
  | @stopped relation rest run after counted cleaned => exact ⟨[], _, rfl, rfl⟩
  | more cleaned goes others ih =>
      obtain ⟨earlier, last, split, spent⟩ := ih ended
      exact ⟨_ :: earlier, last, by rw [split]; rfl, spent⟩

/-- Every relation begins within the limit of the budget, if the first one does. -/
theorem before_within (spanned : Spanned cleanup todo run spans overLimit final)
    (unspent : ¬ run.budget.isOverLimit) : ∀ span ∈ spans, ¬ span.before.budget.isOverLimit := by
  induction spanned with
  | done run => simp
  | stopped cleaned => exact List.forall_mem_singleton.mpr unspent
  | more cleaned goes others ih =>
      obtain ⟨counted, answered, _⟩ := cleaned
      obtain ⟨skipped, waited, results⟩ := cleanRelation_results answered
      exact List.forall_mem_cons.mpr ⟨unspent, ih (results.within goes)⟩

/-- Only the budget ends the work early. -/
theorem final_within (spanned : Spanned cleanup todo run spans overLimit final)
    (within : overLimit = false) (unspent : ¬ run.budget.isOverLimit) :
    ¬ final.budget.isOverLimit := by
  induction spanned with
  | done run => exact unspent
  | stopped cleaned => cases within
  | more cleaned goes others ih =>
      obtain ⟨counted, answered, _⟩ := cleaned
      obtain ⟨skipped, waited, results⟩ := cleanRelation_results answered
      exact ih within (results.within goes)

end Cleanup.Spanned

/-- A relation that is answered for was cleaned up by steps. -/
theorem Cleanup.PhaseEnds.steps {relations : List Relation} {relation : Relation} {mode : LockMode}
    {run after : Run σ ω} {phaseEnd : PhaseEnd} {counted : RelationSummary}
    {reply : Reply (Run σ ω) (PhaseEnd × RelationSummary)} (declared : relation ∈ relations)
    (ends : PhaseEnds cleanup relations relation mode run reply)
    (answered : reply = (.ok (phaseEnd, counted), after)) :
    Steps cleanup relations run after := by
  cases ends with
  | failed earlier refused => cases answered
  | drained earlier found nothing =>
      cases answered
      exact earlier.tail (.passed declared found)
  | overLimit steps spent =>
      cases answered
      exact steps
  | passLimit steps modified =>
      cases answered
      exact steps

/-- A relation that is drained was exhausted by its last pass. -/
theorem Cleanup.PhaseEnds.exhausts {relations : List Relation} {relation : Relation}
    {run after : Run σ ω} {counted : RelationSummary}
    {reply : Reply (Run σ ω) (PhaseEnd × RelationSummary)}
    (ends : PhaseEnds cleanup relations relation .blocking run reply)
    (answered : reply = (.ok (.drained, counted), after)) :
    Exhausts cleanup relations relation run after := by
  cases ends with
  | failed earlier refused => cases answered
  | drained earlier found nothing =>
      cases answered
      exact ⟨earlier, found, nothing, .refl⟩
  | overLimit steps spent => cases answered
  | passLimit steps modified => cases answered

namespace Cleanup

variable {relations todo : List Relation} {run final : Run σ ω} {spans : List (Span σ ω)}
  {overLimit : Bool} {span : Span σ ω}

theorem Cleans.steps (cleans : cleanup.Cleans span) (declared : span.relation ∈ relations) :
    Steps cleanup relations span.before span.after := by
  obtain ⟨counted, answered, _⟩ := cleans
  exact (cleanRelation_ends declared span.before).steps declared answered

/-- A relation that was drained was exhausted by a waiting pass that found no row. -/
theorem Cleans.exhausts (cleans : cleanup.Cleans span) (declared : span.relation ∈ relations)
    (drained : span.summary.drained) :
    Exhausts cleanup relations span.relation span.before span.after := by
  obtain ⟨counted, answered, summary⟩ := cleans
  rw [summary] at drained
  have ended : span.phaseEnd = .drained := of_decide_eq_true drained
  rw [ended] at answered
  exact (cleanRelation_ends declared span.before).exhausts answered

/-- The work goes by steps up to each relation and on from it. -/
theorem Spanned.steps (spanned : Spanned cleanup todo run spans overLimit final)
    (declared : ∀ relation ∈ todo, relation ∈ relations) :
    Steps cleanup relations run final ∧ ∀ span ∈ spans, span.relation ∈ relations ∧
      Steps cleanup relations run span.before ∧ Steps cleanup relations span.after final := by
  induction spanned with
  | done run => exact ⟨.refl, by simp⟩
  | @stopped relation rest run after counted cleaned =>
      have here := declared relation List.mem_cons_self
      have toSpan : Steps cleanup relations run
          (run.tell cleanup.observer (.beforeRelation relation)) := .single (.told run _)
      have fromSpan : Steps cleanup relations after (cleanup.told
          (cleanup.span relation run .overLimit counted after)) := .single (.told after _)
      exact ⟨(toSpan.trans (cleaned.steps here)).trans fromSpan,
        List.forall_mem_singleton.mpr ⟨here, toSpan, fromSpan⟩⟩
  | @more relation rest run after final phaseEnd counted spans overLimit cleaned goes others ih =>
      have here := declared relation List.mem_cons_self
      have toSpan : Steps cleanup relations run
          (run.tell cleanup.observer (.beforeRelation relation)) := .single (.told run _)
      obtain ⟨onward, each⟩ :=
        ih (fun other member => declared other (List.mem_cons_of_mem relation member))
      have fromSpan : Steps cleanup relations after final :=
        Relation.ReflTransGen.head (.told after _) onward
      have through := toSpan.trans (cleaned.steps here)
      refine ⟨through.trans fromSpan, List.forall_mem_cons.mpr ⟨⟨here, toSpan, fromSpan⟩, ?_⟩⟩
      intro other member
      obtain ⟨listed, earlier, later⟩ := each other member
      exact ⟨listed, (through.tail (.told after _)).trans earlier, later⟩

/-- How the cleanup of a batch with records answers. -/
inductive BatchSpanned (cleanup : Cleanup σ ω) (registry : Registry) (run : Run σ ω) :
    BatchOutcome → Run σ ω → Prop where
  | left {overLimit : Bool} {final : Run σ ω}
      (spanned : Spanned cleanup (registry.relationsFor cleanup.batch.parentTable) run
        (cleanup.batchSpans registry run) overLimit final)
      (cause : overLimit = true ∨
        ∃ span ∈ cleanup.batchSpans registry run, ¬ span.summary.drained) :
      BatchSpanned cleanup registry run
        { parentTable := cleanup.batch.parentTable, overLimit := overLimit,
          relations := (cleanup.batchSpans registry run).map (·.summary) } final
  | marked {final : Run σ ω} {firstId lastId : Int} {marked : Nat} {state : σ}
      (range : cleanup.batch.idRange? = some (firstId, lastId))
      (spanned : Spanned cleanup (registry.relationsFor cleanup.batch.parentTable) run
        (cleanup.batchSpans registry run) false final)
      (drained : ∀ span ∈ cleanup.batchSpans registry run, span.summary.drained)
      (answered : cleanup.storage.markProcessed cleanup.batch.parentTable firstId lastId final.state
        = (.ok marked, state)) :
      BatchSpanned cleanup registry run
        { parentTable := cleanup.batch.parentTable, finalized := true, markedProcessed := marked,
          relations := (cleanup.batchSpans registry run).map (·.summary) }
        (({ final with state } : Run σ ω).tell cleanup.observer
          (.finalized cleanup.batch.parentTable marked))

end Cleanup

theorem cleanBatch_spanned {registry : Registry} {run after : Run σ ω} {outcome : BatchOutcome}
    {ids : Int × Int} (range : cleanup.batch.idRange? = some ids)
    (answered : cleanBatch cleanup registry run = (.ok outcome, after)) :
    BatchSpanned cleanup registry run outcome after := by
  have spans : cleanup.batchSpans registry run
      = cleanup.spans (registry.relationsFor cleanup.batch.parentTable) run := by
    unfold batchSpans
    rw [range]
  rw [cleanBatch_eq_andThen, range] at answered
  obtain ⟨⟨summaries, overLimit⟩, final, cleaned, rest⟩ := Reply.exists_of_andThen_eq_ok answered
  obtain ⟨spanned, same⟩ := cleanRelations_spanned cleaned
  rw [← spans] at spanned same
  subst same
  split at rest
  · rename_i undone
    cases rest
    refine .left spanned ?_
    simpa [List.all_eq_true] using undone
  · rename_i done
    obtain ⟨marked, last, marking, told⟩ := Reply.exists_of_andThen_eq_ok rest
    obtain ⟨state, called, rfl⟩ := Reply.exists_of_onRun_eq marking
    cases told
    have both : overLimit = false ∧
        ∀ span ∈ cleanup.batchSpans registry run, span.summary.drained := by
      simpa [List.all_eq_true] using done
    obtain ⟨rfl, drained⟩ := both
    exact .marked range spanned drained called

namespace Batch

variable {batch : Batch} (records : batch.records ≠ [])
include records

theorem exists_idRange? : ∃ ids, batch.idRange? = some ids := by
  obtain ⟨parentTable, list⟩ := batch
  cases list with
  | nil => exact absurd rfl records
  | cons record rest =>
      unfold idRange? first? last?
      rw [List.head?_cons, List.getLast?_cons]
      exact ⟨_, rfl⟩

theorem parentIds_ne_nil : batch.parentIds ≠ [] := by
  obtain ⟨record, member⟩ := List.exists_mem_of_ne_nil _ records
  apply List.ne_nil_of_mem (a := record.primaryKey)
  exact mem_parentIds.mpr ⟨record, member, rfl⟩

end Batch

/-! ### Spans on the store in memory -/

/-- What is logged of a pass. -/
def PassResult.entry (result : PassResult) : PassEntry :=
  { table := result.table, lockMode := result.lockMode, affectedRows := result.affectedRows }

/-- The passes that are logged during a span. -/
def Span.made {ω : Type} (span : Span Store ω) : List PassEntry :=
  span.after.state.passes.drop span.before.state.passes.length

/-- The passes of a span that waited for locks. -/
def Span.waiting {ω : Type} (span : Span Store ω) : List PassEntry :=
  span.made.filter (·.lockMode = .blocking)

/-- The summary of a span counts the passes that were logged in it, and their rows by lock mode. -/
structure Span.Recorded {ω : Type} (span : Span Store ω) : Prop where
  appended : span.after.state.passes = span.before.state.passes ++ span.made
  passes : span.summary.passes = span.made.length
  skipLockedRows : span.summary.skipLockedRows =
    ((span.made.filter (·.lockMode = .skipLocked)).map (·.affectedRows)).sum
  blockingRows : span.summary.blockingRows = (span.waiting.map (·.affectedRows)).sum

theorem sum_filter_entry (mode : LockMode) (results : List PassResult) :
    (((results.map PassResult.entry).filter (·.lockMode = mode)).map (·.affectedRows)).sum =
      rowsIn mode results := by
  rw [List.filter_map, List.map_map]
  rfl

/-- A pass for at least one parent that answers is logged. -/
theorem Pass.passes_of_run_ok {pass : Pass} (parents : pass.parentIds ≠ []) {store after : Store}
    {result : PassResult} (answered : pass.run Store.storage store = (.ok result, after)) :
    after.passes = store.passes ++ [result.entry] := by
  rcases cases_of_run_ok answered with ⟨nobody, _⟩ | ⟨table, _, _, _, rfl, rfl⟩
  · exact absurd nobody parents
  · rfl

section OnStore

variable {ω : Type} {cleanup : Cleanup Store ω} (onStore : cleanup.storage = Store.storage)
include onStore

/-- So are passes in a row. -/
theorem Passes.logged {pass : Pass} {run later : Run Store ω} {results : List PassResult}
    (parents : pass.parentIds ≠ []) (passes : Passes cleanup pass run results later) :
    later.state.passes = run.state.passes ++ results.map PassResult.entry := by
  induction passes with
  | nil run => exact (List.append_nil _).symm
  | @more run later result after results answered rest ih =>
      rw [onStore] at answered
      have first : (run.counted cleanup.observer pass result after).state.passes
          = run.state.passes ++ [result.entry] := Pass.passes_of_run_ok parents answered
      rw [ih, first, List.map_cons, ← List.append_cons]

namespace Cleanup.Cleans

variable {span : Span Store ω} (cleans : cleanup.Cleans span)
  (parents : cleanup.batch.parentIds ≠ [])
include cleans parents

/-- What is logged during a span are the results of its relation. -/
theorem exists_results :
    ∃ skipped waited counted, RelationResults cleanup span.relation span.before skipped waited
        span.phaseEnd counted span.after ∧
      span.summary = { counted with drained := decide (span.phaseEnd = .drained) } ∧
      span.after.state.passes = span.before.state.passes ++ span.made ∧
      span.made = (skipped ++ waited).map PassResult.entry ∧
      span.waiting = waited.map PassResult.entry := by
  obtain ⟨counted, answered, summary⟩ := cleans
  obtain ⟨skipped, waited, results⟩ := cleanRelation_results answered
  obtain ⟨middle, first, second⟩ := results.passes
  have appended : span.after.state.passes =
      span.before.state.passes ++ (skipped ++ waited).map PassResult.entry := by
    rw [second.logged onStore parents, first.logged onStore parents, List.map_append,
      List.append_assoc]
  have made : span.made = (skipped ++ waited).map PassResult.entry := by
    unfold Span.made
    rw [appended, List.drop_left]
  have waiting : span.waiting = waited.map PassResult.entry := by
    have unwaited : skipped.filter (·.lockMode = .blocking) = [] := by
      apply List.filter_eq_nil_iff.mpr
      intro result member
      rw [decide_eq_true_eq, first.lockMode_eq result member]
      exact LockMode.noConfusion
    have all : waited.filter (·.lockMode = .blocking) = waited := by
      apply List.filter_eq_self.mpr
      intro result member
      exact decide_eq_true (second.lockMode_eq result member)
    have filtered : (skipped ++ waited).filter (·.lockMode = .blocking) = waited := by
      rw [List.filter_append, unwaited, all, List.nil_append]
    unfold Span.waiting
    rw [made, List.filter_map]
    exact congrArg (List.map PassResult.entry) filtered
  rw [← made] at appended
  exact ⟨skipped, waited, counted, results, summary, appended, made, waiting⟩

theorem recorded : span.Recorded := by
  obtain ⟨skipped, waited, counted, results, summary, appended, made, waiting⟩ :=
    cleans.exists_results onStore parents
  have fold := results.counted
  rw [RelationSummary.foldl_count] at fold
  subst fold
  constructor
  · exact appended
  · rw [summary, made, List.length_map]
    exact Nat.zero_add _
  · rw [summary, made, sum_filter_entry]
    exact Nat.zero_add _
  · unfold Span.waiting
    rw [summary, made, sum_filter_entry]
    exact Nat.zero_add _

end Cleanup.Cleans

end OnStore

end LooseKeys
