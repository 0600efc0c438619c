/-
Module: LooseKeys.Proofs.Notices
Purpose: What is made known while a batch is cleaned up, in which order, and how it fits the reply.
Main exports: Cleanup.chronicle, cleanBatch_replays, events, noticesOf, Cleanup.Announces,
  Cleanup.Concludes, Cleanup.announces_in_order
-/
import LooseKeys.Proofs.Batch
import LooseKeys.Proofs.Outcome

/-!
The chronicle of a cleanup has every notice in it, with the state of the storage at that moment.
An observer cannot do more than take notes, so the notes of any observer are those that it takes
of the chronicle.

Passes are announced too, but they are of no concern to the order of the other notices, the
events.  Each relation that is answered for brings two of them, its beginning and its end with its
summary.  A failing pass leaves a relation with its beginning alone, and a failing marking adds
nothing.  Only the marking is followed by the event of the finalization, and nothing follows that.
-/

namespace LooseKeys

variable {σ ω : Type}

/-! ### The chronicle -/

/-- Keeps every notice with the state in view of which it is made. -/
def Observer.chronicling : Observer σ (List (Notice × σ)) where
  note notice state chronicle := chronicle ++ [(notice, state)]

/-- The notes that an observer takes of a chronicle. -/
def Observer.replay (observer : Observer σ ω) (notes : ω) (chronicle : List (Notice × σ)) : ω :=
  chronicle.foldl (fun notes entry => observer.note entry.1 entry.2 notes) notes

theorem Observer.chronicling_simulates (observer : Observer σ ω) (notes : ω) :
    Observer.chronicling.Simulates observer (observer.replay notes) := by
  intro notice state chronicle
  exact List.foldl_append

/-- The same cleanup with everything kept that is made known. -/
def Cleanup.chronicled (cleanup : Cleanup σ ω) : Cleanup σ (List (Notice × σ)) :=
  ⟨cleanup.storage, .chronicling, cleanup.settings, cleanup.batch⟩

/-- The run as the chronicle of a cleanup begins with it. -/
def Run.unwritten (run : Run σ ω) : Run σ (List (Notice × σ)) := ⟨run.state, run.budget, []⟩

/-- All that is made known while a batch is cleaned up, in order. -/
def Cleanup.chronicle (cleanup : Cleanup σ ω) (registry : Registry) (run : Run σ ω) :
    List (Notice × σ) :=
  (cleanBatch cleanup.chronicled registry run.unwritten).2.notes

/-- A cleanup is the same with any observer, whose notes are taken of the chronicle. -/
theorem cleanBatch_replays (cleanup : Cleanup σ ω) (registry : Registry) (run : Run σ ω) :
    Reply.reading (cleanup.observer.replay run.notes)
        (cleanBatch cleanup.chronicled registry run.unwritten)
      = cleanBatch cleanup registry run :=
  cleanBatch_simulates (cleanup.observer.chronicling_simulates run.notes) registry run.unwritten

/-! ### Events -/

/-- What a chronicle has beside the announcements of passes. -/
def events (chronicle : List (Notice × σ)) : List Notice :=
  (chronicle.map Prod.fst).filter (·.pass?.isNone)

theorem events_announcement (chronicle : List (Notice × σ)) (pass : Pass) (budget : Budget)
    (state : σ) :
    events (chronicle ++ [(.passStarting pass budget, state)]) = events chronicle := by
  simp [events, Notice.pass?]

theorem events_concat (chronicle : List (Notice × σ)) {notice : Notice}
    (event : notice.pass? = none) (state : σ) :
    events (chronicle ++ [(notice, state)]) = events chronicle ++ [notice] := by
  simp [events, event]

/-- The events of relations that are gone through, each with its summary. -/
def noticesOf (relations : List Relation) (summaries : List RelationSummary) : List Notice :=
  (relations.zip summaries).flatMap (fun ended =>
    [.beforeRelation ended.1, .afterRelation ended.1 ended.2])

/-- A summary is of the relation that it names. -/
structure RelationSummary.IsOf (summary : RelationSummary) (relation : Relation) : Prop where
  childTable : summary.childTable = relation.childTable
  column : summary.column = relation.column
  strategy : summary.strategy = relation.strategy

namespace Cleanup

/-! ### Loops -/

section Loops

variable {cleanup : Cleanup σ (List (Notice × σ))} (keeps : cleanup.observer = .chronicling)
include keeps

/-- A phase announces passes and nothing else. -/
theorem events_runPhase (pass : Pass) (found : Nat) (summary : RelationSummary)
    (run : Run σ (List (Notice × σ))) :
    events (runPhase cleanup pass found summary run).2.notes = events run.notes := by
  have rounds := runPhase_rounds cleanup pass found summary run
  have announced (run : Run σ (List (Notice × σ))) :
      events (run.tell cleanup.observer (.passStarting pass run.budget)).notes
        = events run.notes := by
    rw [keeps]
    exact events_announcement run.notes pass run.budget run.state
  generalize runPhase cleanup pass found summary run = reply at rounds ⊢
  induction rounds with
  | failed refused => exact announced _
  | overLimit answered spent => exact announced _
  | drained answered within nothing => exact announced _
  | passLimit answered within affected limit => exact announced _
  | again answered within affected more rest ih => exact ih.trans (announced _)

theorem events_cleanRelation (relation : Relation) (run : Run σ (List (Notice × σ))) :
    events (cleanRelation cleanup relation run).2.notes = events run.notes := by
  rw [cleanRelation_eq_andThen]
  split
  · have first := events_runPhase keeps
      (Pass.plan cleanup.settings cleanup.batch relation .skipLocked) 0 (.ofRelation relation) run
    generalize runPhase cleanup (Pass.plan cleanup.settings cleanup.batch relation .skipLocked) 0
      (.ofRelation relation) run = reply at first ⊢
    obtain ⟨result, after⟩ := reply
    cases result with
    | error error => exact first
    | ok ended =>
        rw [Reply.andThen_ok]
        split
        · exact first
        · exact (events_runPhase keeps _ 0 _ after).trans first
  · exact events_runPhase keeps _ 0 _ run

omit keeps in
/-- A relation fails with the error of one of its passes. -/
theorem exists_pass_of_cleanRelation_eq_error {relation : Relation}
    {run after : Run σ (List (Notice × σ))} {error : CleanupError}
    (failed : cleanRelation cleanup relation run = (.error error, after)) :
    ∃ mode state, (cleanup.pass relation mode).run cleanup.storage state
      = (.error error, after.state) := by
  have ends : PhaseEnds cleanup [relation] relation .blocking run
      (cleanRelation cleanup relation run) :=
    cleanRelation_ends (List.mem_singleton_self relation) run
  rw [failed] at ends
  cases ends with
  | @failed before mode _ _ earlier refused => exact ⟨mode, before.state, refused⟩

end Loops

/-- How the cleanup of relations ends, and which events have followed earlier ones by then. -/
inductive Announcing (cleanup : Cleanup σ (List (Notice × σ))) (todo : List Relation)
    (earlier : List Notice) :
    Reply (Run σ (List (Notice × σ))) (List RelationSummary × Bool) → Prop where
  | answered {cleaned : List Relation} {summaries : List RelationSummary} {overLimit : Bool}
      {after : Run σ (List (Notice × σ))} (beginning : cleaned <+: todo)
      (named : List.Forall₂ RelationSummary.IsOf summaries cleaned)
      (whole : overLimit = false → cleaned = todo)
      (told : events after.notes = earlier ++ noticesOf cleaned summaries) :
      Announcing cleanup todo earlier (.ok (summaries, overLimit), after)
  | failed {cleaned rest : List Relation} {next : Relation} {summaries : List RelationSummary}
      {error : CleanupError} {after : Run σ (List (Notice × σ))} {mode : LockMode} {state : σ}
      (split : todo = cleaned ++ next :: rest)
      (named : List.Forall₂ RelationSummary.IsOf summaries cleaned)
      (told : events after.notes
        = earlier ++ noticesOf cleaned summaries ++ [.beforeRelation next])
      (refused : (cleanup.pass next mode).run cleanup.storage state
        = (.error error, after.state)) :
      Announcing cleanup todo earlier (.error error, after)

/-- One relation more in front of others that are cleaned up after it. -/
theorem Announcing.cons {cleanup : Cleanup σ (List (Notice × σ))} {relation : Relation}
    {rest : List Relation} {earlier : List Notice} {summary : RelationSummary}
    {reply : Reply (Run σ (List (Notice × σ))) (List RelationSummary × Bool)}
    (named : summary.IsOf relation)
    (announcing : Announcing cleanup rest
      (earlier ++ [.beforeRelation relation, .afterRelation relation summary]) reply) :
    Announcing cleanup (relation :: rest) earlier
      (reply.andThen fun others final => (.ok (summary :: others.1, others.2), final)) := by
  cases announcing with
  | answered beginning names whole told =>
      refine .answered (List.prefix_cons_inj relation |>.mpr beginning) (.cons named names) ?_ ?_
      · exact fun within => congrArg (List.cons relation) (whole within)
      · rw [told, List.append_assoc]
        rfl
  | @failed cleaned rest next summaries error after mode state split names told refused =>
      have named' :
          List.Forall₂ RelationSummary.IsOf (summary :: summaries) (relation :: cleaned) :=
        .cons named names
      refine .failed (congrArg (List.cons relation) split) named' ?_ refused
      rw [told, List.append_assoc, List.append_assoc, List.append_assoc]
      rfl

theorem cleanRelations_announcing {cleanup : Cleanup σ (List (Notice × σ))}
    (keeps : cleanup.observer = .chronicling) (relations : List Relation) :
    ∀ run : Run σ (List (Notice × σ)), Announcing cleanup relations (events run.notes)
      (cleanRelations cleanup relations run) := by
  induction relations with
  | nil =>
      intro run
      exact .answered (List.prefix_refl []) .nil (fun _ => rfl) (List.append_nil _).symm
  | cons relation rest ih =>
      intro run
      have begun : events (run.tell cleanup.observer (.beforeRelation relation)).notes
          = events run.notes ++ [.beforeRelation relation] := by
        rw [keeps]
        exact events_concat run.notes rfl run.state
      have cleaned := events_cleanRelation keeps relation
        (run.tell cleanup.observer (.beforeRelation relation))
      rw [begun] at cleaned
      rw [cleanRelations_cons_eq_andThen]
      cases reply : cleanRelation cleanup relation
          (run.tell cleanup.observer (.beforeRelation relation)) with
      | mk result after =>
          rw [reply] at cleaned
          cases result with
          | error error =>
              obtain ⟨mode, state, refused⟩ := exists_pass_of_cleanRelation_eq_error reply
              have split : relation :: rest = [] ++ relation :: rest := rfl
              have unsummed : List.Forall₂ RelationSummary.IsOf [] [] := .nil
              refine .failed split unsummed ?_ refused
              rw [cleaned]
              exact congrArg (· ++ _) (List.append_nil _).symm
          | ok ended =>
              obtain ⟨phaseEnd, counted⟩ := ended
              have cleans : cleanup.Cleans (cleanup.span relation run phaseEnd counted after) :=
                ⟨counted, reply, rfl⟩
              obtain ⟨childTable, column, strategy⟩ := cleans.named
              have named : (cleanup.span relation run phaseEnd counted after).summary.IsOf
                  relation := ⟨childTable, column, strategy⟩
              have told : events (cleanup.told
                  (cleanup.span relation run phaseEnd counted after)).notes
                  = events run.notes ++ [.beforeRelation relation, .afterRelation relation
                      (cleanup.span relation run phaseEnd counted after).summary] := by
                unfold Cleanup.told
                rw [keeps]
                refine (events_concat after.notes rfl after.state).trans ?_
                rw [cleaned, List.append_assoc]
                rfl
              simp only [Reply.andThen_ok]
              split
              · have beginning : [relation] <+: relation :: rest := ⟨rest, rfl⟩
                exact .answered beginning (.cons named .nil) (fun within => nomatch within) told
              · have others := ih (cleanup.told (cleanup.span relation run phaseEnd counted after))
                rw [told] at others
                exact others.cons named

/-! ### Batches -/

/-- The events of the cleanup of a batch, by the way in which it ends. -/
inductive Announces (cleanup : Cleanup σ ω) (declared : List Relation) (told : List Notice) :
    Reply (Run σ ω) BatchOutcome → Prop where
  /-- The relations of the outcome in order, each ended right after its beginning, and then the
  finalization if there was one. -/
  | answered {cleaned : List Relation} {outcome : BatchOutcome} {after : Run σ ω}
      (beginning : cleaned <+: declared)
      (named : List.Forall₂ RelationSummary.IsOf outcome.relations cleaned)
      (events : told = noticesOf cleaned outcome.relations ++
        if outcome.finalized then
          [.finalized cleanup.batch.parentTable outcome.markedProcessed]
        else []) :
      Announces cleanup declared told (.ok outcome, after)
  /-- Some of the relations, not all, and the beginning of the next one, a pass of which failed. -/
  | passFailed {cleaned rest : List Relation} {next : Relation}
      {summaries : List RelationSummary} {error : CleanupError} {after : Run σ ω}
      {mode : LockMode} {state : σ} (split : declared = cleaned ++ next :: rest)
      (named : List.Forall₂ RelationSummary.IsOf summaries cleaned)
      (events : told = noticesOf cleaned summaries ++ [.beforeRelation next])
      (refused : (cleanup.pass next mode).run cleanup.storage state
        = (.error error, after.state)) :
      Announces cleanup declared told (.error error, after)
  /-- All of the relations, which were drained; the marking failed. -/
  | markFailed {summaries : List RelationSummary} {error : CleanupError} {after : Run σ ω}
      {firstId lastId : Int} {state : σ}
      (named : List.Forall₂ RelationSummary.IsOf summaries declared)
      (drained : ∀ summary ∈ summaries, summary.drained)
      (events : told = noticesOf declared summaries)
      (range : cleanup.batch.idRange? = some (firstId, lastId))
      (refused : cleanup.storage.markProcessed cleanup.batch.parentTable firstId lastId state
        = (.error error, after.state)) :
      Announces cleanup declared told (.error error, after)

theorem cleanBatch_announces {cleanup : Cleanup σ (List (Notice × σ))}
    (keeps : cleanup.observer = .chronicling) (registry : Registry)
    {run : Run σ (List (Notice × σ))} (fresh : run.notes = []) :
    Announces cleanup (registry.relationsFor cleanup.batch.parentTable)
      (events (cleanBatch cleanup registry run).2.notes) (cleanBatch cleanup registry run) := by
  rw [cleanBatch_eq_andThen]
  cases range : cleanup.batch.idRange? with
  | none => exact .answered List.nil_prefix .nil (congrArg events fresh)
  | some ids =>
      obtain ⟨firstId, lastId⟩ := ids
      have announcing := cleanRelations_announcing keeps
        (registry.relationsFor cleanup.batch.parentTable) run
      rw [fresh] at announcing
      simp only
      generalize cleanRelations cleanup (registry.relationsFor cleanup.batch.parentTable) run
        = reply at announcing ⊢
      cases announcing with
      | failed split named told refused => exact .passFailed split named told refused
      | @answered cleaned summaries overLimit after beginning named whole told =>
          rw [Reply.andThen_ok]
          split
          · exact .answered beginning named (told.trans (List.append_nil _).symm)
          · rename_i done
            have both : overLimit = false ∧ ∀ summary ∈ summaries, summary.drained := by
              simpa [List.all_eq_true] using done
            cases whole both.1
            generalize marking : cleanup.storage.markProcessed cleanup.batch.parentTable firstId
              lastId after.state = reply
            obtain ⟨result, state⟩ := reply
            cases result with
            | error error => exact .markFailed named both.2 told range marking
            | ok marked =>
                refine .answered beginning named ?_
                unfold Reply.onRun
                rw [Reply.andThen_ok, keeps]
                refine (events_concat after.notes rfl state).trans ?_
                rw [told]
                rfl

/-! ### The finalization -/

theorem mem_events {chronicle : List (Notice × σ)} {notice : Notice} :
    notice ∈ events chronicle ↔ notice.pass? = none ∧ ∃ state, (notice, state) ∈ chronicle := by
  simp [events, and_comm]

/-- Of relations alone no finalization is made known. -/
theorem finalized_not_mem_noticesOf (relations : List Relation)
    (summaries : List RelationSummary) (table : String) (marked : Nat) :
    .finalized table marked ∉ noticesOf relations summaries := by
  simp [noticesOf]

/-- Relations that are answered for were cleaned up by steps. -/
theorem steps_of_cleanRelations {cleanup : Cleanup σ ω} {relations : List Relation}
    {run after : Run σ ω} {summaries : List RelationSummary} {overLimit : Bool}
    (answered : cleanRelations cleanup relations run = (.ok (summaries, overLimit), after)) :
    Steps cleanup relations run after :=
  ((cleanRelations_spanned answered).1.steps (fun _ member => member)).1

theorem Announcing.not_finalized {cleanup : Cleanup σ (List (Notice × σ))}
    {relations : List Relation}
    {reply : Reply (Run σ (List (Notice × σ))) (List RelationSummary × Bool)}
    (announcing : Announcing cleanup relations [] reply) (table : String) (marked : Nat)
    (state : σ) : (.finalized table marked, state) ∉ reply.2.notes := by
  intro member
  have event : Notice.finalized table marked ∈ events reply.2.notes :=
    mem_events.mpr ⟨rfl, state, member⟩
  cases announcing with
  | answered beginning named whole told =>
      rw [told, List.nil_append] at event
      exact finalized_not_mem_noticesOf _ _ table marked event
  | failed split named told refused =>
      rw [told, List.nil_append] at event
      rcases List.mem_append.mp event with ended | begun
      · exact finalized_not_mem_noticesOf _ _ table marked ended
      · cases List.mem_singleton.mp begun

/-- The finalization is the last notice.  It is made in the state that the cleanup leaves, which
the marking of the batch has just led to. -/
theorem exists_marking_of_finalized {cleanup : Cleanup σ (List (Notice × σ))}
    (keeps : cleanup.observer = .chronicling) {registry : Registry}
    {run : Run σ (List (Notice × σ))} (fresh : run.notes = []) {front later : List (Notice × σ)}
    {table : String} {marked : Nat} {state : σ}
    (split : (cleanBatch cleanup registry run).2.notes
      = front ++ (.finalized table marked, state) :: later) :
    later = [] ∧ (cleanBatch cleanup registry run).2.state = state ∧
      ∃ outcome, (cleanBatch cleanup registry run).1 = .ok outcome ∧ outcome.finalized ∧
        outcome.parentTable = table ∧ outcome.markedProcessed = marked ∧
        ∃ before firstId lastId, cleanup.batch.idRange? = some (firstId, lastId) ∧
          Steps cleanup (registry.relationsFor cleanup.batch.parentTable) run before ∧
          cleanup.storage.markProcessed table firstId lastId before.state
            = (.ok marked, state) := by
  have member : (.finalized table marked, state) ∈ (cleanBatch cleanup registry run).2.notes := by
    rw [split]
    exact List.mem_append_right _ List.mem_cons_self
  rw [cleanBatch_eq_andThen] at split member ⊢
  cases range : cleanup.batch.idRange? with
  | none =>
      simp only [range, fresh] at member
      exact absurd member List.not_mem_nil
  | some ids =>
      obtain ⟨firstId, lastId⟩ := ids
      have announcing := cleanRelations_announcing keeps
        (registry.relationsFor cleanup.batch.parentTable) run
      rw [fresh] at announcing
      simp only [range] at split member ⊢
      generalize cleaning : cleanRelations cleanup
        (registry.relationsFor cleanup.batch.parentTable) run = reply at announcing split member ⊢
      have earlier := announcing.not_finalized
      obtain ⟨result, after⟩ := reply
      cases result with
      | error error => exact absurd member (earlier table marked state)
      | ok ended =>
          obtain ⟨summaries, overLimit⟩ := ended
          rw [Reply.andThen_ok] at split member ⊢
          by_cases undone : (overLimit || !summaries.all (·.drained)) = true
          · rw [if_pos undone] at member
            exact absurd member (earlier table marked state)
          · rw [if_neg undone] at split member ⊢
            generalize marking : cleanup.storage.markProcessed cleanup.batch.parentTable firstId
              lastId after.state = reply at split member ⊢
            obtain ⟨result, next⟩ := reply
            cases result with
            | error error => exact absurd member (earlier table marked state)
            | ok count =>
                unfold Reply.onRun at split ⊢
                rw [Reply.andThen_ok, keeps] at split
                change after.notes ++ [(.finalized cleanup.batch.parentTable count, next)] = _
                  at split
                -- What comes after the finalization would put it among the earlier notices.
                rcases List.eq_nil_or_concat later with rfl | ⟨others, final, rfl⟩
                · obtain ⟨_, entry⟩ := List.append_inj' split rfl
                  cases entry
                  exact ⟨rfl, rfl, _, rfl, rfl, rfl, rfl, after, firstId, lastId, rfl,
                    steps_of_cleanRelations cleaning, marking⟩
                · rw [List.concat_eq_append, ← List.cons_append, ← List.append_assoc] at split
                  obtain ⟨among, _⟩ := List.append_inj' split rfl
                  refine absurd ?_ (earlier table marked state)
                  rw [among]
                  exact List.mem_append_right _ List.mem_cons_self

/-- The finalization of a batch, in view of a state of the store and before later notices: the
cleanup has marked all pending records in the range of the batch, and does no more. -/
structure Concludes (cleanup : Cleanup Store ω) (start : Store)
    (reply : Reply (Run Store ω) BatchOutcome) (table : String) (marked : Nat) (state : Store)
    (later : List (Notice × Store)) : Prop where
  last : later = []
  final : reply.2.state = state
  answered : ∃ outcome, reply.1 = .ok outcome ∧ outcome.finalized ∧ outcome.parentTable = table ∧
    outcome.markedProcessed = marked
  marked : ∃ firstId lastId, cleanup.batch.idRange? = some (firstId, lastId) ∧
    state.log = (start.afterMark table firstId lastId).log ∧
    ∀ record ∈ state.log, ¬ Store.isMarkable table firstId lastId record

/-- The order of events does not depend on who observes them. -/
theorem Announces.reading {cleanup : Cleanup σ ω} {declared : List Relation}
    {told : List Notice} {reply : Reply (Run σ (List (Notice × σ))) BatchOutcome}
    (announces : Announces cleanup.chronicled declared told reply)
    (read : List (Notice × σ) → ω) : Announces cleanup declared told (reply.reading read) := by
  cases announces with
  | answered beginning named events => exact .answered beginning named events
  | passFailed split named events refused => exact .passFailed split named events refused
  | markFailed named drained events range refused =>
      exact .markFailed named drained events range refused

/-- Whatever the store, the registry, the settings, the budget and the batch: the notes of any
observer are taken of the chronicle, the events in it are those of the reply, and when the
finalization is made known all pending records of the batch's table in its range of ids are marked,
and nothing is done after it. -/
theorem announces_in_order (observer : Observer Store ω) (settings : Settings) (batch : Batch)
    (registry : Registry) (run : Run Store ω) :
    let cleanup : Cleanup Store ω := ⟨Store.storage, observer, settings, batch⟩
    let reply := cleanBatch cleanup registry run
    let chronicle := cleanup.chronicle registry run
    reply.2.notes = observer.replay run.notes chronicle ∧
      cleanup.Announces (registry.relationsFor batch.parentTable) (events chronicle) reply ∧
      ∀ front table marked state later,
        chronicle = front ++ (.finalized table marked, state) :: later →
          cleanup.Concludes run.state reply table marked state later := by
  intro cleanup reply chronicle
  have same : Reply.reading (observer.replay run.notes)
      (cleanBatch cleanup.chronicled registry run.unwritten) = reply :=
    cleanBatch_replays cleanup registry run
  have keeps : cleanup.chronicled.observer = .chronicling := rfl
  refine ⟨(congrArg (·.2.notes) same).symm, ?_, ?_⟩
  · rw [← same]
    exact (cleanBatch_announces keeps registry rfl).reading _
  · intro front table marked state later split
    obtain ⟨last, final, outcome, answered, finalized, parentTable, counted, before, firstId,
      lastId, range, steps, marking⟩ := exists_marking_of_finalized keeps rfl split
    have log : before.state.log = run.state.log := steps.log_eq rfl
    have ended : state = before.state.afterMark table firstId lastId := by
      rcases Store.markProcessed_cases table firstId lastId before.state with
        ⟨reason, _, refused⟩ | ⟨_, done⟩
      · cases refused.symm.trans marking
      · cases done.symm.trans marking
        rfl
    rw [← same]
    refine ⟨last, final, ⟨outcome, answered, finalized, parentTable, counted⟩, firstId, lastId,
      range, ?_, ?_⟩
    · rw [ended]
      simp only [Store.log_afterMark_eq_map, log]
    · intro record member
      rw [ended] at member
      exact Store.not_isMarkable_of_mem_afterMark member

end Cleanup

/-- Passes that take one row each from the two rows of the deleted parent, and find none then. -/
theorem Cleanup.announces_in_order_in_sample :
    let cleanup : Cleanup Store Unit := ⟨Store.storage, .silent, { deleteBatchSize := 1 },
      { parentTable := "public.users", records := [Sample.record] }⟩
    let run : Run Store Unit := ⟨Sample.store, .ofCeiling 9, ()⟩
    let reply := cleanBatch cleanup Sample.registry run
    let chronicle := cleanup.chronicle Sample.registry run
    events chronicle =
        [.beforeRelation Sample.relation,
          .afterRelation Sample.relation ⟨"posts", "user_id", .asyncDelete, 2, 0, 4, true⟩,
          .finalized "public.users" 1] ∧
      cleanup.Announces (Sample.registry.relationsFor "public.users") (events chronicle) reply ∧
      chronicle = chronicle.dropLast ++ [(.finalized "public.users" 1, reply.2.state)] ∧
      cleanup.Concludes run.state reply "public.users" 1 reply.2.state [] := by
  intro cleanup run reply chronicle
  obtain ⟨_, announces, concludes⟩ := announces_in_order cleanup.observer cleanup.settings
    cleanup.batch Sample.registry run
  have last : chronicle = chronicle.dropLast ++ [(.finalized "public.users" 1, reply.2.state)] := by
    decide +kernel
  exact ⟨by decide +kernel, announces, last, concludes _ _ _ _ _ last⟩

end LooseKeys
