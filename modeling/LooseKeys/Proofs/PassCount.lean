/-
Module: LooseKeys.Proofs.PassCount
Purpose: How many passes a cleanup makes on a storage that answers as it likes.
Main exports: Budget.room, Run.Makes, Run.Repeats, runPhase_repeats,
  cleanBatch_makesWithin, sweepTables_makesWithin, Registry.passes_bounded
-/
import LooseKeys.Proofs.Batch
import LooseKeys.Proofs.Invocation
import LooseKeys.Proofs.Record
import LooseKeys.Proofs.Registry
import LooseKeys.Proofs.Rounds
import LooseKeys.Proofs.Sequence

/-!
A pass that lets its phase go on has found rows, and the budget is still below its ceiling, so it
has used up room of the budget that no other pass uses up.  Each phase makes at most one pass
beside these: the one that ends it.  So the passes of a cleanup are paid for by the room that the
budget had, and by the phases, two for each relation.  The room is shared by all tables of an
invocation, and `Run.Makes` adds up along calls in sequence: the passes of one call follow those of
the other, and so do their phases.  A limit of passes bounds each phase by itself.

Nothing is assumed of the storage: it may find rows for ever, or fail at any call.
-/

namespace LooseKeys

variable {σ α β : Type}

/-- The rows that may be modified before a budget reaches its ceiling. -/
def Budget.room (budget : Budget) : Nat := budget.ceiling - budget.total

/-- The phases of relations: each relation has two of them. -/
def phasesOf (relations : List Relation) : List Relation :=
  relations.flatMap fun relation => [relation, relation]

@[simp] theorem phasesOf_cons (relation : Relation) (rest : List Relation) :
    phasesOf (relation :: rest) = [relation, relation] ++ phasesOf rest := rfl

@[simp] theorem phasesOf_append (first second : List Relation) :
    phasesOf (first ++ second) = phasesOf first ++ phasesOf second :=
  List.flatMap_append

theorem length_phasesOf (relations : List Relation) :
    (phasesOf relations).length = 2 * relations.length := by
  induction relations with
  | nil => rfl
  | cons relation rest ih =>
      simp only [phasesOf_cons, List.length_append, List.length_cons, List.length_nil, ih]
      omega

theorem count_phasesOf (relation : Relation) (relations : List Relation) :
    (phasesOf relations).count relation = 2 * relations.count relation := by
  induction relations with
  | nil => rfl
  | cons other rest ih =>
      simp only [phasesOf_cons, List.count_append, List.count_cons, List.count_nil, ih]
      omega

/-- From a recorded run to a later one passes were made in the phases of some relations: beside
one pass for each phase, they were paid for by the room of the budget, and under a limit of passes
a relation has no more of them than its phases allow. -/
structure Run.Makes (limit : Option Nat) (phases : List Relation) (made : List Pass)
    (run later : Run σ (List Notice)) : Prop where
  passes : announced later.notes = announced run.notes ++ made
  charged : made.length + later.budget.room ≤ run.budget.room + phases.length
  limited : ∀ most, limit = some most → 1 ≤ most → ∀ relation,
    (made.map (·.relation)).count relation ≤ most * phases.count relation

/-- A call on a run makes its passes within the phases of some relations. -/
def Reply.MakesWithin (limit : Option Nat) (phases : List Relation) (run : Run σ (List Notice))
    (reply : Reply (Run σ (List Notice)) α) : Prop :=
  ∃ made, run.Makes limit phases made reply.2

section Accounts

variable {limit : Option Nat} {phases others : List Relation} {made more : List Pass}
  {run middle later : Run σ (List Notice)}

/-- Where no pass is announced and nothing is charged, nothing is to be paid for. -/
theorem Run.Makes.still (notes : announced later.notes = announced run.notes)
    (room : later.budget.room = run.budget.room) : run.Makes limit phases [] later where
  passes := by rw [notes, List.append_nil]
  charged := by
    rw [room, List.length_nil]
    omega
  limited := by simp

theorem Run.Makes.trans (first : run.Makes limit phases made middle)
    (second : middle.Makes limit others more later) :
    run.Makes limit (phases ++ others) (made ++ more) later where
  passes := by rw [second.passes, first.passes, List.append_assoc]
  charged := by
    have earlier := first.charged
    have afterwards := second.charged
    simp only [List.length_append]
    omega
  limited := by
    intro most limited positive relation
    have earlier := first.limited most limited positive relation
    have afterwards := second.limited most limited positive relation
    rw [List.map_append, List.count_append, List.count_append, Nat.mul_add]
    omega

/-- Phases that are not entered allow the more. -/
theorem Run.Makes.mono (makes : run.Makes limit phases made later)
    (within : phases.Sublist others) : run.Makes limit others made later where
  passes := makes.passes
  charged := Nat.le_trans makes.charged (Nat.add_le_add_left within.length_le _)
  limited := fun most limited positive relation =>
    Nat.le_trans (makes.limited most limited positive relation)
      (Nat.mul_le_mul_left most (within.count_le relation))

/-- The account of a run with nothing on record, in which each relation has its two phases. -/
theorem Run.Makes.bounded {phased : List Relation} {state : σ} {budget : Budget}
    (makes : Run.Makes limit (phasesOf phased) made ⟨state, budget, []⟩ later)
    (once : phased.Nodup) :
    (announced later.notes).length ≤ budget.room + 2 * phased.length ∧
      ∀ most, limit = some most → 1 ≤ most → ∀ relation,
        ((announced later.notes).map (·.relation)).count relation ≤ 2 * most := by
  have all : announced later.notes = made := makes.passes
  rw [all]
  constructor
  · have charged := makes.charged
    rw [length_phasesOf] at charged
    dsimp only at charged
    omega
  · intro most limited positive relation
    have bound := makes.limited most limited positive relation
    have single := List.nodup_iff_count_le_one.mp once relation
    rw [count_phasesOf] at bound
    calc (made.map (·.relation)).count relation
        ≤ most * (2 * phased.count relation) := bound
      _ ≤ most * 2 := Nat.mul_le_mul_left most (by omega)
      _ = 2 * most := Nat.mul_comm most 2

theorem Run.makes_tell {notice : Notice} (other : notice.pass? = none) :
    run.Makes limit phases [] (run.tell .recording notice) :=
  .still (announced_of_other run.notes other) rfl

namespace Reply.MakesWithin

variable {reply : Reply (Run σ (List Notice)) α}

theorem still (notes : announced reply.2.notes = announced run.notes)
    (room : reply.2.budget.room = run.budget.room) : reply.MakesWithin limit phases run :=
  ⟨[], .still notes room⟩

/-- A call on the storage that is not a pass. -/
theorem onRun (reply : Reply σ α) (run : Run σ (List Notice)) :
    (reply.onRun run).MakesWithin limit phases run :=
  .still rfl rfl

theorem mono (makes : reply.MakesWithin limit phases run) (within : phases.Sublist others) :
    reply.MakesWithin limit others run :=
  let ⟨made, account⟩ := makes
  ⟨made, account.mono within⟩

/-- What happens before a call without a pass is not counted. -/
theorem before (makes : reply.MakesWithin limit phases middle)
    (quiet : run.Makes limit [] [] middle) : reply.MakesWithin limit phases run :=
  let ⟨made, account⟩ := makes
  ⟨made, quiet.trans account⟩

/-- Calls in sequence have the phases of both. -/
theorem andThen (makes : reply.MakesWithin limit phases run)
    {next : α → Run σ (List Notice) → Reply (Run σ (List Notice)) β}
    (goesOn : ∀ answer middle, (next answer middle).MakesWithin limit others middle) :
    (reply.andThen next).MakesWithin limit (phases ++ others) run := by
  obtain ⟨made, first⟩ := makes
  obtain ⟨result, middle⟩ := reply
  cases result with
  | error error => exact ⟨made, first.mono (List.sublist_append_left phases others)⟩
  | ok answer =>
      obtain ⟨more, second⟩ := goesOn answer middle
      exact ⟨made ++ more, first.trans second⟩

/-- A call without a pass comes first. -/
theorem andThen_of_quiet (quiet : reply.MakesWithin limit [] run)
    {next : α → Run σ (List Notice) → Reply (Run σ (List Notice)) β}
    (goesOn : ∀ answer middle, (next answer middle).MakesWithin limit phases middle) :
    (reply.andThen next).MakesWithin limit phases run :=
  quiet.andThen goesOn

/-- A call without a pass comes last. -/
theorem andThen_quiet (makes : reply.MakesWithin limit phases run)
    {next : α → Run σ (List Notice) → Reply (Run σ (List Notice)) β}
    (quiet : ∀ answer middle, (next answer middle).MakesWithin limit [] middle) :
    (reply.andThen next).MakesWithin limit phases run := by
  rw [← List.append_nil phases]
  exact makes.andThen quiet

end Reply.MakesWithin

end Accounts

section Phase

variable {storage : Storage σ} {settings : Settings} {batch : Batch}

/-- From a recorded run to a later one a phase repeated its pass: all rounds but one used up room
of the budget, and a limit of passes counts them together with those that have found rows. -/
structure Run.Repeats (limit : Option Nat) (pass : Pass) (found rounds : Nat)
    (run later : Run σ (List Notice)) : Prop where
  passes : announced later.notes = announced run.notes ++ List.replicate rounds pass
  charged : rounds + later.budget.room ≤ run.budget.room + 1
  limited : ∀ most, limit = some most → found < most → found + rounds ≤ most

namespace Run.Repeats

variable {limit : Option Nat} {pass : Pass} {found rounds : Nat}
  {run middle later : Run σ (List Notice)}

/-- The pass that ends a phase, whatever it finds. -/
theorem once (notes : later.notes = run.notes ++ [.passStarting pass run.budget])
    (room : later.budget.room ≤ run.budget.room) : run.Repeats limit pass found 1 later where
  passes := by rw [notes, announced_passStarting, List.replicate_one]
  charged := by omega
  limited := fun _ _ less => less

/-- A pass after which the phase goes on. -/
theorem again (notes : middle.notes = run.notes ++ [.passStarting pass run.budget])
    (room : middle.budget.room < run.budget.room)
    (more : ∀ most, limit = some most → found + 1 < most)
    (rest : middle.Repeats limit pass (found + 1) rounds later) :
    run.Repeats limit pass found (rounds + 1) later where
  passes := by
    rw [rest.passes, notes, announced_passStarting, List.replicate_succ, List.append_assoc,
      List.singleton_append]
  charged := by
    have afterwards := rest.charged
    omega
  limited := by
    intro most limited _
    have afterwards := rest.limited most limited (more most limited)
    omega

/-- The rounds of a phase from its start are passes of one phase. -/
theorem makes (repeats : run.Repeats limit pass 0 rounds later) :
    run.Makes limit [pass.relation] (List.replicate rounds pass) later where
  passes := repeats.passes
  charged := by
    have charged := repeats.charged
    simp only [List.length_replicate, List.length_singleton]
    omega
  limited := by
    intro most limited positive relation
    have rounds := repeats.limited most limited positive
    rw [List.map_replicate, List.count_replicate, List.count_singleton]
    split
    · omega
    · omega

end Run.Repeats

/-- Rows that are found use up room of the budget, as far as there is any. -/
theorem Budget.room_record_tick (budget : Budget) (result : PassResult) :
    (budget.record result).tick.room = budget.room - result.affectedRows := by
  simp only [room, ceiling_tick, ceiling_record, total_tick, total_record]
  omega

theorem runPhase_repeats (pass : Pass) (found : Nat) (summary : RelationSummary)
    (run : Run σ (List Notice)) :
    ∃ rounds, run.Repeats settings.maxPassesPerPhase pass found rounds
      (runPhase ⟨storage, .recording, settings, batch⟩ pass found summary run).2 := by
  have less : ∀ {run : Run σ (List Notice)} {result : PassResult},
      (run.budget.record result).tick.room ≤ run.budget.room := by
    intro run result
    rw [Budget.room_record_tick]
    exact Nat.sub_le _ _
  let cleanup : Cleanup σ (List Notice) := ⟨storage, .recording, settings, batch⟩
  have rounds := runPhase_rounds cleanup pass found summary run
  change ∃ rounds, run.Repeats _ pass found rounds (runPhase cleanup pass found summary run).2
  generalize runPhase cleanup pass found summary run = reply at rounds ⊢
  induction rounds with
  | failed refused => exact ⟨1, .once rfl (Nat.le_refl _)⟩
  | overLimit answered spent => exact ⟨1, .once rfl less⟩
  | drained answered unspent nothing => exact ⟨1, .once rfl less⟩
  | passLimit answered unspent affected limit => exact ⟨1, .once rfl less⟩
  | @again found summary run result after reply answered unspent affected more rest ih =>
      obtain ⟨rounds, repeats⟩ := ih
      refine ⟨rounds + 1, .again rfl ?_ ?_ repeats⟩
      · have below := Budget.total_lt_ceiling unspent
        simp only [Budget.total_tick, Budget.ceiling_tick, Budget.total_record,
          Budget.ceiling_record] at below
        change (run.budget.record result).tick.room < run.budget.room
        rw [Budget.room_record_tick, Budget.room]
        omega
      · intro most limited
        simpa [cleanup, limited] using more

end Phase

section Loops

variable {storage : Storage σ} {settings : Settings}

theorem runPhase_makesWithin {batch : Batch} (relation : Relation) (mode : LockMode)
    (summary : RelationSummary) (run : Run σ (List Notice)) :
    (runPhase ⟨storage, .recording, settings, batch⟩ (Pass.plan settings batch relation mode) 0
      summary run).MakesWithin settings.maxPassesPerPhase [relation] run :=
  let ⟨_, repeats⟩ := runPhase_repeats (Pass.plan settings batch relation mode) 0 summary run
  ⟨_, repeats.makes⟩

theorem cleanRelation_makesWithin {batch : Batch} (relation : Relation)
    (run : Run σ (List Notice)) :
    (cleanRelation ⟨storage, .recording, settings, batch⟩ relation run).MakesWithin
      settings.maxPassesPerPhase [relation, relation] run := by
  rw [cleanRelation_eq_andThen]
  split
  · refine (runPhase_makesWithin relation .skipLocked _ run).andThen ?_
    intro ended middle
    split
    · exact .still rfl rfl
    · exact runPhase_makesWithin relation .blocking ended.2 middle
  · exact (runPhase_makesWithin relation .blocking _ run).mono
      (List.sublist_cons_self relation [relation])

theorem cleanRelations_makesWithin {batch : Batch} (relations : List Relation)
    (run : Run σ (List Notice)) :
    (cleanRelations ⟨storage, .recording, settings, batch⟩ relations run).MakesWithin
      settings.maxPassesPerPhase (phasesOf relations) run := by
  induction relations generalizing run with
  | nil => exact .still rfl rfl
  | cons relation rest ih =>
      rw [cleanRelations_cons_eq_andThen]
      have told : run.Makes settings.maxPassesPerPhase [] []
          (run.tell .recording (.beforeRelation relation)) := Run.makes_tell rfl
      refine ((cleanRelation_makesWithin relation _).andThen ?_).before told
      intro ended middle
      have told : ∀ summary, middle.Makes settings.maxPassesPerPhase [] []
          (middle.tell .recording (.afterRelation relation summary)) :=
        fun summary => Run.makes_tell rfl
      simp only
      split
      · exact Reply.MakesWithin.before (.still rfl rfl) (told _)
      · exact ((ih _).andThen_quiet fun others final => .still rfl rfl).before (told _)

theorem cleanBatch_makesWithin (batch : Batch) (registry : Registry)
    (run : Run σ (List Notice)) :
    (cleanBatch ⟨storage, .recording, settings, batch⟩ registry run).MakesWithin
      settings.maxPassesPerPhase (phasesOf (registry.relationsFor batch.parentTable)) run := by
  rw [cleanBatch_eq_andThen]
  split
  · exact .still rfl rfl
  · refine (cleanRelations_makesWithin _ run).andThen_quiet ?_
    intro ended middle
    split
    · exact .still rfl rfl
    · refine (Reply.MakesWithin.onRun _ middle).andThen_of_quiet ?_
      intro marked final
      exact ⟨[], Run.makes_tell rfl⟩

theorem sweepTables_makesWithin (registry : Registry) (delays : List Nat) (tables : List String)
    (run : Run σ (List Notice)) :
    (sweepTables ⟨storage, .recording, registry, settings, delays⟩ tables run).MakesWithin
      settings.maxPassesPerPhase (phasesOf (tables.flatMap registry.relationsFor)) run := by
  induction tables generalizing run with
  | nil => exact .still rfl rfl
  | cons parentTable rest ih =>
      rw [sweepTables_cons_eq_andThen, List.flatMap_cons, phasesOf_append]
      have ticked : run.Makes settings.maxPassesPerPhase [] []
          { run with budget := run.budget.tick } := .still rfl rfl
      refine Reply.MakesWithin.before ?_ ticked
      simp only
      split
      · exact .still rfl rfl
      · refine (Reply.MakesWithin.onRun _ _).andThen_of_quiet ?_
        intro records loaded
        split
        · exact (ih loaded).mono (List.sublist_append_right _ _)
        · cases made : Batch.ofRecords parentTable records with
          | error error => exact .still rfl rfl
          | ok batch =>
              have table := Batch.parentTable_of_ofRecords made
              simp only
              rw [← table]
              refine (cleanBatch_makesWithin batch registry loaded).andThen ?_
              intro outcome middle
              split
              · exact .still rfl rfl
              · exact (ih middle).andThen_quiet fun others final => .still rfl rfl

theorem Sweep.run_makesWithin (registry : Registry) (delays : List Nat) (state : σ)
    (notes : List Notice) :
    let sweep : Sweep σ (List Notice) := ⟨storage, .recording, registry, settings, delays⟩
    (sweep.run state notes).MakesWithin settings.maxPassesPerPhase
      (phasesOf (registry.parentTables.flatMap registry.relationsFor))
      ⟨state, sweep.budget, notes⟩ := by
  intro sweep
  rw [Sweep.run_eq_andThen]
  exact (sweepTables_makesWithin registry delays registry.parentTables _).andThen_quiet
    fun ended after => .still rfl rfl

end Loops

/-- However the storage answers, the cleanup of a batch ends after at most as many passes as rows
may still be modified, and two more for each relation of the parent table.  An invocation makes at
most as many passes as rows may be modified, and two more for each relation.  Under a limit of
passes either makes at most twice as many passes for any relation.  The passes are counted on
record, and the calls on child tables that reach the storage are those of the passes on record. -/
theorem Registry.passes_bounded (registry : Registry) (storage : Storage σ) (settings : Settings) :
    (∀ (batch : Batch) (state : σ) (budget : Budget),
      let made := announced
        (cleanBatch ⟨storage, .recording, settings, batch⟩ registry ⟨state, budget, []⟩).2.notes
      made.length ≤ (budget.ceiling - budget.total)
          + 2 * (registry.relationsFor batch.parentTable).length ∧
        ∀ most, settings.maxPassesPerPhase = some most → 1 ≤ most → ∀ relation,
          (made.map (·.relation)).count relation ≤ 2 * most) ∧
    (∀ (state : σ) (delays : List Nat),
      let made := announced
        (Sweep.run ⟨storage, .recording, registry, settings, delays⟩ state []).2.notes
      made.length ≤ settings.maxModifications + 2 * registry.size ∧
        ∀ most, settings.maxPassesPerPhase = some most → 1 ≤ most → ∀ relation,
          (made.map (·.relation)).count relation ≤ 2 * most) ∧
    ∀ interfere : Nat → σ → σ,
      (∀ (batch : Batch) (state : σ) (budget : Budget),
        (cleanBatch ⟨storage.journaled interfere, .recording, settings, batch⟩ registry
          ⟨{ state }, budget, []⟩).2.OnRecord) ∧
      ∀ (state : σ) (delays : List Nat),
        (Sweep.run ⟨storage.journaled interfere, .recording, registry, settings, delays⟩
          { state } []).2.OnRecord := by
  refine ⟨?_, ?_, ?_⟩
  · intro batch state budget
    let cleanup : Cleanup σ (List Notice) := ⟨storage, .recording, settings, batch⟩
    have counted : (cleanBatch cleanup registry ⟨state, budget, []⟩).MakesWithin
        settings.maxPassesPerPhase (phasesOf (registry.relationsFor batch.parentTable))
        ⟨state, budget, []⟩ := cleanBatch_makesWithin batch registry _
    obtain ⟨made, makes⟩ := counted
    exact makes.bounded (registry.nodup_relationsFor batch.parentTable)
  · intro state delays
    let sweep : Sweep σ (List Notice) := ⟨storage, .recording, registry, settings, delays⟩
    have counted : (sweep.run state []).MakesWithin settings.maxPassesPerPhase
        (phasesOf (registry.parentTables.flatMap registry.relationsFor))
        ⟨state, sweep.budget, []⟩ :=
      Sweep.run_makesWithin registry delays state []
    rw [registry.flatMap_relationsFor] at counted
    obtain ⟨made, makes⟩ := counted
    exact makes.bounded registry.nodup_relations
  · intro interfere
    constructor
    · exact fun batch state budget =>
        cleanBatch_onRecord storage interfere settings registry batch state budget
    · exact fun state delays => Sweep.run_onRecord storage interfere settings registry delays state

namespace Sample

/-- A storage that finds another row in every pass. -/
def endless : Storage Unit where
  deleteChildren _ _ _ _ _ := (.ok 1, ())
  nullifyChildren _ _ _ _ _ := (.ok 1, ())
  markProcessed _ _ _ _ := (.ok 1, ())
  loadPending _ _ _ := (.ok [record], ())

/-- Settings under which each phase has at most three passes that find rows. -/
def patient : Settings := { maxPassesPerPhase := some 3 }

end Sample

/-- On a storage that finds rows for ever, the limit of passes is reached and ends both phases. -/
theorem passes_bounded_in_sample :
    let made := announced
      (Sweep.run ⟨Sample.endless, .recording, Sample.registry, Sample.patient, []⟩ () []).2.notes
    made.length ≤ 100000 + 2 * 1 ∧
      (made.map (·.relation)).count Sample.relation ≤ 2 * 3 ∧
      (made.map (·.relation)).count Sample.relation = 2 * 3 := by
  obtain ⟨_, swept, _⟩ := Sample.registry.passes_bounded Sample.endless Sample.patient
  obtain ⟨total, each⟩ := swept () []
  exact ⟨total, each 3 rfl (by decide) Sample.relation, by decide +kernel⟩

end LooseKeys
