/-
Module: LooseKeys.Proofs.Worker
Purpose: A worker stops when it is told to, pauses unless there is work left, and goes on without
  a pause no more often than there is work for.
Main exports: Worker.Event, Worker.Step, Worker.Trace, Worker.run_trace, Worker.Trace.run,
  Worker.Orderly, Worker.continuations, Worker.Conditions, Worker.never_spins
-/
import LooseKeys.Proofs.Exchange
import LooseKeys.Proofs.Invocation
import LooseKeys.Worker

/-!
The loop of a worker is taken apart into steps: it looks whether it shall stop, runs an
invocation, and pauses.  `Trace` is any number of steps, and says the same of a worker as
`Worker.run` does (`run_trace`, `Trace.run`).

An invocation is followed by another one without a pause only when it stopped on the budget.  By
then it has taken as many references off the store as the budget allows modifications, and nothing
ever puts one back.  So the references at the start pay for all that the worker does without a
pause.
-/

namespace LooseKeys.Worker

variable {ω : Type}

/-! ### Steps -/

/-- What can be seen of a step of a worker. -/
inductive Event where
  | looked (stopping : Bool)
  | invoked (result : Except CleanupError SweepReport)
  | paused (length elapsed : Nat)

/-- The action that an event stands for; a look that finds no reason to stop is none. -/
def Event.action? : Event → Option Action
  | .looked stopping => if stopping then some .stopped else none
  | .invoked result => some (.invoked result)
  | .paused length elapsed => some (.paused length elapsed)

/-- Where a worker is in its loop. -/
inductive Place where
  /-- About to look whether it shall stop. -/
  | head
  /-- About to run an invocation. -/
  | ready
  /-- About to pause for some time. -/
  | resting (length : Nat)
  | done
deriving DecidableEq, Repr

section Steps

variable (worker : Worker) (around : Surroundings ω)

/-- One step of a worker, from its place in a world to the next. -/
inductive Step : Place × ω → Event → Place × ω → Prop where
  | stop {world : ω} (stopping : around.isStopping world) :
      Step (.head, world) (.looked true) (.done, world)
  | go {world : ω} (on : ¬ around.isStopping world) :
      Step (.head, world) (.looked false) (.ready, world)
  | again {world after : ω} {result : Except CleanupError SweepReport}
      (invoked : around.invoke world = (result, after))
      (noPause : worker.pauseAfter? result = none) :
      Step (.ready, world) (.invoked result) (.head, after)
  | rest {world after : ω} {result : Except CleanupError SweepReport} {length : Nat}
      (invoked : around.invoke world = (result, after))
      (pausing : worker.pauseAfter? result = some length) :
      Step (.ready, world) (.invoked result) (.resting length, after)
  | wake {world after : ω} {length elapsed : Nat}
      (paused : around.pause length world = (elapsed, after)) :
      Step (.resting length, world) (.paused length elapsed) (.head, after)

/-- Any number of steps, with what can be seen of them. -/
inductive Trace : Place × ω → List Event → Place × ω → Prop where
  | nil (here : Place × ω) : Trace here [] here
  | more {here next last : Place × ω} {event : Event} {events : List Event}
      (step : Step worker around here event next) (rest : Trace next events last) :
      Trace here (event :: events) last

/-- What a worker does from a place in its loop on, up to a number of turns. -/
def continued (turns : Nat) : Place × ω → List Action
  | (.head, world) => (worker.run around turns world).1
  | (.ready, world) =>
      .invoked (around.invoke world).1 ::
        match worker.pauseAfter? (around.invoke world).1 with
        | none => (worker.run around turns (around.invoke world).2).1
        | some length =>
            .paused length (around.pause length (around.invoke world).2).1 ::
              (worker.run around turns (around.pause length (around.invoke world).2).2).1
  | (.resting length, world) =>
      .paused length (around.pause length world).1 ::
        (worker.run around turns (around.pause length world).2).1
  | (.done, _) => []

end Steps

variable {worker : Worker} {around : Surroundings ω} {here last : Place × ω}
  {events : List Event}

/-- A turn of the loop is a look, and what follows it. -/
theorem run_succ (worker : Worker) (around : Surroundings ω) (turns : Nat) (world : ω) :
    (worker.run around (turns + 1) world).1 =
      if around.isStopping world then [.stopped]
      else worker.continued around turns (.ready, world) := by
  unfold run continued
  split
  · rfl
  · simp only
    split
    · rename_i noPause
      rw [noPause]
    · rename_i length pausing
      rw [pausing]

section Turns

variable {world after later : ω} {result : Except CleanupError SweepReport} {length elapsed : Nat}
  (turns : Nat)

/-- The turn in which a worker finds that it shall stop. -/
theorem run_of_isStopping (stopping : around.isStopping world) :
    worker.run around (turns + 1) world = ([.stopped], world) := by
  unfold run
  rw [if_pos stopping]

/-- A turn without a pause. -/
theorem run_of_pauseAfter?_eq_none (on : ¬ around.isStopping world)
    (invoked : around.invoke world = (result, after))
    (noPause : worker.pauseAfter? result = none) :
    worker.run around (turns + 1) world =
      (.invoked result :: (worker.run around turns after).1,
        (worker.run around turns after).2) := by
  conv_lhs => unfold run
  rw [if_neg on]
  simp only [invoked, noPause]

/-- A turn with a pause. -/
theorem run_of_pauseAfter?_eq_some (on : ¬ around.isStopping world)
    (invoked : around.invoke world = (result, after))
    (pausing : worker.pauseAfter? result = some length)
    (paused : around.pause length after = (elapsed, later)) :
    worker.run around (turns + 1) world =
      (.invoked result :: .paused length elapsed :: (worker.run around turns later).1,
        (worker.run around turns later).2) := by
  conv_lhs => unfold run
  rw [if_neg on]
  simp only [invoked, pausing, paused]

end Turns

/-- A bounded number of turns is a trace. -/
theorem run_trace (worker : Worker) (around : Surroundings ω) (turns : Nat) (world : ω) :
    ∃ events place, Trace worker around (.head, world) events
        (place, (worker.run around turns world).2) ∧
      events.filterMap Event.action? = (worker.run around turns world).1 := by
  induction turns generalizing world with
  | zero => exact ⟨[], .head, .nil _, rfl⟩
  | succ turns ih =>
      by_cases stopping : around.isStopping world = true
      · rw [run_of_isStopping turns stopping]
        exact ⟨[.looked true], .done, .more (.stop stopping) (.nil _), rfl⟩
      · cases invoked : around.invoke world with
        | mk result after =>
            cases pausing : worker.pauseAfter? result with
            | none =>
                obtain ⟨events, place, trace, same⟩ := ih after
                rw [run_of_pauseAfter?_eq_none turns stopping invoked pausing]
                refine ⟨.looked false :: .invoked result :: events, place,
                  .more (.go stopping) (.more (.again invoked pausing) trace), ?_⟩
                exact congrArg (.invoked result :: ·) same
            | some length =>
                cases paused : around.pause length after with
                | mk elapsed later =>
                    obtain ⟨events, place, trace, same⟩ := ih later
                    rw [run_of_pauseAfter?_eq_some turns stopping invoked pausing paused]
                    refine ⟨.looked false :: .invoked result :: .paused length elapsed :: events,
                      place, .more (.go stopping)
                        (.more (.rest invoked pausing) (.more (.wake paused) trace)), ?_⟩
                    exact congrArg (fun rest => .invoked result :: .paused length elapsed :: rest)
                      same

/-- A worker that has stopped does nothing more. -/
theorem Trace.eq_nil_of_done {world : ω} (trace : Trace worker around (.done, world) events last) :
    events = [] := by
  cases trace with
  | nil => rfl
  | more step rest => cases step

/-- A trace shows what a worker does in enough turns. -/
theorem Trace.continued (trace : Trace worker around here events last) :
    ∃ turns, events.filterMap Event.action? <+: worker.continued around turns here := by
  induction trace with
  | nil here => exact ⟨0, List.nil_prefix⟩
  | more step rest ih =>
      obtain ⟨turns, shown⟩ := ih
      cases step with
      | @stop world stopping =>
          rw [rest.eq_nil_of_done]
          refine ⟨1, ?_⟩
          unfold Worker.continued
          simp only [run_succ, stopping, if_true]
          exact List.prefix_refl _
      | @go world on =>
          refine ⟨turns + 1, ?_⟩
          change _ <+: (worker.run around (turns + 1) world).1
          rw [run_succ, if_neg on]
          exact shown
      | @again world after result invoked noPause =>
          refine ⟨turns, ?_⟩
          unfold Worker.continued
          simp only [invoked, noPause]
          exact (List.prefix_cons_inj _).mpr shown
      | @rest world after result length invoked pausing =>
          refine ⟨turns, ?_⟩
          unfold Worker.continued at shown ⊢
          simp only [invoked, pausing]
          exact (List.prefix_cons_inj _).mpr shown
      | @wake world after length elapsed paused =>
          refine ⟨turns, ?_⟩
          unfold Worker.continued at shown ⊢
          simp only [paused]
          exact (List.prefix_cons_inj _).mpr shown

/-- In particular from the head of the loop on. -/
theorem Trace.run {world : ω} (trace : Trace worker around (.head, world) events last) :
    ∃ turns, events.filterMap Event.action? <+: (worker.run around turns world).1 :=
  trace.continued

/-! ### Order of events -/

/-- A trace goes through a state between any two parts of its events. -/
theorem Trace.exists_between {first second : List Event}
    (trace : Trace worker around here (first ++ second) last) :
    ∃ middle, Trace worker around here first middle ∧
      Trace worker around middle second last := by
  induction first generalizing here with
  | nil => exact ⟨here, .nil here, trace⟩
  | cons event rest ih =>
      cases trace with
      | more step others =>
          obtain ⟨middle, before, after⟩ := ih others
          exact ⟨middle, .more step before, after⟩

/-- The events of a worker come in order: nothing follows a look that found that it shall stop,
each invocation comes right after a look that did not, and between an invocation and the next one
there is a pause, unless the first stopped on the budget. -/
structure Orderly (events : List Event) : Prop where
  stops : ∀ before after, events = before ++ .looked true :: after → after = []
  looks : ∀ before result after, events = before ++ .invoked result :: after →
    ∃ earlier, before = earlier ++ [.looked false]
  pauses : ∀ before first between second after,
    events = before ++ .invoked first :: (between ++ .invoked second :: after) →
    (∀ length elapsed, .paused length elapsed ∉ between) →
    ∃ report, first = .ok report ∧ report.overLimit

/-- No pause follows only an invocation that stopped on the budget. -/
theorem overLimit_of_pauseAfter?_eq_none {result : Except CleanupError SweepReport}
    (noPause : worker.pauseAfter? result = none) :
    ∃ report, result = .ok report ∧ report.overLimit := by
  cases result with
  | error error => cases noPause
  | ok report =>
      refine ⟨report, rfl, ?_⟩
      by_contra within
      change (if report.overLimit then none else some worker.interval) = none at noPause
      rw [if_neg within] at noPause
      cases noPause

/-- The last step to a run of an invocation is a look that found no reason to stop. -/
theorem Trace.exists_look {world start : ω} (trace : Trace worker around (.head, start) events
    (.ready, world)) : ∃ earlier, events = earlier ++ [.looked false] := by
  rcases List.eq_nil_or_concat events with rfl | ⟨earlier, event, rfl⟩
  · cases trace
  · rw [List.concat_eq_append] at trace ⊢
    obtain ⟨middle, _, lastly⟩ := trace.exists_between
    cases lastly with
    | more step rest =>
        cases rest with
        | nil =>
            cases step with
            | go on => exact ⟨earlier, rfl⟩

theorem Trace.orderly {world : ω} (trace : Trace worker around (.head, world) events last) :
    Orderly events where
  stops := by
    rintro before after rfl
    obtain ⟨middle, _, later⟩ := trace.exists_between
    cases later with
    | more step rest =>
        cases step with
        | stop stopping => exact rest.eq_nil_of_done
  looks := by
    rintro before result after rfl
    obtain ⟨middle, earlier, later⟩ := trace.exists_between
    cases later with
    | more step _ =>
        cases step with
        | again invoked noPause => exact earlier.exists_look
        | rest invoked pausing => exact earlier.exists_look
  pauses := by
    rintro before first between second after rfl unpaused
    obtain ⟨middle, _, later⟩ := trace.exists_between
    cases later with
    | more step rest =>
        cases step with
        | again invoked noPause => exact overLimit_of_pauseAfter?_eq_none noPause
        | rest invoked pausing =>
            -- The next event is a pause, so it would stand between the two invocations.
            cases between with
            | nil =>
                cases rest with
                | more step' _ => cases step'
            | cons event others =>
                cases rest with
                | more step' _ =>
                    cases step' with
                    | wake paused => exact absurd List.mem_cons_self (unpaused _ _)

/-! ### Going on without a pause -/

/-- How often an invocation follows another one without a pause between them; `unpaused` tells
that there was one before these actions, and no pause since. -/
def continuationsFrom : Bool → List Action → Nat
  | _, [] => 0
  | unpaused, .invoked _ :: rest => unpaused.toNat + continuationsFrom true rest
  | _, .paused _ _ :: rest => continuationsFrom false rest
  | unpaused, .stopped :: rest => continuationsFrom unpaused rest

def continuations (actions : List Action) : Nat := continuationsFrom false actions

/-- An invocation that stopped on the budget. -/
def Event.isCutShort : Event → Bool
  | .invoked (.ok report) => report.overLimit
  | _ => false

/-- Where an invocation can come before a pause. -/
def Place.isAwake : Place → Bool
  | .head => true
  | .ready => true
  | _ => false

/-- Each invocation that follows another one without a pause follows one that stopped on the
budget, except for the first when there was one before. -/
theorem Trace.continuationsFrom_le (trace : Trace worker around here events last)
    (unpaused : Bool) :
    continuationsFrom unpaused (events.filterMap Event.action?) ≤
      (unpaused && here.1.isAwake).toNat + events.countP Event.isCutShort := by
  induction trace generalizing unpaused with
  | nil here => exact Nat.zero_le _
  | more step rest ih =>
      cases step with
      | stop stopping =>
          rw [rest.eq_nil_of_done]
          exact Nat.zero_le _
      | go on => exact ih unpaused
      | @again world after result invoked noPause =>
          obtain ⟨report, rfl, stopped⟩ := overLimit_of_pauseAfter?_eq_none noPause
          have onward := ih true
          have cut : Event.isCutShort (.invoked (.ok report)) := stopped
          rw [List.countP_cons_of_pos cut]
          change unpaused.toNat + continuationsFrom true _ ≤ (unpaused && true).toNat + _
          change _ ≤ 1 + _ at onward
          rw [Bool.and_true]
          omega
      | @rest world after result length invoked pausing =>
          have onward := ih true
          change unpaused.toNat + continuationsFrom true _ ≤ (unpaused && true).toNat + _
          change _ ≤ 0 + _ at onward
          rw [Bool.and_true, List.countP_cons]
          omega
      | wake paused =>
          have onward := ih false
          change continuationsFrom false _ ≤ _
          change _ ≤ 0 + _ at onward
          rw [List.countP_cons]
          omega

/-! ### Invocations on the store -/

/-- What bears on the invocations of a worker: the failures that are armed, each before the n-th
call that is to change something, who observes them, and the time that each of them takes, told by
the state and the journal with which it starts. -/
structure Conditions (ω : Type) where
  failures : Nat → Option String
  observer : Observer (Journaled Store) ω
  notes : ω
  /-- The seconds that pass before each look at the clock. -/
  delays : Journaled Store → List Nat
  /-- The milliseconds for which signals can come in during the invocation. -/
  duration : Journaled Store → Nat

namespace Conditions

variable (conditions : Conditions ω) (registry : Registry) (settings : Settings)

/-- The invocation that starts with a state and a journal. -/
def sweep (journal : Journaled Store) : Sweep (Journaled Store) ω where
  storage := Store.storage.journaled (fun turn => Store.arming (conditions.failures turn))
  observer := conditions.observer
  registry := registry
  settings := settings
  delays := conditions.delays journal

/-- Invocations on a store that nobody else writes to, and the channel by which the worker is
told to stop. -/
def surroundings : Surroundings (Signalled (Journaled Store)) :=
  Channel.surroundings fun journal =>
    let reply := (conditions.sweep registry settings journal).run journal conditions.notes
    (conditions.duration journal, reply.1, reply.2.state)

end Conditions

/-- An event that takes off what it costs, before others that do. -/
theorem countP_cons_mul_add_le {event : Event} {events : List Event} {cost left after before : Nat}
    (taken : after + (if event.isCutShort then 1 else 0) * cost ≤ before)
    (onward : events.countP Event.isCutShort * cost + left ≤ after) :
    (event :: events).countP Event.isCutShort * cost + left ≤ before := by
  rw [List.countP_cons, Nat.add_mul, Nat.add_right_comm]
  exact Nat.le_trans (Nat.add_le_add_right onward _) taken

section References

variable {conditions : Conditions ω} {registry : Registry} {settings : Settings}
  (accepted : settings.validate = .ok settings)
  (inTime : ∀ journal limit, settings.maxRuntime? = some limit →
    (conditions.delays journal).sum < limit)

/-- The references that are left in the store of a world. -/
def references (registry : Registry) (world : Signalled (Journaled Store)) : Nat :=
  world.state.state.referenceCount registry

include accepted inTime

/-- An invocation takes off as many references as its budget allows modifications when it stops
on the budget, and brings in none in any case. -/
theorem references_invoke {world after : Signalled (Journaled Store)}
    {result : Except CleanupError SweepReport}
    (invoked : (conditions.surroundings registry settings).invoke world = (result, after)) :
    references registry after +
        (if Event.isCutShort (.invoked result) then 1 else 0) * settings.maxModifications
      ≤ references registry world := by
  let sweep := conditions.sweep registry settings world.state
  have holds : sweep.storage.Holds Journaled.state _ := Store.journaled_holds conditions.failures
  have exchanges : Run.Exchanges Journaled.state registry
      ⟨world.state, sweep.budget, conditions.notes⟩ (sweep.run world.state conditions.notes).2 :=
    Sweep.run_exchanges holds world.state conditions.notes
  cases ended : sweep.run world.state conditions.notes with
  | mk reply final =>
      have same : reply = result ∧ final.state = after.state := by
        unfold Conditions.surroundings Channel.surroundings at invoked
        simp only at invoked
        change (conditions.sweep registry settings world.state).run _ _ = _ at ended
        rw [ended] at invoked
        cases invoked
        exact ⟨rfl, rfl⟩
      obtain ⟨rfl, shown⟩ := same
      rw [ended] at exchanges
      unfold references
      rw [← shown]
      split
      · rename_i cut
        cases reply with
        | error error => cases cut
        | ok report =>
            have timely : sweep.budget.InTime := sweep.inTime_budget (inTime world.state)
            rw [Nat.one_mul]
            exact Sweep.run_takes holds timely (Settings.maxModifications_pos accepted) ended cut
      · rw [Nat.zero_mul]
        exact exchanges.evolves.referenceCount_le registry

/-- All invocations that stop on the budget are paid for by the references at the start. -/
theorem Trace.countP_isCutShort_mul_add_le {here last : Place × Signalled (Journaled Store)}
    (trace : Trace worker (conditions.surroundings registry settings) here events last) :
    events.countP Event.isCutShort * settings.maxModifications + references registry last.2
      ≤ references registry here.2 := by
  induction trace with
  | nil here => simp
  | more step rest ih =>
      cases step with
      | stop stopping => exact countP_cons_mul_add_le (by simp [Event.isCutShort]) ih
      | go on => exact countP_cons_mul_add_le (by simp [Event.isCutShort]) ih
      | again invoked noPause =>
          exact countP_cons_mul_add_le (references_invoke accepted inTime invoked) ih
      | rest invoked pausing =>
          exact countP_cons_mul_add_le (references_invoke accepted inTime invoked) ih
      | @wake world after length elapsed paused =>
          have still : after.state = world.state := by
            cases paused
            rfl
          have taken : references registry after ≤ references registry world :=
            Nat.le_of_eq (congrArg (fun journal => journal.state.referenceCount registry) still)
          exact countP_cons_mul_add_le (by simpa [Event.isCutShort] using taken) ih

end References

/-- A worker does not spin, and does not outlive the word to stop.  Whatever happens to it, each
invocation comes right after a look that found no reason to stop, and none comes after a look that
did; and an invocation is followed by another one without a pause only when it answered that it
stopped on the budget.  On a store that nobody else writes to, with failures armed at any call and
an invocation's time never running out, this happens no more often, in a run of any length, than
the budget of one invocation goes into the pairs of a child row and a relation that finds the key
of a pending record in it at the start.  A pause that is cut short is a pause. -/
theorem never_spins (worker : Worker) (registry : Registry) {settings : Settings}
    (accepted : settings.validate = .ok settings) (conditions : Conditions ω)
    (inTime : ∀ journal limit, settings.maxRuntime? = some limit →
      (conditions.delays journal).sum < limit)
    (store : Store) (channel : Channel) (upcoming : List (Nat × Signal)) :
    let around := conditions.surroundings registry settings
    let start : Signalled (Journaled Store) := ⟨{ state := store }, channel, upcoming⟩
    (∀ turns, ∃ events place,
      Trace worker around (.head, start) events (place, (worker.run around turns start).2) ∧
        events.filterMap Event.action? = (worker.run around turns start).1) ∧
    ∀ events last, Trace worker around (.head, start) events last →
      (∃ turns, events.filterMap Event.action? <+: (worker.run around turns start).1) ∧
      Orderly events ∧
      continuations (events.filterMap Event.action?)
        ≤ store.referenceCount registry / settings.maxModifications := by
  intro around start
  refine ⟨fun turns => run_trace worker around turns start, ?_⟩
  intro events last trace
  refine ⟨trace.run, trace.orderly, ?_⟩
  have paid := trace.countP_isCutShort_mul_add_le accepted inTime
  have cutShort : events.countP Event.isCutShort * settings.maxModifications
      ≤ store.referenceCount registry := Nat.le_trans (Nat.le_add_right _ _) paid
  calc continuations (events.filterMap Event.action?)
      ≤ 0 + events.countP Event.isCutShort := trace.continuationsFrom_le false
    _ = events.countP Event.isCutShort := Nat.zero_add _
    _ ≤ store.referenceCount registry / settings.maxModifications :=
      (Nat.le_div_iff_mul_le (Settings.maxModifications_pos accepted)).mpr cutShort

end LooseKeys.Worker

namespace LooseKeys

/-! Invocations of one row each, the second of which fails. -/
namespace Sample

def narrow : Settings := { maxModifications := 1, deleteBatchSize := 1, maxRuntimeSecs := 0 }

def faltering : Worker.Conditions Unit where
  failures turn := if turn = 2 then some "disk full" else none
  observer := .silent
  notes := ()
  delays _ := []
  duration _ := 3

/-- The word to stop comes in during the second pause. -/
def told : List (Nat × Signal) := [(25, .sent true)]

end Sample

/-- The worker goes on without a pause after each of the two invocations that took a row, and
pauses after the one that failed and after the one that found no row; then it stops.  The bound is
reached. -/
theorem Worker.never_spins_in_sample :
    let worker : Worker := ⟨10, 10⟩
    let around := Sample.faltering.surroundings Sample.registry Sample.narrow
    let start : Signalled (Journaled Store) := ⟨{ state := Sample.store }, {}, Sample.told⟩
    Worker.continuations (worker.run around 9 start).1 = 2 ∧
      Sample.store.referenceCount Sample.registry / Sample.narrow.maxModifications = 2 ∧
      ∃ events place,
        Worker.Trace worker around (.head, start) events (place, (worker.run around 9 start).2) ∧
          Worker.Orderly events ∧
          Worker.continuations (events.filterMap Worker.Event.action?) ≤ 2 := by
  intro worker around start
  have bound :
      Sample.store.referenceCount Sample.registry / Sample.narrow.maxModifications = 2 := by
    decide +kernel
  have untimed : ∀ journal limit, Sample.narrow.maxRuntime? = some limit →
      (Sample.faltering.delays journal).sum < limit := by
    intro journal limit limited
    cases limited
  obtain ⟨traced, bounded⟩ := Worker.never_spins worker Sample.registry
    (by rfl : Sample.narrow.validate = .ok Sample.narrow) Sample.faltering untimed Sample.store {}
    Sample.told
  obtain ⟨events, place, trace, _⟩ := traced 9
  obtain ⟨_, orderly, rarely⟩ := bounded events _ trace
  rw [bound] at rarely
  exact ⟨by decide +kernel, bound, events, place, trace, orderly, rarely⟩

end LooseKeys
