/-
Module: LooseKeys.Proofs.Pauses
Purpose: Which signals leave the pauses of a worker whole, and how much of them the others take.
Main exports: Channel.receiveAll, Channel.OnlyStops, Channel.WaitEnds, Channel.Heard,
  Worker.PausesInFull, Worker.pauses_in_full_iff
-/
import LooseKeys.Proofs.Worker

/-!
A worker pauses until its time is over or a wait for a change of the channel ends, and does not ask
which of the two it was.  The word to stop ends the pause and the worker with it.  Any other change
ends the pause only: the word to go on, and the end of the sending side, after which no wait for a
change lasts at all.

`Channel.Heard` tells which part of all signals a channel has received.  As long as every signal
leaves the word to stop in the channel, a pause that was cut short is the last thing that a worker
does before it stops.
-/

namespace LooseKeys

/-- Whether a signal is a value, be it the word to stop or to go on. -/
def Signal.isValue : Signal → Bool
  | .sent _ => true
  | .dropped => false

/-! ### Waiting for a change -/

namespace Channel

/-- The channel after a number of signals. -/
def receiveAll (channel : Channel) (signals : List Signal) : Channel :=
  signals.foldl receive channel

/-- From the first signal on the channel holds the word to stop. -/
def OnlyStops (signals : List Signal) : Prop :=
  ∀ heard, heard <+: signals → heard ≠ [] → (receiveAll {} heard).stop

theorem receiveAll_append (channel : Channel) (first second : List Signal) :
    channel.receiveAll (first ++ second) = (channel.receiveAll first).receiveAll second :=
  List.foldl_append

/-- No wait for a change lasts once a signal was received. -/
theorem isReady_receive (channel : Channel) (signal : Signal) :
    (channel.receive signal).isReady := by
  cases signal with
  | sent stop =>
      unfold receive isReady
      cases closed : channel.closed with
      | false => rfl
      | true => simp [closed]
  | dropped => exact Bool.or_true _

theorem isReady_receiveAll {signals : List Signal} (channel : Channel)
    (received : signals ≠ []) : (channel.receiveAll signals).isReady := by
  rcases List.eq_nil_or_concat signals with rfl | ⟨earlier, signal, rfl⟩
  · exact absurd rfl received
  · rw [List.concat_eq_append, receiveAll_append]
    exact isReady_receive _ signal

/-- Two channels that differ at most in whether the last value was seen. -/
theorem eq_of_seen {channel other : Channel} (same : channel.seen = other.seen) :
    channel.stop = other.stop ∧ channel.closed = other.closed := by
  simpa [seen] using same

/-- Whether the last value was seen makes no difference to what comes next. -/
theorem seen_receive {channel other : Channel} (same : channel.seen = other.seen)
    (signal : Signal) : (channel.receive signal).seen = (other.receive signal).seen := by
  obtain ⟨stop, unseen, closed⟩ := channel
  obtain ⟨stop', unseen', closed'⟩ := other
  obtain ⟨rfl, rfl⟩ : stop = stop' ∧ closed = closed' := eq_of_seen same
  cases signal with
  | sent value => cases closed <;> rfl
  | dropped => rfl

theorem seen_receiveAll {channel other : Channel} (same : channel.seen = other.seen)
    (signals : List Signal) :
    (channel.receiveAll signals).seen = (other.receiveAll signals).seen := by
  induction signals generalizing channel other with
  | nil => exact same
  | cons signal rest ih => exact ih (seen_receive same signal)

/-- Nothing can be received once the sending end is gone. -/
theorem receive_of_closed {channel : Channel} (closed : channel.closed) (signal : Signal) :
    channel.receive signal = channel := by
  obtain ⟨stop, unseen, _⟩ := channel
  cases closed
  cases signal <;> rfl

theorem receiveAll_of_closed {channel : Channel} (closed : channel.closed)
    (signals : List Signal) : channel.receiveAll signals = channel := by
  induction signals with
  | nil => rfl
  | cons signal rest ih =>
      change (channel.receive signal).receiveAll rest = channel
      rw [receive_of_closed closed]
      exact ih

variable {channel after : Channel} {length elapsed time : Nat}
  {upcoming left : List (Nat × Signal)}

/-- How a wait ends, after which time, and what it leaves. -/
inductive WaitEnds (channel : Channel) (length : Nat) :
    List (Nat × Signal) → Nat → Channel → List (Nat × Signal) → Prop where
  | atOnce {upcoming : List (Nat × Signal)} (ready : channel.isReady) :
      WaitEnds channel length upcoming 0 channel.seen upcoming
  | full {upcoming : List (Nat × Signal)} (idle : channel.isReady = false)
      (quiet : ∀ next ∈ upcoming.head?, length < next.1) :
      WaitEnds channel length upcoming length channel
        (upcoming.modifyHead fun next => (next.1 - length, next.2))
  | woken {delay : Nat} {signal : Signal} {rest : List (Nat × Signal)}
      (idle : channel.isReady = false) (inTime : delay ≤ length) :
      WaitEnds channel length ((delay, signal) :: rest) delay (channel.receive signal).seen rest

theorem wait_of_isReady (ready : channel.isReady) (length : Nat)
    (upcoming : List (Nat × Signal)) :
    channel.wait length upcoming = (0, channel.seen, upcoming) := by
  cases upcoming with
  | nil => exact if_pos ready
  | cons next rest => exact if_pos ready

theorem wait_ends (waited : channel.wait length upcoming = (elapsed, after, left)) :
    channel.WaitEnds length upcoming elapsed after left := by
  cases ready : channel.isReady with
  | true =>
      rw [wait_of_isReady ready] at waited
      cases waited
      exact .atOnce ready
  | false =>
      cases upcoming with
      | nil =>
          have full : channel.wait length [] = (length, channel, []) := by
            simp [wait, ready]
          rw [full] at waited
          cases waited
          exact .full ready (by simp)
      | cons next rest =>
          obtain ⟨delay, signal⟩ := next
          by_cases late : length < delay
          · have full : channel.wait length ((delay, signal) :: rest) =
                (length, channel, (delay - length, signal) :: rest) := by
              simp [wait, ready, late]
            have quiet : ∀ next ∈ ((delay, signal) :: rest).head?, length < next.1 := by
              simpa using late
            rw [full] at waited
            cases waited
            exact .full ready quiet
          · have woken : channel.wait length ((delay, signal) :: rest) =
                (delay, (channel.receive signal).seen, rest) := by
              simp [wait, ready, late, wait_of_isReady (isReady_receive channel signal)]
            rw [woken] at waited
            cases waited
            exact .woken ready (Nat.le_of_not_lt late)

/-- Who does not wait receives the signals that come in, one after the other. -/
theorem listen_receives (listened : channel.listen time upcoming = (after, left)) :
    ∃ more, upcoming.map Prod.snd = more ++ left.map Prod.snd ∧
      after = channel.receiveAll more := by
  induction upcoming generalizing channel time with
  | nil =>
      cases listened
      exact ⟨[], rfl, rfl⟩
  | cons next rest ih =>
      obtain ⟨delay, signal⟩ := next
      unfold listen at listened
      by_cases late : time < delay
      · rw [if_pos late] at listened
        cases listened
        exact ⟨[], rfl, rfl⟩
      · rw [if_neg late] at listened
        obtain ⟨more, split, received⟩ := ih listened
        exact ⟨signal :: more, congrArg (signal :: ·) split, received⟩

/-- Signals that come at once are received, those that come later are not. -/
theorem listen_at_once (channel : Channel) (first later : List Signal) :
    channel.listen 0 (first.map (0, ·) ++ later.map (1, ·)) =
      (channel.receiveAll first, later.map (1, ·)) := by
  induction first generalizing channel with
  | nil => cases later <;> rfl
  | cons signal rest ih => exact ih (channel.receive signal)

/-! ### Signals received and signals to come -/

variable {signals heard : List Signal}

/-- A channel has received the first of all signals, and the others are still to come; no wait
ends at once as long as it has received none. -/
structure Heard (signals heard : List Signal) (channel : Channel)
    (upcoming : List (Nat × Signal)) : Prop where
  split : signals = heard ++ upcoming.map Prod.snd
  holds : channel.seen = (receiveAll {} heard).seen
  heardOf : channel.isReady → heard ≠ []

theorem Heard.stop (told : Heard signals heard channel upcoming) (only : OnlyStops signals)
    (received : heard ≠ []) : channel.stop := by
  rw [(eq_of_seen told.holds).1]
  exact only heard ⟨_, told.split.symm⟩ received

theorem Heard.listen (told : Heard signals heard channel upcoming)
    (listened : channel.listen time upcoming = (after, left)) :
    ∃ heard, Heard signals heard after left := by
  obtain ⟨more, split, rfl⟩ := listen_receives listened
  refine ⟨heard ++ more, ?_, ?_, ?_⟩
  · rw [told.split, split, List.append_assoc]
  · rw [receiveAll_append]
    exact seen_receiveAll told.holds more
  · intro ready unheard
    obtain ⟨rfl, rfl⟩ := List.append_eq_nil_iff.mp unheard
    exact told.heardOf ready rfl

/-- Only a signal ends a wait before its time is over. -/
theorem Heard.wait (told : Heard signals heard channel upcoming)
    (ends : channel.WaitEnds length upcoming elapsed after left) :
    ∃ heard, Heard signals heard after left ∧ (elapsed = length ∨ heard ≠ []) := by
  obtain ⟨split, holds, heardOf⟩ := told
  cases ends with
  | atOnce ready => exact ⟨heard, ⟨split, holds, fun _ => heardOf ready⟩, .inr (heardOf ready)⟩
  | full idle quiet =>
      refine ⟨heard, ⟨?_, holds, heardOf⟩, .inl rfl⟩
      cases upcoming with
      | nil => exact split
      | cons next rest => exact split
  | @woken delay signal rest idle inTime =>
      have received : heard ++ [signal] ≠ [] := List.concat_ne_nil signal heard
      refine ⟨heard ++ [signal], ⟨?_, ?_, fun _ => received⟩, .inr received⟩
      · rw [List.append_assoc]
        exact split
      · rw [receiveAll_append]
        exact seen_receive holds signal

/-- Nothing comes in on a channel that is closed, and no wait lasts. -/
theorem eq_of_listen_of_closed (closed : channel.closed)
    (listened : channel.listen time upcoming = (after, left)) : after = channel := by
  obtain ⟨more, _, rfl⟩ := listen_receives listened
  exact receiveAll_of_closed closed more

theorem WaitEnds.of_closed (closed : channel.closed)
    (ends : channel.WaitEnds length upcoming elapsed after left) :
    elapsed = 0 ∧ after = channel.seen := by
  have ready : channel.isReady := by simp [isReady, closed]
  cases ends with
  | atOnce ready => exact ⟨rfl, rfl⟩
  | full idle quiet => rw [ready] at idle; cases idle
  | woken idle inTime => rw [ready] at idle; cases idle

/-- The values that are not seen yet, of those that were sent and those that will be. -/
def outstanding (channel : Channel) (signals : List Signal) : Nat :=
  channel.unseen.toNat + signals.countP Signal.isValue

theorem outstanding_receive_le (channel : Channel) (signal : Signal) (rest : List Signal) :
    (channel.receive signal).outstanding rest ≤ channel.outstanding (signal :: rest) := by
  obtain ⟨stop, unseen, closed⟩ := channel
  unfold outstanding
  cases signal with
  | dropped => exact Nat.le_of_eq (congrArg _ (List.countP_cons_of_neg (by decide)).symm)
  | sent value =>
      rw [List.countP_cons_of_pos rfl]
      cases closed with
      | true =>
          change unseen.toNat + _ ≤ unseen.toNat + _
          omega
      | false =>
          change 1 + _ ≤ unseen.toNat + _
          omega

theorem outstanding_listen_le (listened : channel.listen time upcoming = (after, left)) :
    after.outstanding (left.map Prod.snd) ≤ channel.outstanding (upcoming.map Prod.snd) := by
  obtain ⟨more, split, rfl⟩ := listen_receives listened
  rw [split]
  clear split listened
  induction more generalizing channel with
  | nil => exact Nat.le_refl _
  | cons signal rest ih =>
      have others : ((channel.receive signal).receiveAll rest).outstanding _ ≤
          (channel.receive signal).outstanding _ := ih
      exact Nat.le_trans others (outstanding_receive_le channel signal _)

/-- As long as the sending end is there, a wait that ends before its time is over has seen a
value. -/
theorem outstanding_wait_le (ends : channel.WaitEnds length upcoming elapsed after left)
    (unclosed : after.closed = false) :
    (if elapsed < length then 1 else 0) + after.outstanding (left.map Prod.snd)
      ≤ channel.outstanding (upcoming.map Prod.snd) := by
  obtain ⟨stop, unseen, closed⟩ := channel
  cases ends with
  | atOnce ready =>
      cases unclosed
      obtain rfl : unseen = true := by simpa [isReady] using ready
      change _ + (0 + _) ≤ 1 + _
      split <;> omega
  | full idle quiet =>
      rw [if_neg (Nat.lt_irrefl length)]
      cases upcoming <;> exact Nat.le_of_eq (Nat.zero_add _)
  | @woken delay signal rest idle inTime =>
      obtain ⟨rfl, rfl⟩ : unseen = false ∧ closed = false := by simpa [isReady] using idle
      cases signal with
      | dropped => cases unclosed
      | sent value =>
          change _ + (0 + _) ≤ 0 + List.countP Signal.isValue (.sent value :: _)
          rw [List.countP_cons_of_pos rfl]
          split <;> omega

end Channel

/-- The values of a world that are not seen yet. -/
def Signalled.outstanding {σ : Type} (world : Signalled σ) : Nat :=
  world.channel.outstanding (world.upcoming.map Prod.snd)

/-! ### Pauses in full -/

namespace Action

def isInvocation : Action → Bool
  | .invoked _ => true
  | _ => false

/-- The length of a pause, and how much of it was over when the worker went on. -/
def pause? : Action → Option (Nat × Nat)
  | .paused length elapsed => some (length, elapsed)
  | _ => none

def isInterrupted : Action → Bool
  | .paused length elapsed => elapsed < length
  | _ => false

/-- What a worker does that neither rests nor stops. -/
def isRestless : Action → Bool
  | .invoked _ => true
  | .paused _ elapsed => elapsed == 0
  | .stopped => false

end Action

namespace Worker

/-- The pause that is due after an action. -/
def pauseDue? (worker : Worker) : Action → Option Nat
  | .invoked result => worker.pauseAfter? result
  | _ => none

/-- An invocation comes after one that calls for a pause only when that pause ran its full
length. -/
def PausesInFull (worker : Worker) (actions : List Action) : Prop :=
  ∀ action after, action :: after <:+ actions → ∀ length ∈ worker.pauseDue? action,
    after.any Action.isInvocation → after.head?.bind Action.pause? = some (length, length)

theorem pausesInFull_nil (worker : Worker) : worker.PausesInFull [] := by
  intro action after suffix
  cases List.suffix_nil.mp suffix

theorem pausesInFull_cons {worker : Worker} {action : Action} {rest : List Action} :
    worker.PausesInFull (action :: rest) ↔
      (∀ length ∈ worker.pauseDue? action, rest.any Action.isInvocation →
        rest.head?.bind Action.pause? = some (length, length)) ∧
      worker.PausesInFull rest := by
  constructor
  · intro full
    exact ⟨full action rest (List.suffix_refl _),
      fun other after suffix => full other after (suffix.trans (List.suffix_cons action rest))⟩
  · rintro ⟨first, others⟩ other after suffix
    rcases List.suffix_cons_iff.mp suffix with same | suffix
    · cases same
      exact first
    · exact others other after suffix

theorem pausesInFull_cons_of_none {worker : Worker} {action : Action} {rest : List Action}
    (notDue : worker.pauseDue? action = none) :
    worker.PausesInFull (action :: rest) ↔ worker.PausesInFull rest := by
  rw [pausesInFull_cons, notDue]
  simp

instance decidablePausesInFull (worker : Worker) : DecidablePred worker.PausesInFull
  | [] => isTrue worker.pausesInFull_nil
  | _ :: rest =>
      have := decidablePausesInFull worker rest
      decidable_of_iff _ pausesInFull_cons.symm

section Run

variable {σ : Type} {worker : Worker} {work : σ → Nat × Reply σ SweepReport}
  {here next last : Place × Signalled σ} {event : Event} {events : List Event}
  {world after : Signalled σ} {length elapsed : Nat}

theorem listen_of_invoke {result : Except CleanupError SweepReport}
    (invoked : (Channel.surroundings work).invoke world = (result, after)) :
    ∃ time, world.channel.listen time world.upcoming = (after.channel, after.upcoming) := by
  cases invoked
  exact ⟨_, rfl⟩

theorem waitEnds_of_pause
    (paused : (Channel.surroundings work).pause length world = (elapsed, after)) :
    world.channel.WaitEnds length world.upcoming elapsed after.channel after.upcoming := by
  cases paused
  exact Channel.wait_ends rfl

/-- A worker that finds the word to stop runs no invocation. -/
theorem Trace.not_any_isInvocation (trace : Trace worker (Channel.surroundings work) (.head, world)
    events last) (stop : world.channel.stop) :
    (events.filterMap Event.action?).any Action.isInvocation = false := by
  cases trace with
  | nil => rfl
  | more step rest =>
      cases step with
      | stop stopping =>
          rw [rest.eq_nil_of_done]
          rfl
      | go on => exact absurd stop on

/-- What comes of a worker that is about to pause. -/
theorem Trace.eq_nil_or_paused (trace : Trace worker (Channel.surroundings work)
    (.resting length, world) events last) :
    events = [] ∨ ∃ elapsed after others, events = .paused length elapsed :: others ∧
      (Channel.surroundings work).pause length world = (elapsed, after) ∧
      Trace worker (Channel.surroundings work) (.head, after) others last := by
  cases trace with
  | nil => exact .inl rfl
  | more step rest =>
      cases step with
      | wake paused => exact .inr ⟨_, _, _, rfl, paused, rest⟩

/-- When all signals leave the word to stop in the channel, a worker that pauses and goes on
afterwards has paused in full. -/
theorem Trace.pausesInFull {signals : List Signal} (only : Channel.OnlyStops signals)
    (trace : Trace worker (Channel.surroundings work) here events last)
    (told : ∃ heard, Channel.Heard signals heard here.2.channel here.2.upcoming) :
    worker.PausesInFull (events.filterMap Event.action?) := by
  induction trace with
  | nil here => exact pausesInFull_nil worker
  | more step rest ih =>
      obtain ⟨heard, told⟩ := told
      cases step with
      | stop stopping => exact (pausesInFull_cons_of_none rfl).mpr (ih ⟨heard, told⟩)
      | go on => exact ih ⟨heard, told⟩
      | @again world after result invoked noPause =>
          obtain ⟨_, listened⟩ := listen_of_invoke invoked
          have notDue : worker.pauseDue? (.invoked result) = none := noPause
          exact (pausesInFull_cons_of_none notDue).mpr (ih (told.listen listened))
      | @rest world after result length invoked pausing =>
          obtain ⟨_, listened⟩ := listen_of_invoke invoked
          have toldAfter := told.listen listened
          refine pausesInFull_cons.mpr ⟨?_, ih toldAfter⟩
          intro length' due another
          change worker.pauseAfter? _ = _ at due
          rw [pausing] at due
          cases due
          rcases rest.eq_nil_or_paused with rfl | ⟨elapsed, woken, others, rfl, paused, onward⟩
          · cases another
          · obtain ⟨heard', told'⟩ := toldAfter
            obtain ⟨heard'', told'', full | received⟩ := told'.wait (waitEnds_of_pause paused)
            · subst full
              rfl
            · -- A signal ended the pause and left the word to stop, so nothing is invoked any more.
              have stopped := onward.not_any_isInvocation (told''.stop only received)
              change (others.filterMap Event.action?).any Action.isInvocation = true at another
              rw [stopped] at another
              cases another
      | wake paused =>
          obtain ⟨heard', told', _⟩ := told.wait (waitEnds_of_pause paused)
          exact (pausesInFull_cons_of_none rfl).mpr (ih ⟨heard', told'⟩)

/-! ### Pauses cut short -/

/-- A pause that is cut short has seen a value, as long as the sending end is there. -/
theorem Step.outstanding_le (step : Step worker (Channel.surroundings work) here event next)
    (unclosed : next.2.channel.closed = false) :
    (if event.action?.any Action.isInterrupted then 1 else 0) + next.2.outstanding
      ≤ here.2.outstanding := by
  cases step with
  | stop stopping => exact Nat.le_of_eq (Nat.zero_add _)
  | go on => exact Nat.le_of_eq (Nat.zero_add _)
  | again invoked noPause =>
      obtain ⟨_, listened⟩ := listen_of_invoke invoked
      exact Nat.le_trans (Nat.le_of_eq (Nat.zero_add _)) (Channel.outstanding_listen_le listened)
  | rest invoked pausing =>
      obtain ⟨_, listened⟩ := listen_of_invoke invoked
      exact Nat.le_trans (Nat.le_of_eq (Nat.zero_add _)) (Channel.outstanding_listen_le listened)
  | @wake world after length elapsed paused =>
      have seen := Channel.outstanding_wait_le (waitEnds_of_pause paused) unclosed
      change (if decide (elapsed < length) then 1 else 0) + _ ≤ _
      rw [if_congr decide_eq_true_iff rfl rfl]
      exact seen

/-- A worker whose channel is closed goes on without a moment's rest, unless it holds the word to
stop; and neither changes any more. -/
theorem Step.of_closed (step : Step worker (Channel.surroundings work) here event next)
    (closed : here.2.channel.closed) :
    next.2.channel.seen = here.2.channel.seen ∧
      (here.2.channel.stop = false → ∀ action ∈ event.action?, action.isRestless) := by
  cases step with
  | @stop world stopping =>
      refine ⟨rfl, fun unstopped => ?_⟩
      change world.channel.stop = true at stopping
      change world.channel.stop = false at unstopped
      rw [stopping] at unstopped
      cases unstopped
  | go on => exact ⟨rfl, fun _ _ occurs => by cases occurs⟩
  | again invoked noPause =>
      obtain ⟨_, listened⟩ := listen_of_invoke invoked
      rw [Channel.eq_of_listen_of_closed closed listened]
      exact ⟨rfl, fun _ _ occurs => by cases occurs; rfl⟩
  | rest invoked pausing =>
      obtain ⟨_, listened⟩ := listen_of_invoke invoked
      rw [Channel.eq_of_listen_of_closed closed listened]
      exact ⟨rfl, fun _ _ occurs => by cases occurs; rfl⟩
  | wake paused =>
      obtain ⟨rfl, seen⟩ := (waitEnds_of_pause paused).of_closed closed
      rw [seen]
      exact ⟨rfl, fun _ _ occurs => by cases occurs; rfl⟩

theorem Trace.of_closed (trace : Trace worker (Channel.surroundings work) here events last)
    (closed : here.2.channel.closed) :
    last.2.channel.closed ∧ (here.2.channel.stop = false →
      ∀ action ∈ events.filterMap Event.action?, action.isRestless) := by
  induction trace with
  | nil here => exact ⟨closed, fun _ _ occurs => by cases occurs⟩
  | more step rest ih =>
      obtain ⟨same, restless⟩ := step.of_closed closed
      obtain ⟨sameStop, sameClosed⟩ := Channel.eq_of_seen same
      obtain ⟨closedLast, others⟩ := ih (sameClosed.trans closed)
      refine ⟨closedLast, fun unstopped action occurs => ?_⟩
      obtain ⟨event, among, shown⟩ := List.mem_filterMap.mp occurs
      rcases List.mem_cons.mp among with rfl | among
      · exact restless unstopped action shown
      · exact others (sameStop.trans unstopped) action
          (List.mem_filterMap.mpr ⟨event, among, shown⟩)

/-- Each pause that is cut short has seen a value that the next ones cannot see any more. -/
theorem Trace.countP_isInterrupted_add_le
    (trace : Trace worker (Channel.surroundings work) here events last)
    (unclosed : last.2.channel.closed = false) :
    (events.filterMap Event.action?).countP Action.isInterrupted + last.2.outstanding
      ≤ here.2.outstanding := by
  induction trace with
  | nil here => exact Nat.le_of_eq (Nat.zero_add _)
  | @more here next last event events step rest ih =>
      have unclosedNext : next.2.channel.closed = false := by
        by_contra closed
        rw [(rest.of_closed (Bool.of_not_eq_false closed)).1] at unclosed
        cases unclosed
      have first := step.outstanding_le unclosedNext
      have others := ih unclosed
      have count : ((event :: events).filterMap Event.action?).countP Action.isInterrupted =
          (if event.action?.any Action.isInterrupted then 1 else 0) +
            (events.filterMap Event.action?).countP Action.isInterrupted := by
        rw [List.filterMap_cons]
        cases event.action? with
        | none => exact (Nat.zero_add _).symm
        | some action => exact (List.countP_cons ..).trans (Nat.add_comm _ _)
      rw [count]
      omega

end Run

/-! ### Signals that cut pauses short -/

/-- Invocations that fail and take no time. -/
def failing : Unit → Nat × Reply Unit SweepReport := fun _ => (0, .error (.storage "down"), ())

/-- When signals that leave the word to go on come in during an invocation that fails, the next
one follows without a pause. -/
theorem not_pausesInFull_failing {first : List Signal} (later : List Signal)
    (received : first ≠ []) (unstopped : (Channel.receiveAll {} first).stop = false) :
    ¬ Worker.PausesInFull ⟨1, 1⟩ (Worker.run ⟨1, 1⟩ (Channel.surroundings failing) 2
      ⟨(), {}, first.map (0, ·) ++ later.map (1, ·)⟩).1 := by
  have atOnce :=
    Channel.wait_of_isReady (Channel.isReady_receiveAll {} received) 1 (later.map (1, ·))
  have stillUnstopped : (Channel.receiveAll {} first).seen.stop = false := unstopped
  have actions : ∃ last, (Worker.run ⟨1, 1⟩ (Channel.surroundings failing) 2
      ⟨(), {}, first.map (0, ·) ++ later.map (1, ·)⟩).1 =
      [.invoked (.error (.storage "down")), .paused 1 0,
        .invoked (.error (.storage "down")), .paused 1 last] := by
    simp [run, Channel.surroundings, failing, pauseAfter?, Channel.listen_at_once, atOnce,
      stillUnstopped]
  obtain ⟨last, actions⟩ := actions
  rw [actions]
  intro full
  have cut := full _ _ (List.suffix_refl _) 1 rfl rfl
  cases cut

/-- A sequence of signals leaves the pauses of every worker in full, whatever its invocations
answer and whenever the signals come in, exactly when each signal leaves the word to stop in the
channel.  Of any other sequence each value cuts at most one pause short, as long as the sending end
is there; and once that is gone without the word to stop, a worker neither rests nor stops any
more. -/
theorem pauses_in_full_iff (signals : List Signal) :
    ((∀ (σ : Type) (worker : Worker) (work : σ → Nat × Reply σ SweepReport) (state : σ)
        (upcoming : List (Nat × Signal)), upcoming.map Prod.snd = signals → ∀ turns,
          worker.PausesInFull
            (worker.run (Channel.surroundings work) turns ⟨state, {}, upcoming⟩).1) ↔
      Channel.OnlyStops signals) ∧
    ∀ (σ : Type) (worker : Worker) (work : σ → Nat × Reply σ SweepReport) (start : Signalled σ)
      (turns : Nat), let run := worker.run (Channel.surroundings work) turns start
      (run.2.channel.closed = false →
        run.1.countP Action.isInterrupted + run.2.outstanding ≤ start.outstanding) ∧
      (start.channel.closed → start.channel.stop = false →
        ∀ action ∈ run.1, action.isRestless) := by
  refine ⟨⟨?_, ?_⟩, ?_⟩
  · rintro full heard ⟨later, split⟩ received
    by_contra unstopped
    refine not_pausesInFull_failing later received (Bool.of_not_eq_true unstopped) ?_
    refine full Unit ⟨1, 1⟩ failing () _ ?_ 2
    rw [← split]
    simp [Function.comp_def]
  · rintro only σ worker work state upcoming rfl turns
    obtain ⟨events, place, trace, same⟩ :=
      run_trace worker (Channel.surroundings work) turns ⟨state, {}, upcoming⟩
    rw [← same]
    exact trace.pausesInFull only ⟨[], ⟨rfl, rfl, fun ready => by cases ready⟩⟩
  · intro σ worker work start turns run
    obtain ⟨events, place, trace, same⟩ :=
      run_trace worker (Channel.surroundings work) turns start
    change _ = run.1 at same
    rw [← same]
    exact ⟨trace.countP_isInterrupted_add_le, fun closed => (trace.of_closed closed).2⟩

/-- The sending end goes away, or sends the word to go on, while a worker pauses after a failure.
Both cut that pause short; after the first every pause is over at once.  Nobody ever sent the word
to stop. -/
theorem pause_cut_by_signals :
    let worker : Worker := ⟨60000, 5000⟩
    let actions (signal : Signal) : List Action :=
      (worker.run (Sample.faltering.surroundings Sample.registry Sample.narrow) 6
        ⟨{ state := Sample.store }, {}, [(20, signal)]⟩).1
    (¬ worker.PausesInFull (actions .dropped) ∧
      (actions .dropped).filterMap Action.pause? =
        [(5000, 14), (60000, 0), (60000, 0), (60000, 0)]) ∧
    (¬ worker.PausesInFull (actions (.sent false)) ∧
      (actions (.sent false)).filterMap Action.pause? =
        [(5000, 14), (60000, 60000), (60000, 60000), (60000, 60000)]) := by
  decide +kernel

end Worker

end LooseKeys
