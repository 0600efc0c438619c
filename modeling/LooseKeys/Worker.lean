/-
Module: LooseKeys.Worker
Purpose: The loop that runs one invocation after the other until it is told to stop, and the
  channel by which it is told.
Main exports: Worker, Surroundings, Action, Worker.run, Channel, Channel.wait
-/
import LooseKeys.Sweep

/-!
An invocation that stops on the budget is followed by the next one at once, since work may be
left.  After any other invocation the worker pauses, for an interval of its own after a failure.
A failure needs nothing else: a later pass only finds child rows that still exist.

`Worker.run` covers a bounded number of turns of the loop, which may go on for ever; the states
of longer runs continue those of shorter ones.
-/

namespace LooseKeys

/-- The pauses of a worker in milliseconds. -/
structure Worker where
  /-- The pause after an invocation that left nothing over. -/
  interval : Nat
  /-- The pause after a failed invocation. -/
  errorBackoff : Nat
deriving DecidableEq, Repr, Inhabited

/-- What surrounds a worker: a world in which it can look whether it shall stop, run an
invocation, and pause; a pause may end early and gives the time that has passed. -/
structure Surroundings (ω : Type) where
  isStopping : ω → Bool
  invoke : ω → Reply ω SweepReport
  pause : Nat → ω → Nat × ω

/-- A step of a worker. -/
inductive Action where
  | invoked (result : Except CleanupError SweepReport)
  /-- A pause of a length in milliseconds was over after some of them. -/
  | paused (length elapsed : Nat)
  | stopped

namespace Worker

/-- The pause that follows an invocation; none follows one that stopped on the budget. -/
def pauseAfter? (worker : Worker) : Except CleanupError SweepReport → Option Nat
  | .ok report => if report.overLimit then none else some worker.interval
  | .error _ => some worker.errorBackoff

/-- The actions of at most a number of turns, and the world they leave. -/
def run {ω : Type} (worker : Worker) (around : Surroundings ω) : Nat → ω → List Action × ω
  | 0, world => ([], world)
  | turns + 1, world =>
      if around.isStopping world then ([.stopped], world)
      else
        let (result, world) := around.invoke world
        match worker.pauseAfter? result with
        | none =>
            let (actions, world) := worker.run around turns world
            (.invoked result :: actions, world)
        | some length =>
            let (elapsed, world) := around.pause length world
            let (actions, world) := worker.run around turns world
            (.invoked result :: .paused length elapsed :: actions, world)

end Worker

/-- The receiving end of the channel by which a worker is told to stop.  It holds the latest
value only. -/
structure Channel where
  stop : Bool := false
  /-- A value was sent since the last wait that saw one. -/
  unseen : Bool := false
  /-- The sending end is gone. -/
  closed : Bool := false
deriving DecidableEq, Repr, Inhabited

/-- What can happen at the sending end. -/
inductive Signal where
  | sent (stop : Bool)
  | dropped
deriving DecidableEq, Repr, Inhabited

namespace Channel

/-- The channel after a signal; nothing can be sent once the sending end is gone. -/
def receive (channel : Channel) : Signal → Channel
  | .sent stop => if channel.closed then channel else { channel with stop, unseen := true }
  | .dropped => { channel with closed := true }

/-- Whether a wait for a change ends at once: a value is unseen, or none can come any more. -/
def isReady (channel : Channel) : Bool := channel.unseen || channel.closed

/-- The channel after a wait that ended by a change. -/
def seen (channel : Channel) : Channel := { channel with unseen := false }

/-- Waits for a change, but at most for `remaining` milliseconds.  Each signal comes with the
time since the one before it.  Given back are the time waited, the channel, and the signals
that are still to come. -/
def wait (channel : Channel) (remaining : Nat) :
    List (Nat × Signal) → Nat × Channel × List (Nat × Signal)
  | [] => if channel.isReady then (0, channel.seen, []) else (remaining, channel, [])
  | (delay, signal) :: rest =>
      if channel.isReady then (0, channel.seen, (delay, signal) :: rest)
      else if remaining < delay then (remaining, channel, (delay - remaining, signal) :: rest)
      else
        let (waited, after, rest) := (channel.receive signal).wait (remaining - delay) rest
        (delay + waited, after, rest)

end Channel

/-- Receives the signals that come in during a time in which nobody waits. -/
def Channel.listen (channel : Channel) (time : Nat) :
    List (Nat × Signal) → Channel × List (Nat × Signal)
  | [] => (channel, [])
  | (delay, signal) :: rest =>
      if time < delay then (channel, (delay - time, signal) :: rest)
      else (channel.receive signal).listen (time - delay) rest

/-- A world in which invocations act on a storage and signals come in over time. -/
structure Signalled (σ : Type) where
  state : σ
  channel : Channel
  upcoming : List (Nat × Signal)

/-- Surroundings in which the channel tells when to stop and can cut a pause short.  An
invocation takes some time, during which signals come in too. -/
def Channel.surroundings {σ : Type} (invoke : σ → Nat × Reply σ SweepReport) :
    Surroundings (Signalled σ) where
  isStopping world := world.channel.stop
  invoke world :=
    let (time, result, state) := invoke world.state
    let (channel, upcoming) := world.channel.listen time world.upcoming
    (result, { state, channel, upcoming })
  pause length world :=
    let (elapsed, channel, upcoming) := world.channel.wait length world.upcoming
    (elapsed, { world with channel, upcoming })

end LooseKeys
