import Telekio.Interleave.Ownership
import Telekio.Interleave.Balancing
import Telekio.Interleave.Layer
import Telekio.Runner.State

/-!
# One guest task under the host scheduler

The scheduler of one guest task: the slot `runnable`, the stored host waker
and the task state. The host uses its descriptor in one call after the other,
so the stage of that call is part of the shared state. Wakes and aborts come
from any threads, which may be tracing.
-/

namespace Telekio.Runner

open Telekio.Interleave

/-- Identity of a waker of the host task. -/
abbrev WakerRef := Nat

/-- A call of `TaskSchedule::schedule`: `locking` when it has read whether
the task is cancelled, `checked` with the lock held and the task found
incomplete, `stored` before the wake, `aborting` before the abort. -/
inductive Scheduling where
  | called
  | locking (cancelled : Bool)
  | checked (cancelled : Bool)
  | stored (cancelled : Bool)
  | aborting
  | returned
deriving DecidableEq, Repr

/-- Completion of the task: the COMPLETE bit, then the two halves of the
release hook. -/
inductive Completing where
  | bit
  | runnable
  | waker
deriving DecidableEq, Repr

/-- A call of `poll_task`. `defer` and `run` are with a `Notified` in hand,
`running` is inside `run_host`, `waking` inside the re-check that has found
the slot full, `panicked` and `aborting` after an unwind. -/
inductive PollStage where
  | checkComplete
  | take
  | notify
  | defer
  | run
  | running
  | completing (stage : Completing)
  | yielding (call : Scheduling)
  | checkAgain
  | store
  | recheck
  | waking
  | panicked
  | aborting (call : Scheduling)
deriving DecidableEq, Repr

/-- `task.shutdown()`. -/
inductive ShuttingDown where
  | called
  | completing (stage : Completing)
  | returned
deriving DecidableEq, Repr

/-- What the host does with the descriptor. `ended` is after the last poll,
with `GuestTask::complete`. -/
inductive Host where
  | binding
  | ready
  | polling (waker : WakerRef) (tracing : Bool) (stage : PollStage)
  | ended (complete : Bool)
  | cancelling (call : ShuttingDown)
  | releasing
  | shuttingDown (call : ShuttingDown)
  | released
deriving DecidableEq, Repr

/-- `locked` tells whether a call of `schedule` has the lock of `runnable`.
`polled`, `finished`, `woken`, `tokens`, `emptied`, `hooked`, `twice` and
`panicked` are history: whether a poll has begun, the waker of the latest
poll that has finished, the wakers woken since a poll last took the slot, the
number of `Notified` values, the two halves of the release hook, whether the
assertion of `schedule` has failed, and whether a poll has unwound. -/
structure Shared where
  state : TaskState
  locked : Bool
  runnable : Bool
  waker : Option WakerRef
  host : Host
  polled : Bool
  finished : Option WakerRef
  woken : List WakerRef
  tokens : Nat
  emptied : Bool
  hooked : Bool
  twice : Bool
  panicked : Bool

/-- The task that `new_task` has made for `bind`. -/
def Shared.new : Shared where
  state := TaskState.new
  locked := false
  runnable := false
  waker := none
  host := .binding
  polled := false
  finished := none
  woken := []
  tokens := 1
  emptied := false
  hooked := false
  twice := false
  panicked := false

/-- `store` is the `replace` of `schedule` with its assertion; `discard`
drops a `Notified`; `emptyRunnable` and `emptyWaker` are the halves of the
release hook; `finish` is the end of a poll that returns `Pending`. -/
inductive Effect where
  | skip
  | bind
  | toNotified
  | toNotifiedAndCancel
  | toNotifiedForTracing
  | toRunning
  | toIdle
  | toComplete (ran : Bool)
  | toShutdown
  | lock
  | store
  | discard
  | wake (tracing : Bool)
  | begin
  | takeRunnable
  | setWaker (waker : WakerRef)
  | finish (waker : WakerRef)
  | wakeAndFinish (tracing : Bool) (waker : WakerRef)
  | emptyRunnable
  | emptyWaker
  | unwind
deriving DecidableEq, Repr

namespace Shared

variable (shared : Shared)

/-- A transition that may hand out a `Notified`. -/
def submit (transition : TaskState × Bool) : Shared :=
  { shared with
    state := transition.1
    tokens := shared.tokens + transition.2.toNat }

/-- `TaskSchedule::wake`. -/
def wake (tracing : Bool) : Shared :=
  if tracing then shared
  else { shared with woken := shared.waker.toList ++ shared.woken }

/-- The body of `schedule` under the lock, for an incomplete task. -/
def store : Shared :=
  if shared.runnable then
    { shared with locked := false, twice := true, tokens := shared.tokens - 1 }
  else { shared with locked := false, runnable := true }

end Shared

def Effect.apply (effect : Effect) (shared : Shared) : Shared :=
  match effect with
  | .skip => shared
  | .bind => { shared with runnable := true }
  | .toNotified => shared.submit shared.state.toNotified
  | .toNotifiedAndCancel => shared.submit shared.state.toNotifiedAndCancel
  | .toNotifiedForTracing => shared.submit shared.state.toNotifiedForTracing
  | .toRunning =>
      { shared with
        state := shared.state.toRunning.1
        tokens :=
          if shared.state.toRunning.2 = .failed then shared.tokens - 1
          else shared.tokens }
  | .toIdle =>
      { shared with
        state := shared.state.toIdle.1
        tokens :=
          if shared.state.toIdle.2 = .ok then shared.tokens - 1
          else shared.tokens }
  | .toComplete ran =>
      { shared with
        state := shared.state.toComplete
        tokens := if ran then shared.tokens - 1 else shared.tokens }
  | .toShutdown => { shared with state := shared.state.toShutdown.1 }
  | .lock => { shared with locked := true }
  | .store => shared.store
  | .discard => { shared with tokens := shared.tokens - 1 }
  | .wake tracing => shared.wake tracing
  | .begin => { shared with polled := true }
  | .takeRunnable => { shared with runnable := false, woken := [] }
  | .setWaker waker => { shared with waker := some waker }
  | .finish waker => { shared with finished := some waker }
  | .wakeAndFinish tracing waker =>
      { shared.wake tracing with finished := some waker }
  | .emptyRunnable =>
      { shared with
        runnable := false
        tokens := shared.tokens - shared.runnable.toNat
        emptied := true }
  | .emptyWaker =>
      { shared.wake false with waker := none, hooked := true }
  | .unwind =>
      { shared with tokens := shared.tokens - 1, panicked := true }

/-- An effect, and what the host does next when the effect is its own. -/
structure Op where
  effect : Effect
  host : Option Host

def Op.apply (op : Op) (shared : Shared) : Shared :=
  match op.host with
  | none => op.effect.apply shared
  | some host => { op.effect.apply shared with host := host }

attribute [grind] Op.apply Effect.apply Shared.submit Shared.wake
  Shared.store TaskState.toNotified TaskState.toNotifiedAndCancel
  TaskState.toNotifiedForTracing TaskState.toRunning TaskState.toIdle
  TaskState.toComplete TaskState.toShutdown

/-! ## The calls -/

inductive Scheduling.Acts (shared : Shared) (tracing : Bool) :
    Scheduling → Effect → Scheduling → Prop
  | readCancelled :
      Scheduling.Acts shared tracing .called .skip
        (.locking shared.state.cancelled)
  | isComplete {cancelled : Bool} (free : shared.locked = false)
      (complete : shared.state.complete = true) :
      Scheduling.Acts shared tracing (.locking cancelled) .discard
        .returned
  | check {cancelled : Bool} (free : shared.locked = false)
      (incomplete : shared.state.complete = false) :
      Scheduling.Acts shared tracing (.locking cancelled) .lock
        (.checked cancelled)
  | store {cancelled : Bool} :
      Scheduling.Acts shared tracing (.checked cancelled) .store
        (.stored cancelled)
  | wake {cancelled : Bool} :
      Scheduling.Acts shared tracing (.stored cancelled)
        (.wake tracing) (if cancelled then .aborting else .returned)
  | abort :
      Scheduling.Acts shared tracing .aborting .skip .returned

inductive Completing.Acts (shared : Shared) (ran : Bool) :
    Completing → Effect → Option Completing → Prop
  | bit :
      Completing.Acts shared ran .bit (.toComplete ran) (some .runnable)
  | runnable (free : shared.locked = false) :
      Completing.Acts shared ran .runnable .emptyRunnable (some .waker)
  | waker : Completing.Acts shared ran .waker .emptyWaker none

inductive ShuttingDown.Acts (shared : Shared) :
    ShuttingDown → Effect → ShuttingDown → Prop
  | idle (idle : shared.state.toShutdown.2 = true) :
      ShuttingDown.Acts shared .called .toShutdown (.completing .bit)
  | busy (busy : shared.state.toShutdown.2 = false) :
      ShuttingDown.Acts shared .called .toShutdown .returned
  | completing {stage : Completing} {effect : Effect}
      {next : Option Completing}
      (acts : Completing.Acts shared false stage effect next) :
      ShuttingDown.Acts shared (.completing stage) effect
        (next.elim .returned .completing)

/-- The steps of `poll_task` before it returns. -/
inductive PollStage.Acts (shared : Shared) (waker : WakerRef)
    (tracing : Bool) : PollStage → Effect → PollStage → Prop
  | incomplete (incomplete : shared.state.complete = false) :
      PollStage.Acts shared waker tracing .checkComplete .skip .take
  | take (untraced : tracing = false) (free : shared.locked = false)
      (full : shared.runnable = true) :
      PollStage.Acts shared waker tracing .take .takeRunnable .run
  | takeNone (untraced : tracing = false) (free : shared.locked = false)
      (empty : shared.runnable = false) :
      PollStage.Acts shared waker tracing .take .takeRunnable .checkAgain
  -- `take_or_notify`
  | takeTraced (traced : tracing = true) (free : shared.locked = false)
      (full : shared.runnable = true) :
      PollStage.Acts shared waker tracing .take .takeRunnable .defer
  | orNotify (traced : tracing = true) (free : shared.locked = false)
      (empty : shared.runnable = false) :
      PollStage.Acts shared waker tracing .take .takeRunnable .notify
  | notified
      (submits : shared.state.toNotifiedForTracing.2 = true) :
      PollStage.Acts shared waker tracing .notify .toNotifiedForTracing
        .defer
  | notNotified
      (already : shared.state.toNotifiedForTracing.2 = false) :
      PollStage.Acts shared waker tracing .notify .toNotifiedForTracing
        .checkAgain
  | defer : PollStage.Acts shared waker tracing .defer .skip .run
  | deferPanics :
      PollStage.Acts shared waker tracing .defer .unwind .panicked
  | runPanics : PollStage.Acts shared waker tracing .run .unwind .panicked
  | run (success : shared.state.toRunning.2 = .success) :
      PollStage.Acts shared waker tracing .run .toRunning .running
  | runCancelled (cancelled : shared.state.toRunning.2 = .cancelled) :
      PollStage.Acts shared waker tracing .run .toRunning
        (.completing .bit)
  | runFailed (failed : shared.state.toRunning.2 = .failed) :
      PollStage.Acts shared waker tracing .run .toRunning .checkAgain
  | pending (idle : shared.state.toIdle.2 = .ok) :
      PollStage.Acts shared waker tracing .running .toIdle .checkAgain
  | pendingNotified (idle : shared.state.toIdle.2 = .okNotified) :
      PollStage.Acts shared waker tracing .running .toIdle
        (.yielding .called)
  | pendingCancelled (idle : shared.state.toIdle.2 = .cancelled) :
      PollStage.Acts shared waker tracing .running .toIdle
        (.completing .bit)
  | ready :
      PollStage.Acts shared waker tracing .running .skip (.completing .bit)
  -- the panic policy cannot be applied
  | runningPanics :
      PollStage.Acts shared waker tracing .running .unwind .panicked
  | completing {stage : Completing} {effect : Effect}
      {next : Option Completing}
      (acts : Completing.Acts shared true stage effect next) :
      PollStage.Acts shared waker tracing (.completing stage) effect
        (next.elim .checkAgain .completing)
  | yield {call next : Scheduling} {effect : Effect}
      (acts : Scheduling.Acts shared tracing call effect next) :
      PollStage.Acts shared waker tracing (.yielding call) effect
        (.yielding next)
  | yielded :
      PollStage.Acts shared waker tracing (.yielding .returned) .skip
        .checkAgain
  | stillIncomplete (incomplete : shared.state.complete = false) :
      PollStage.Acts shared waker tracing .checkAgain .skip .store
  | store :
      PollStage.Acts shared waker tracing .store (.setWaker waker) .recheck
  | recheck (free : shared.locked = false) (full : shared.runnable = true) :
      PollStage.Acts shared waker tracing .recheck .skip .waking
  -- `remote_abort` after an unwind
  | abort (submits : shared.state.toNotifiedAndCancel.2 = true) :
      PollStage.Acts shared waker tracing .panicked .toNotifiedAndCancel
        (.aborting .called)
  | aborting {outside : Bool} {call next : Scheduling} {effect : Effect}
      (acts : Scheduling.Acts shared outside call effect next) :
      PollStage.Acts shared waker tracing (.aborting call) effect
        (.aborting next)

inductive Host.Acts (shared : Shared) : Host → Effect → Host → Prop
  | bind : Host.Acts shared .binding .bind .ready
  | poll (waker : WakerRef) (tracing : Bool) :
      Host.Acts shared .ready .begin (.polling waker tracing .checkComplete)
  | polling {waker : WakerRef} {tracing : Bool} {stage next : PollStage}
      {effect : Effect}
      (acts : PollStage.Acts shared waker tracing stage effect next) :
      Host.Acts shared (.polling waker tracing stage) effect
        (.polling waker tracing next)
  | alreadyComplete {waker : WakerRef} {tracing : Bool}
      (complete : shared.state.complete = true) :
      Host.Acts shared (.polling waker tracing .checkComplete) .skip
        (.ended true)
  | nowComplete {waker : WakerRef} {tracing : Bool}
      (complete : shared.state.complete = true) :
      Host.Acts shared (.polling waker tracing .checkAgain) .skip
        (.ended true)
  | recheckedEmpty {waker : WakerRef} {tracing : Bool}
      (free : shared.locked = false) (empty : shared.runnable = false) :
      Host.Acts shared (.polling waker tracing .recheck) (.finish waker)
        .ready
  | recheckWake {waker : WakerRef} {tracing : Bool} :
      Host.Acts shared (.polling waker tracing .waking)
        (.wakeAndFinish tracing waker) .ready
  | abortedAlready {waker : WakerRef} {tracing : Bool}
      (already : shared.state.toNotifiedAndCancel.2 = false) :
      Host.Acts shared (.polling waker tracing .panicked)
        .toNotifiedAndCancel (.ended false)
  | aborted {waker : WakerRef} {tracing : Bool} :
      Host.Acts shared (.polling waker tracing (.aborting .returned)) .skip
        (.ended false)
  | drop : Host.Acts shared .ready .skip (.ended false)
  -- `GuestTask::drop`
  | cancel : Host.Acts shared (.ended false) .skip (.cancelling .called)
  | cancelling {call next : ShuttingDown} {effect : Effect}
      (acts : ShuttingDown.Acts shared call effect next) :
      Host.Acts shared (.cancelling call) effect (.cancelling next)
  | cancelled : Host.Acts shared (.cancelling .returned) .skip .releasing
  | release {complete : Bool} :
      Host.Acts shared (.ended complete) .skip .releasing
  | releaseComplete (complete : shared.state.complete = true) :
      Host.Acts shared .releasing .skip .released
  | releaseIncomplete (incomplete : shared.state.complete = false) :
      Host.Acts shared .releasing .skip (.shuttingDown .called)
  | shuttingDown {call next : ShuttingDown} {effect : Effect}
      (acts : ShuttingDown.Acts shared call effect next) :
      Host.Acts shared (.shuttingDown call) effect (.shuttingDown next)
  | shutDown : Host.Acts shared (.shuttingDown .returned) .skip .released

/-- A wake of the task, or an abort. -/
inductive Waking where
  | called (abort : Bool)
  | scheduling (call : Scheduling)
  | returned
deriving DecidableEq, Repr

inductive Waking.Acts (shared : Shared) (tracing : Bool) :
    Waking → Effect → Waking → Prop
  | submit (submits : shared.state.toNotified.2 = true) :
      Waking.Acts shared tracing (.called false) .toNotified
        (.scheduling .called)
  | already (already : shared.state.toNotified.2 = false) :
      Waking.Acts shared tracing (.called false) .toNotified .returned
  | submitAbort (submits : shared.state.toNotifiedAndCancel.2 = true) :
      Waking.Acts shared tracing (.called true) .toNotifiedAndCancel
        (.scheduling .called)
  | alreadyAbort (already : shared.state.toNotifiedAndCancel.2 = false) :
      Waking.Acts shared tracing (.called true) .toNotifiedAndCancel
        .returned
  | schedule {call next : Scheduling} {effect : Effect}
      (acts : Scheduling.Acts shared tracing call effect next) :
      Waking.Acts shared tracing (.scheduling call) effect
        (.scheduling next)

/-- The host, whose stage is shared, or a wake. -/
inductive Thread where
  | host
  | waking (tracing : Bool) (call : Waking)
deriving DecidableEq, Repr

namespace Thread

inductive Starts : Thread → Prop
  | host : Starts .host
  | waking (tracing abort : Bool) : Starts (.waking tracing (.called abort))

inductive Acts (shared : Shared) : Thread → Op → Thread → Prop
  | host {effect : Effect} {next : Host}
      (acts : Host.Acts shared shared.host effect next) :
      Acts shared .host ⟨effect, some next⟩ .host
  | waking {tracing : Bool} {call next : Waking} {effect : Effect}
      (acts : Waking.Acts shared tracing call effect next) :
      Acts shared (.waking tracing call) ⟨effect, none⟩
        (.waking tracing next)

end Thread

/-- The scheduler of one guest task. -/
def program : Program Shared Thread Op where
  initial := fun shared => shared = Shared.new
  start := Thread.Starts
  act := Thread.Acts
  apply := Op.apply

abbrev World :=
  Interleave.World Shared Thread

theorem reachable_new : program.Reachable (World.quiet Shared.new) :=
  Program.Reachable.quiet rfl

end Telekio.Runner
