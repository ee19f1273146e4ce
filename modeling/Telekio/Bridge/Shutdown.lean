import Telekio.Bridge.Calls

/-!
# The shutdown of an owner

`shutdown_owner` of `bridge/owner.rs`. A `Shutdown` is one run: the future
itself, which may be dropped at its two await points, and the closure that
`spawn_blocking` runs on another thread and that goes on without the future.
-/

namespace Telekio.Bridge

open Telekio.Interleave
open Telekio.Owner

/-- Why the closure fails: a runtime it cannot close, or a failed join. -/
inductive CloseError where
  | close
  | join
deriving DecidableEq, Repr

/-- Why a run returns an error: an open `LocalRuntime` at the cutoff, or its
closure. -/
inductive ShutdownError where
  | localRuntime
  | closing (error : CloseError)
deriving DecidableEq, Repr

/-- How far the future has come, with what its loops have still to do. A
`Notified` is the count of notifications at its creation. -/
inductive ShutdownStage where
  | called
  | entered
  | aborting (snapshot : Snapshot)
  | closing (resources : List ResourceRef) (wakers : List Waker)
  | valueTaken (resource : ResourceRef) (resources : List ResourceRef)
      (wakers : List Waker)
  | waking (wakers : List Waker)
  | listing
  | dropping
  | joining
  | idling
  | checking (notified : Nat)
  | parked (notified : Nat)
  | leaving
  | returned (result : Except ShutdownError Unit)
  | cancelled

/-- The closure given to `spawn_blocking`: the runtimes it has still to
close, then the drop of its cleanup. -/
inductive ShutdownClosure where
  | absent
  | closing (runtimes : List RuntimeRef)
  | dropping (result : Except CloseError Unit)
  | finished (result : Except CloseError Unit)

namespace ShutdownStage

/-- The host tasks still to abort, once the owner is cut off. -/
def tasksLeft : ShutdownStage → Option (List AbortHandle)
  | .called => none
  | .entered => none
  | .leaving => none
  | .returned (.error .localRuntime) => none
  | .aborting snapshot => some snapshot.tasks
  | _ => some []

/-- The resources still to close. -/
def resourcesLeft : ShutdownStage → Option (List ResourceRef)
  | .called => none
  | .entered => none
  | .leaving => none
  | .returned (.error .localRuntime) => none
  | .aborting snapshot => some snapshot.resources
  | .closing resources _ => some resources
  | .valueTaken resource resources _ => some (resource :: resources)
  | _ => some []

/-- The activity wakers still to wake. -/
def wakersLeft : ShutdownStage → Option (List Waker)
  | .called => none
  | .entered => none
  | .leaving => none
  | .returned (.error .localRuntime) => none
  | .aborting snapshot => some snapshot.activities
  | .closing _ wakers => some wakers
  | .valueTaken _ _ wakers => some wakers
  | .waking wakers => some wakers
  | _ => some []

/-- In `wait_idle`, or past it. -/
def waits : ShutdownStage → Prop
  | .idling => True
  | .checking _ => True
  | .parked _ => True
  | .returned (.ok ()) => True
  | _ => False

end ShutdownStage

structure Shutdown where
  cleanup : Cleanup
  stage : ShutdownStage
  closure : ShutdownClosure

namespace Shutdown

def start : Shutdown :=
  ⟨.absent, .called, .absent⟩

/-- The runtimes still to close, once they are listed. -/
def runtimesLeft (run : Shutdown) : Option (List RuntimeRef) :=
  match run.closure with
  | .closing runtimes => some runtimes
  | .dropping (.ok ()) => some []
  | .finished (.ok ()) => some []
  | .dropping (.error _) => none
  | .finished (.error _) => none
  | .absent =>
      match run.stage with
      | .dropping => some []
      | .idling => some []
      | .checking _ => some []
      | .parked _ => some []
      | .returned (.ok ()) => some []
      | _ => none

/-- The future or its closure is at the drop of the cleanup. -/
def dropsCleanup (run : Shutdown) : Prop :=
  match run.stage, run.closure with
  | _, .dropping _ => True
  | .dropping, _ => True
  | .leaving, _ => True
  | _, _ => False

inductive Acts (shared : Shared) : Shutdown → Op → Shutdown → Prop
  | callback {run : Shutdown} {id : Nat} (called : run.stage = .called)
      (admitted : (shared.owner.callback .noop).2 = some id) :
      Acts shared run (.callback .noop)
        { run with cleanup := .armed id, stage := .entered }
  | refuseCallback {run : Shutdown} (called : run.stage = .called)
      (refused : (shared.owner.callback .noop).2 = none) :
      Acts shared run (.callback .noop) { run with stage := .entered }
  | refuseCutoff {run : Shutdown} {error : String}
      (entered : run.stage = .entered)
      (refused :
        (shared.owner.cutoff shared.localOpen).2 = .error error) :
      Acts shared run .cutoff { run with stage := .leaving }
  | cutoff {run : Shutdown} {snapshot : Snapshot}
      (entered : run.stage = .entered)
      (succeeded :
        (shared.owner.cutoff shared.localOpen).2 = .ok snapshot) :
      Acts shared run .cutoff { run with stage := .aborting snapshot }
  | abort {run : Shutdown} {task : AbortHandle}
      {tasks : List AbortHandle} {resources : List ResourceRef}
      {wakers : List Waker}
      (aborting : run.stage =
        .aborting ⟨task :: tasks, resources, wakers⟩) :
      Acts shared run (.abort task)
        { run with stage := .aborting ⟨tasks, resources, wakers⟩ }
  | aborted {run : Shutdown} {resources : List ResourceRef}
      {wakers : List Waker}
      (aborting : run.stage = .aborting ⟨[], resources, wakers⟩) :
      Acts shared run .skip
        { run with stage := .closing resources wakers }
  | takeValue {run : Shutdown} {resource : ResourceRef}
      {resources : List ResourceRef} {wakers : List Waker}
      (closing : run.stage = .closing (resource :: resources) wakers) :
      Acts shared run (.takeValue resource)
        { run with stage := .valueTaken resource resources wakers }
  | takeWaker {run : Shutdown} {resource : ResourceRef}
      {resources : List ResourceRef} {wakers : List Waker}
      (valueTaken : run.stage =
        .valueTaken resource resources wakers) :
      Acts shared run (.takeWaker resource)
        { run with stage := .closing resources wakers }
  | closed {run : Shutdown} {wakers : List Waker}
      (closing : run.stage = .closing [] wakers) :
      Acts shared run .skip { run with stage := .waking wakers }
  | wake {run : Shutdown} {waker : Waker} {wakers : List Waker}
      (waking : run.stage = .waking (waker :: wakers)) :
      Acts shared run (.wake waker) { run with stage := .waking wakers }
  | woken {run : Shutdown} (waking : run.stage = .waking []) :
      Acts shared run .skip { run with stage := .listing }
  | spawnBlocking {run : Shutdown} {runtime : RuntimeRef}
      {runtimes : List RuntimeRef} (listing : run.stage = .listing)
      (listed : shared.owner.runtimes shared.runtimeClosed =
        runtime :: runtimes) :
      Acts shared run .listRuntimes
        { run with
          stage := .joining
          closure := .closing (runtime :: runtimes) }
  | noRuntimes {run : Shutdown} (listing : run.stage = .listing)
      (listed : shared.owner.runtimes shared.runtimeClosed = []) :
      Acts shared run .listRuntimes { run with stage := .dropping }
  | closeRuntime {run : Shutdown} {runtime : RuntimeRef}
      {runtimes : List RuntimeRef} {kind : RuntimeKind} (thread : Nat)
      (closing : run.closure = .closing (runtime :: runtimes))
      (known : shared.runtimes runtime = some kind)
      (succeeded : (kind.close thread).2 = .ok ()) :
      Acts shared run (.closeRuntime runtime thread)
        { run with closure := .closing runtimes }
  | refuseClose {run : Shutdown} {runtime : RuntimeRef}
      {runtimes : List RuntimeRef} {kind : RuntimeKind} {error : String}
      (thread : Nat)
      (closing : run.closure = .closing (runtime :: runtimes))
      (known : shared.runtimes runtime = some kind)
      (refused : (kind.close thread).2 = .error error) :
      Acts shared run (.closeRuntime runtime thread)
        { run with closure := .dropping (.error .close) }
  -- the closure panics, or the host drops it unrun
  | abandon {run : Shutdown} {runtimes : List RuntimeRef}
      (closing : run.closure = .closing runtimes) :
      Acts shared run .skip
        { run with closure := .dropping (.error .join) }
  | closedAll {run : Shutdown} (closing : run.closure = .closing []) :
      Acts shared run .skip
        { run with closure := .dropping (.ok ()) }
  | drop {run : Shutdown} {op : Op} {next : Cleanup}
      (dropping : run.dropsCleanup)
      (drops : Cleanup.Drops run.cleanup op next) :
      Acts shared run op { run with cleanup := next }
  | finish {run : Shutdown} {result : Except CloseError Unit}
      (dropping : run.closure = .dropping result)
      (gone : run.cleanup.gone) :
      Acts shared run .skip { run with closure := .finished result }
  | joined {run : Shutdown} (joining : run.stage = .joining)
      (finished : run.closure = .finished (.ok ())) :
      Acts shared run .skip { run with stage := .idling }
  | joinedError {run : Shutdown} {error : CloseError}
      (joining : run.stage = .joining)
      (finished : run.closure = .finished (.error error)) :
      Acts shared run .skip
        { run with stage := .returned (.error (.closing error)) }
  | dropped {run : Shutdown} (dropping : run.stage = .dropping)
      (gone : run.cleanup.gone) :
      Acts shared run .skip { run with stage := .idling }
  | notified {run : Shutdown} (idling : run.stage = .idling) :
      Acts shared run .skip
        { run with stage := .checking shared.owner.notify }
  | idle {run : Shutdown} {notified : Nat}
      (checking : run.stage = .checking notified)
      (idle : shared.owner.idle = true) :
      Acts shared run .waitIdle { run with stage := .returned (.ok ()) }
  | park {run : Shutdown} {notified : Nat}
      (checking : run.stage = .checking notified)
      (busy : shared.owner.idle = false) :
      Acts shared run .waitIdle { run with stage := .parked notified }
  | unpark {run : Shutdown} {notified : Nat}
      (parked : run.stage = .parked notified)
      (fired : notified < shared.owner.notify) :
      Acts shared run .skip { run with stage := .idling }
  | refused {run : Shutdown} (leaving : run.stage = .leaving)
      (gone : run.cleanup.gone) :
      Acts shared run .skip
        { run with stage := .returned (.error .localRuntime) }
  -- the future is dropped at an await point
  | cancelJoining {run : Shutdown} (joining : run.stage = .joining) :
      Acts shared run .skip { run with stage := .cancelled }
  | cancelParked {run : Shutdown} {notified : Nat}
      (parked : run.stage = .parked notified) :
      Acts shared run .skip { run with stage := .cancelled }

/-- What the stages of one run say about its cleanup and its closure: the
run never waits while it holds its own activity, and it waits only when every
runtime it listed is closed. -/
structure Ordered (run : Shutdown) : Prop where
  called : run.stage = .called → run.cleanup = .absent
  noClosure : run.stage.tasksLeft = none → run.closure = .absent
  listing : run.closure ≠ .absent →
    run.stage = .joining ∨ run.stage = .cancelled ∨
      (∃ error, run.stage = .returned (.error (.closing error))) ∨
      run.stage.waits
  finished : ∀ result, run.closure = .finished result →
    run.cleanup.gone
  waiting : run.stage.waits →
    run.cleanup.gone ∧
      (run.closure = .absent ∨ run.closure = .finished (.ok ()))
  refused : run.stage = .returned (.error .localRuntime) →
    run.cleanup.gone

theorem ordered_start : start.Ordered where
  called := fun _ => rfl
  noClosure := fun _ => rfl
  listing := fun closure => absurd rfl closure
  finished := by rintro result ⟨⟩
  waiting := fun waits => waits.elim
  refused := by rintro ⟨⟩

theorem not_gone_of_drops {before after : Cleanup} {op : Op}
    (drops : Cleanup.Drops before op after) : ¬ before.gone := by
  cases drops with
  | remove armed => simp [armed, Cleanup.gone]
  | notify removed => simp [removed, Cleanup.gone]

theorem ordered_acts {shared : Shared} {run next : Shutdown} {op : Op}
    (acts : Acts shared run op next) (ordered : run.Ordered) :
    next.Ordered := by
  obtain ⟨called, noClosure, listing, finished, waiting, refused⟩ :=
    ordered
  cases acts with
  | drop dropping drops =>
      have held := not_gone_of_drops drops
      constructor <;>
        grind -ring -linarith
          [ShutdownStage.tasksLeft, ShutdownStage.waits, Cleanup.gone]
  | _ =>
      constructor <;>
        grind -ring -linarith
          [ShutdownStage.tasksLeft, ShutdownStage.waits, Cleanup.gone]

end Shutdown

end Telekio.Bridge
