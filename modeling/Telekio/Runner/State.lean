import Mathlib.Logic.Function.Basic

/-!
# The state word of a guest task

The bits of Tokio's task state that decide who gets a `Notified`, and the
transitions between them. References to the task are left out.
-/

namespace Telekio.Runner

structure TaskState where
  notified : Bool
  running : Bool
  complete : Bool
  cancelled : Bool
deriving DecidableEq, Repr

inductive ToRunning where
  | success
  | cancelled
  | failed
deriving DecidableEq, Repr

inductive ToIdle where
  | ok
  | okNotified
  | cancelled
deriving DecidableEq, Repr

namespace TaskState

/-- A new task has a `Notified`. -/
def new : TaskState where
  notified := true
  running := false
  complete := false
  cancelled := false

variable (state : TaskState)

/-- `transition_to_notified_by_ref`; the second part tells whether the caller
gets a `Notified` to submit. -/
def toNotified : TaskState × Bool :=
  if state.complete || state.notified then (state, false)
  else if state.running then ({ state with notified := true }, false)
  else ({ state with notified := true }, true)

/-- `transition_to_notified_and_cancel`. -/
def toNotifiedAndCancel : TaskState × Bool :=
  if state.cancelled || state.complete then (state, false)
  else if state.running then
    ({ state with notified := true, cancelled := true }, false)
  else if state.notified then ({ state with cancelled := true }, false)
  else ({ state with notified := true, cancelled := true }, true)

/-- `transition_to_notified_for_tracing`. -/
def toNotifiedForTracing : TaskState × Bool :=
  if state.notified then (state, false)
  else ({ state with notified := true }, true)

/-- `transition_to_running`, with the `Notified` given up. -/
def toRunning : TaskState × ToRunning :=
  if state.running || state.complete then (state, .failed)
  else if state.cancelled then
    ({ state with running := true, notified := false }, .cancelled)
  else ({ state with running := true, notified := false }, .success)

/-- `transition_to_idle`. -/
def toIdle : TaskState × ToIdle :=
  if state.cancelled then (state, .cancelled)
  else if state.notified then ({ state with running := false }, .okNotified)
  else ({ state with running := false }, .ok)

/-- `transition_to_complete`. -/
def toComplete : TaskState :=
  { state with running := false, complete := true }

/-- `transition_to_shutdown`; the second part tells whether the task was
idle, so that the caller completes it. -/
def toShutdown : TaskState × Bool :=
  if state.running || state.complete then
    ({ state with cancelled := true }, false)
  else ({ state with running := true, cancelled := true }, true)

variable {state}

theorem toNotifiedAndCancel_submits :
    state.toNotifiedAndCancel.2 = true ↔
      state.notified = false ∧ state.running = false ∧
        state.complete = false ∧ state.cancelled = false := by
  rcases state with ⟨notified, running, complete, cancelled⟩
  revert notified running complete cancelled
  decide

end TaskState

end Telekio.Runner
