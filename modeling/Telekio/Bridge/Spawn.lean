import Telekio.Bridge.Effects

/-!
# The spawn functions and the tasks they start

`spawn`, `spawn_local` and `spawn_blocking` of `bridge/runtime/task.rs` and
`bridge/runtime/blocking.rs`. A `Spawn` is one descriptor: the call that hands
it to the host, the `GuestTask` or `GuestBlockingTask` built around it, and the
`TaskCleanup` beside that in the tracked task. Once the host has the tracked
task, call and task run on different threads, so each has a stage of its own.
-/

namespace Telekio.Bridge

open Telekio.Interleave
open Telekio.Owner

inductive SpawnKind where
  | spawn
  | spawnLocal
  | spawnBlocking
deriving DecidableEq, Repr

/-- How far the call has come. When the host's spawn panics, the tracked task
either unwinds with the call (`panicked`) or is in the host's scheduler already
and stays there without an abort handle (`abandoned`). -/
inductive SpawnCall where
  | called
  | refused
  | reserved
  | rejected
  | panicked
  | abandoned
  | spawned (handle : AbortHandle)
  | returned
deriving DecidableEq, Repr

/-- `GuestTask` and `GuestBlockingTask`: `ended` after the last poll or run,
with `complete`; then `Drop` and the release of the descriptor. -/
inductive GuestTask where
  | held
  | polling
  | ended (complete : Bool)
  | cancelling
  | releasing
  | released
deriving DecidableEq, Repr

/-- `TaskCleanup`, and the stages of the `finish_task` its drop calls. -/
inductive TaskCleanup where
  | unset
  | armed
  | removed
  | notifying
  | dropped
deriving DecidableEq, Repr

structure Spawn where
  kind : SpawnKind
  id : Nat
  call : SpawnCall
  task : GuestTask
  cleanup : TaskCleanup
deriving DecidableEq, Repr

namespace Spawn

/-- A call right after `GuestTask::new`. -/
def start (kind : SpawnKind) (id : Nat) : Spawn :=
  ⟨kind, id, .called, .held, .unset⟩

/-- The host may run the tracked task. An abandoned future was bound and never
scheduled; an abandoned blocking task is in the queue of the pool, where a
later worker may find it. -/
def hosted (spawn : Spawn) : Prop :=
  match spawn.call with
  | .spawned _ => True
  | .abandoned => spawn.kind = .spawnBlocking
  | .returned => True
  | _ => False

/-- The tracked task may be dropped: by the host, which drops an abandoned one
when its runtime shuts down, or by a failing call. -/
def droppable (spawn : Spawn) : Prop :=
  match spawn.call with
  | .called => False
  | .reserved => False
  | _ => True

/-- A call into the descriptor is in progress. -/
def calling (spawn : Spawn) : Prop :=
  match spawn.task with
  | .polling => True
  | .cancelling => True
  | .releasing => True
  | _ => False

/-- `reserve_task` accepted the task. -/
def admitted (spawn : Spawn) : Prop :=
  spawn.cleanup ≠ .unset

/-- The call has reserved its id and not reached the end of `register_task`.
A call that unwinds drops the tracked task itself, so it is not over before
the record is finished; a call that abandoned its task has returned. -/
def betweenReserveAndRegister (spawn : Spawn) : Prop :=
  match spawn.call with
  | .reserved => True
  | .rejected => True
  | .spawned _ => True
  | .panicked => spawn.cleanup = .armed
  | _ => False

/-- The host's spawn panicked with the tracked task in its scheduler, and the
record is still there. -/
def leftBehind (spawn : Spawn) : Prop :=
  spawn.call = .abandoned ∧ spawn.cleanup = .armed

/-- `finish_task` has removed the record and still has to notify. -/
def departing (spawn : Spawn) : Prop :=
  spawn.cleanup = .removed ∨ spawn.cleanup = .notifying

/-- The task record that this descriptor has to finish. -/
def record (spawn : Spawn) : Option Nat :=
  if spawn.cleanup = .armed then some spawn.id else none

inductive Acts (shared : Shared) : Spawn → Op → Spawn → Prop
  | reserve {spawn : Spawn} (called : spawn.call = .called)
      (accepted : (shared.owner.reserveTask spawn.id).2 = .ok ()) :
      Acts shared spawn (.reserveTask spawn.id)
        { spawn with call := .reserved, cleanup := .armed }
  | refuse {spawn : Spawn} {error : String}
      (called : spawn.call = .called)
      (refused : (shared.owner.reserveTask spawn.id).2 =
        .error error) :
      Acts shared spawn (.reserveTask spawn.id)
        { spawn with call := .refused }
  -- the two `LocalRuntime` checks of `spawn_local`
  | reject {spawn : Spawn} (isLocal : spawn.kind = .spawnLocal)
      (reserved : spawn.call = .reserved) :
      Acts shared spawn .skip { spawn with call := .rejected }
  | hostSpawn {spawn : Spawn} (handle : AbortHandle)
      (reserved : spawn.call = .reserved)
      (fresh : shared.hostTasks handle = none) :
      Acts shared spawn (.hostSpawn handle)
        { spawn with call := .spawned handle }
  | hostPanic {spawn : Spawn} (reserved : spawn.call = .reserved) :
      Acts shared spawn .skip { spawn with call := .panicked }
  -- `on_task_spawn` panics after the bind, or no worker thread can be started
  | hostAbandon {spawn : Spawn} (reserved : spawn.call = .reserved) :
      Acts shared spawn .skip { spawn with call := .abandoned }
  | register {spawn : Spawn} {handle : AbortHandle}
      (spawned : spawn.call = .spawned handle) :
      Acts shared spawn (.registerTask spawn.id handle)
        { spawn with call := .returned }
  | leaveRefused {spawn : Spawn} (refused : spawn.call = .refused)
      (released : spawn.task = .released) :
      Acts shared spawn .skip { spawn with call := .returned }
  | leaveRejected {spawn : Spawn} (rejected : spawn.call = .rejected)
      (dropped : spawn.cleanup = .dropped) :
      Acts shared spawn .skip { spawn with call := .returned }
  | poll {spawn : Spawn} (hosted : spawn.hosted)
      (held : spawn.task = .held)
      (running : shared.owner.isAccepting = true) :
      Acts shared spawn .skip { spawn with task := .polling }
  -- a tracked task that finds the owner shut down ends without a poll
  | cutOff {spawn : Spawn} (hosted : spawn.hosted)
      (held : spawn.task = .held)
      (refusing : shared.owner.isAccepting = false) :
      Acts shared spawn .skip { spawn with task := .ended false }
  | pending {spawn : Spawn} (isFuture : spawn.kind ≠ .spawnBlocking)
      (polling : spawn.task = .polling) :
      Acts shared spawn .skip { spawn with task := .held }
  | ready {spawn : Spawn} (polling : spawn.task = .polling) :
      Acts shared spawn .skip { spawn with task := .ended true }
  | guestPanicked {spawn : Spawn} (polling : spawn.task = .polling) :
      Acts shared spawn .skip { spawn with task := .ended false }
  -- the drop of the tracked task: the guest task first, its cleanup last
  | cancel {spawn : Spawn} (droppable : spawn.droppable)
      (incomplete : spawn.task = .held ∨ spawn.task = .ended false) :
      Acts shared spawn .skip { spawn with task := .cancelling }
  | cancelled {spawn : Spawn} (cancelling : spawn.task = .cancelling) :
      Acts shared spawn .skip { spawn with task := .releasing }
  | release {spawn : Spawn} (complete : spawn.task = .ended true) :
      Acts shared spawn .skip { spawn with task := .releasing }
  | released {spawn : Spawn} (releasing : spawn.task = .releasing) :
      Acts shared spawn .skip { spawn with task := .released }
  | removeTask {spawn : Spawn} (released : spawn.task = .released)
      (armed : spawn.cleanup = .armed) :
      Acts shared spawn (.removeTask spawn.id)
        { spawn with cleanup := .removed }
  | stillAccepting {spawn : Spawn}
      (removed : spawn.cleanup = .removed)
      (running : shared.owner.isAccepting = true) :
      Acts shared spawn .skip { spawn with cleanup := .dropped }
  | noLongerAccepting {spawn : Spawn}
      (removed : spawn.cleanup = .removed)
      (refusing : shared.owner.isAccepting = false) :
      Acts shared spawn .skip { spawn with cleanup := .notifying }
  | notify {spawn : Spawn} (notifying : spawn.cleanup = .notifying) :
      Acts shared spawn .notifyWaiters { spawn with cleanup := .dropped }

/-- What the stages of one descriptor say about each other: the record goes
after the descriptor is released, and a call that returns without a record
has released its descriptor. -/
structure Ordered (spawn : Spawn) : Prop where
  beforeReserve : spawn.call = .called ∨ spawn.call = .refused →
    spawn.cleanup = .unset
  afterReserve : spawn.cleanup = .unset →
    spawn.call = .called ∨ spawn.call = .refused ∨
      spawn.call = .returned ∧ spawn.task = .released
  waiting : spawn.call = .called ∨ spawn.call = .reserved →
    spawn.task = .held
  afterRelease : spawn.cleanup ≠ .unset → spawn.cleanup ≠ .armed →
    spawn.task = .released

theorem ordered_start (kind : SpawnKind) (id : Nat) :
    (start kind id).Ordered where
  beforeReserve := fun _ => rfl
  afterReserve := fun _ => Or.inl rfl
  waiting := fun _ => rfl
  afterRelease := fun set _ => absurd rfl set

theorem not_waiting_of_hosted {spawn : Spawn} (hosted : spawn.hosted) :
    spawn.call ≠ .called ∧ spawn.call ≠ .reserved ∧
      spawn.call ≠ .refused := by
  unfold Spawn.hosted at hosted
  cases stage : spawn.call <;> simp_all

theorem not_waiting_of_droppable {spawn : Spawn}
    (droppable : spawn.droppable) :
    spawn.call ≠ .called ∧ spawn.call ≠ .reserved := by
  unfold Spawn.droppable at droppable
  cases stage : spawn.call <;> simp_all

theorem ordered_acts {shared : Shared} {spawn next : Spawn} {op : Op}
    (acts : Acts shared spawn op next) (ordered : spawn.Ordered) :
    next.Ordered := by
  obtain ⟨beforeReserve, afterReserve, waiting, afterRelease⟩ := ordered
  cases acts with
  | poll hosted held running =>
      have stage := not_waiting_of_hosted hosted
      constructor <;> grind -ring -linarith
  | cutOff hosted held refusing =>
      have stage := not_waiting_of_hosted hosted
      constructor <;> grind -ring -linarith
  | cancel droppable incomplete =>
      have stage := not_waiting_of_droppable droppable
      constructor <;> grind -ring -linarith
  | _ => constructor <;> grind -ring -linarith

/-- A call that has returned does not begin again. -/
theorem returned_acts {shared : Shared} {spawn next : Spawn} {op : Op}
    (acts : Acts shared spawn op next) (returned : spawn.call = .returned) :
    next.call = .returned ∧ next.id = spawn.id := by
  cases acts <;> simp_all

end Spawn

end Telekio.Bridge
