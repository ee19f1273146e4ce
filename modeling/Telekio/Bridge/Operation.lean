import Telekio.Interleave.Table
import Telekio.Owner.Objects

/-!
# The shared state of one owner and its atomic operations

`Shared` is everything the threads of a plugin and its host share through one
owner: the owner itself and the objects its records point to. `Op` names the
critical sections and atomic accesses of the source; `Op.apply` is what they
do.
-/

namespace Telekio.Bridge

open Telekio.Interleave
open Telekio.Owner

/-- What matters of a `HandleContext` when it is dropped: whether its host
handle belongs to a runtime the plugin built, and so stores guest builder
callbacks, and whether a worker observer is installed in it. -/
structure HandleContext where
  guestBuilt : Bool
  workerObserver : Bool
deriving DecidableEq, Repr

/-- `hostTasks` tells of every host task whether `abort` has been called on
it, and `woken` of every waker whether it has been woken after the cutoff. -/
structure Shared where
  owner : OwnerState
  hostTasks : AbortHandle → Option Bool
  runtimes : RuntimeRef → Option RuntimeKind
  resources : ResourceRef → Option (HostResource Unit Nat)
  deferreds : Nat → Option DeferredState
  contexts : ContextRef → Option HandleContext
  woken : Waker → Bool

namespace Shared

/-- The state right after `owner_state`. -/
def fresh : Shared where
  owner := ownerState
  hostTasks := fun _ => none
  runtimes := fun _ => none
  resources := fun _ => none
  deferreds := fun _ => none
  contexts := fun _ => none
  woken := fun _ => false

variable (shared : Shared)

abbrev accepting : Bool :=
  shared.owner.accepting

abbrev tasks : Table (Option AbortHandle) :=
  shared.owner.state.tasks

abbrev activities : Table (Option Waker) :=
  shared.owner.state.activities

abbrev nextId : Nat :=
  shared.owner.state.nextId

def aborted (handle : AbortHandle) : Prop :=
  shared.hostTasks handle = some true

def runtimeClosed (runtime : RuntimeRef) : Bool :=
  (shared.runtimes runtime).any RuntimeKind.isClosed

def localOpen (runtime : RuntimeRef) : Bool :=
  (shared.runtimes runtime).any RuntimeKind.localOpen

def resourceClosed (resource : ResourceRef) : Bool :=
  (shared.resources resource).any HostResource.isClosed

/-- Both statements of a `HostResource::close` have run. -/
def resourceShut (resource : ResourceRef) : Prop :=
  shared.resources resource = some ⟨none, none⟩

variable {shared}

theorem runtimeClosed_iff {runtime : RuntimeRef} :
    shared.runtimeClosed runtime = true ↔
      ∃ kind, shared.runtimes runtime = some kind ∧
        kind.isClosed = true := by
  simp [runtimeClosed, Option.any_eq_true]

theorem resourceClosed_iff {resource : ResourceRef} :
    shared.resourceClosed resource = true ↔
      ∃ held, shared.resources resource = some held ∧
        held.isClosed = true := by
  simp [resourceClosed, Option.any_eq_true]

theorem resourceClosed_of_resourceShut {resource : ResourceRef}
    (shut : shared.resourceShut resource) :
    shared.resourceClosed resource = true :=
  resourceClosed_iff.mpr ⟨_, shut, rfl⟩

end Shared

/-- The atomic operations, by the source's names. `skip` is a step without a
critical section; `wakeActivities`, `abortTask`, `waitIdle` and `listRuntimes`
only read the owner in theirs. -/
inductive Op where
  | skip
  | callback (waker : Waker)
  | activity
  | updateActivityWaker (id : Nat) (waker : Waker)
  | removeActivity (id : Nat)
  | notifyWaiters
  | wakeActivities
  | exportHandle (context : ContextRef) (handle : HandleContext)
  | retainHandle (context : ContextRef)
  | releaseHandle (context : ContextRef)
  | reserveTask (id : Nat)
  | registerTask (id : Nat) (handle : AbortHandle)
  | abortTask (id : Nat)
  | removeTask (id : Nat)
  | registerRuntime (runtime : RuntimeRef)
  | unregisterRuntime (id : Nat)
  | registerResource (resource : ResourceRef)
  | unregisterResource (id : Nat)
  | waitIdle
  | listRuntimes
  | cutoff
  | detach
  | hostSpawn (handle : AbortHandle)
  | abort (handle : AbortHandle)
  | newRuntime (runtime : RuntimeRef) (kind : RuntimeKind)
  | closeRuntime (runtime : RuntimeRef) (thread : Nat)
  | newResource (resource : ResourceRef)
  | updateWaker (resource : ResourceRef) (waker : Nat)
  | takeValue (resource : ResourceRef)
  | takeWaker (resource : ResourceRef)
  | newDeferred (address : Nat) (waker : Nat)
  | wakeDeferred (address : Nat)
  | installDeferred (address : Nat) (cleanup : Nat)
  | dropDeferred (address : Nat)
  | observeWorkers (context : ContextRef)
  | wake (waker : Waker)

namespace Op

/-- What an operation does to the owner. -/
def owner (op : Op) (shared : Shared) : OwnerState :=
  match op with
  | .callback waker => (shared.owner.callback waker).1
  | .activity => shared.owner.activity.1
  | .updateActivityWaker id waker =>
      (shared.owner.updateActivityWaker id waker).1
  | .removeActivity id => shared.owner.removeActivity id
  | .notifyWaiters => shared.owner.notifyWaiters
  | .exportHandle context _ => shared.owner.exportHandle context
  | .retainHandle context => (shared.owner.retainHandle context).1
  | .releaseHandle context => (shared.owner.releaseHandle context).1
  | .reserveTask id => (shared.owner.reserveTask id).1
  | .registerTask id handle => (shared.owner.registerTask id handle).1
  | .removeTask id => shared.owner.removeTask id
  | .registerRuntime runtime => (shared.owner.registerRuntime runtime).1
  | .unregisterRuntime id => shared.owner.unregisterRuntime id
  | .registerResource resource =>
      (shared.owner.registerResource resource).1
  | .unregisterResource id => shared.owner.unregisterResource id
  | .cutoff => (shared.owner.cutoff shared.localOpen).1
  | .detach =>
      (shared.owner.detach shared.runtimeClosed shared.resourceClosed).1
  | _ => shared.owner

/-- A registration after the cutoff aborts the task it registers. -/
def hostTasks (op : Op) (shared : Shared) : AbortHandle → Option Bool :=
  match op with
  | .hostSpawn handle =>
      Function.update shared.hostTasks handle (some false)
  | .abort handle =>
      Function.update shared.hostTasks handle (some true)
  | .registerTask id handle =>
      if (shared.owner.registerTask id handle).2 then
        Function.update shared.hostTasks handle (some true)
      else
        shared.hostTasks
  | _ => shared.hostTasks

def runtimes (op : Op) (shared : Shared) :
    RuntimeRef → Option RuntimeKind :=
  match op with
  | .newRuntime runtime kind =>
      Function.update shared.runtimes runtime (some kind)
  | .closeRuntime runtime thread =>
      Function.update shared.runtimes runtime
        ((shared.runtimes runtime).map fun kind =>
          (kind.close thread).1)
  | _ => shared.runtimes

def resources (op : Op) (shared : Shared) :
    ResourceRef → Option (HostResource Unit Nat) :=
  match op with
  | .newResource resource =>
      Function.update shared.resources resource
        (some (HostResource.new ()))
  | .updateWaker resource waker =>
      Function.update shared.resources resource
        ((shared.resources resource).map (·.updateWaker waker))
  | .takeValue resource =>
      Function.update shared.resources resource
        ((shared.resources resource).map (·.takeValue))
  | .takeWaker resource =>
      Function.update shared.resources resource
        ((shared.resources resource).map (·.takeWaker))
  | _ => shared.resources

/-- Dropping a `Deferred` drops the guest waker it may still hold. -/
def deferreds (op : Op) (shared : Shared) :
    Nat → Option DeferredState :=
  match op with
  | .newDeferred address waker =>
      Function.update shared.deferreds address
        (some (DeferredState.new waker))
  | .wakeDeferred address =>
      Function.update shared.deferreds address
        ((shared.deferreds address).map fun state => state.wake.1)
  | .installDeferred address cleanup =>
      Function.update shared.deferreds address
        ((shared.deferreds address).map fun state =>
          (state.install cleanup).1)
  | .dropDeferred address =>
      Function.update shared.deferreds address
        ((shared.deferreds address).map fun state =>
          { state with waker := none })
  | _ => shared.deferreds

def contexts (op : Op) (shared : Shared) :
    ContextRef → Option HandleContext :=
  match op with
  | .exportHandle context handle =>
      Function.update shared.contexts context (some handle)
  | .observeWorkers context =>
      Function.update shared.contexts context
        ((shared.contexts context).map fun handle =>
          { handle with workerObserver := true })
  | _ => shared.contexts

def woken (op : Op) (shared : Shared) : Waker → Bool :=
  match op with
  | .wake waker =>
      if shared.accepting then
        shared.woken
      else
        Function.update shared.woken waker true
  | _ => shared.woken

def apply (op : Op) (shared : Shared) : Shared where
  owner := op.owner shared
  hostTasks := op.hostTasks shared
  runtimes := op.runtimes shared
  resources := op.resources shared
  deferreds := op.deferreds shared
  contexts := op.contexts shared
  woken := op.woken shared

end Op

end Telekio.Bridge
