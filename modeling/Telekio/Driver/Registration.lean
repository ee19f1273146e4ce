import Telekio.Driver.WakeState
import Telekio.Interleave.Counting
import Telekio.Owner.Objects

/-!
# One I/O driver registration

The guest registers a callback with `register_driver` and gives it back with
`release_driver`; the threads of the host call it on readiness events; an
owner shutdown closes the resource behind it. Both ends deregister the wake
source by dropping the `DriverResource`.
-/

namespace Telekio.Driver

open Telekio.Interleave
open Telekio.Owner

/-- The address of the `HostResource<DriverResource>`. -/
def driver : ResourceRef :=
  0

/-- The `DriverResource` in its mutex. While it is being dropped under the
lock it is `closing`, and `gone` when both its fields are dropped. -/
inductive DriverValue where
  | absent
  | present
  | closing
  | gone
deriving DecidableEq, Repr

/-- `clones` counts the references to the resource in the snapshots of owner
shutdowns; the table of the owner holds one more. -/
structure Shared where
  owner : OwnerState
  lifecycle : WakeLifecycle
  value : DriverValue
  clones : Nat

inductive Op where
  | skip
  | telekioRegister
  | registerResource
  | unregisterResource (id : Nat)
  | cutoff
  | dropClone
  | takeValue
  | beginClose
  | waitClosed
  | dropCallback
  | enter
  | leave
  | callback
  | dropCleanup (id : Nat)
deriving DecidableEq, Repr

namespace Op

/-- The wakers and runtimes of the owner are of no concern here. -/
def cutoffResult (shared : Shared) :
    OwnerState × Except String Snapshot :=
  shared.owner.cutoff fun _ => false

/-- The shutdown clones the resource if it finds it registered. -/
def cloned (shared : Shared) : Bool :=
  match (cutoffResult shared).2 with
  | .ok snapshot => driver ∈ snapshot.resources
  | .error _ => false

def owner (op : Op) (shared : Shared) : OwnerState :=
  match op with
  | .registerResource => (shared.owner.registerResource driver).1
  | .unregisterResource id => shared.owner.unregisterResource id
  | .cutoff => (cutoffResult shared).1
  | .callback => (shared.owner.callback .noop).1
  | .dropCleanup id => (shared.owner.removeActivity id).notifyWaiters
  | _ => shared.owner

def lifecycle (op : Op) (shared : Shared) : WakeLifecycle :=
  match op with
  | .enter => shared.lifecycle.enter.1
  | .leave => shared.lifecycle.leave
  | .beginClose => shared.lifecycle.beginClose
  | _ => shared.lifecycle

def value (op : Op) (shared : Shared) : DriverValue :=
  match op with
  | .telekioRegister => .present
  | .takeValue => .closing
  | .dropCallback => .gone
  | _ => shared.value

def clones (op : Op) (shared : Shared) : Nat :=
  match op with
  | .cutoff =>
      if cloned shared then shared.clones + 1 else shared.clones
  | .dropClone => shared.clones - 1
  | _ => shared.clones

def apply (op : Op) (shared : Shared) : Shared where
  owner := op.owner shared
  lifecycle := op.lifecycle shared
  value := op.value shared
  clones := op.clones shared

end Op

/-- An `arm` call. In `calling` and up to `cleaning` it is inside the closure
that `register_driver` installs, in `running` inside the guest. -/
inductive Arm where
  | called
  | polling
  | calling
  | admitted (id : Nat)
  | running (id : Nat)
  | cleaning (id : Nat) (panicked : Bool)
  | leaving
  | returned
deriving DecidableEq, Repr

inductive Arm.Acts (shared : Shared) : Arm → Op → Arm → Prop
  | enter (registered : shared.value ≠ .absent)
      (entered : shared.lifecycle.enter.2 = true) :
      Arm.Acts shared .called .enter .polling
  | refuse (refused : shared.lifecycle.enter.2 = false) :
      Arm.Acts shared .called .enter .returned
  -- `Pending`, shut down, or the `ScheduledIo` is gone
  | pending : Arm.Acts shared .polling .skip .leaving
  | ready : Arm.Acts shared .polling .skip .calling
  | callback {id : Nat}
      (admitted : (shared.owner.callback .noop).2 = some id) :
      Arm.Acts shared .calling .callback (.admitted id)
  | refuseCallback
      (refused : (shared.owner.callback .noop).2 = none) :
      Arm.Acts shared .calling .callback .polling
  | upgrade {id : Nat} (alive : shared.value ≠ .gone) :
      Arm.Acts shared (.admitted id) .skip (.running id)
  | upgradeFails {id : Nat} (gone : shared.value = .gone) :
      Arm.Acts shared (.admitted id) .skip (.cleaning id false)
  | finish {id : Nat} :
      Arm.Acts shared (.running id) .skip (.cleaning id false)
  | panic {id : Nat} :
      Arm.Acts shared (.running id) .skip (.cleaning id true)
  | clear {id : Nat} :
      Arm.Acts shared (.cleaning id false) (.dropCleanup id) .polling
  | unwind {id : Nat} :
      Arm.Acts shared (.cleaning id true) (.dropCleanup id) .leaving
  | leave : Arm.Acts shared .leaving .leave .returned

/-- The `WakeGuard`s of a wake. -/
def Arm.guards : Arm → Nat
  | .called => 0
  | .returned => 0
  | _ => 1

/-- The wake runs the guest's callback. -/
def Arm.inGuest : Arm → Prop
  | .running _ => True
  | _ => False

/-- The owner has admitted the callback of the wake. -/
def Arm.inFlight : Arm → Prop
  | .admitted _ => True
  | .running _ => True
  | _ => False

/-- The drop of a `DriverResource` that was taken out: `telekio_deregister`
in the drop of its first field, then the drop of the callback. -/
inductive Deregister where
  | taken
  | began
  | waited
  | dropped
deriving DecidableEq, Repr

inductive Deregister.Acts (shared : Shared) :
    Deregister → Op → Deregister → Prop
  | beginClose : Deregister.Acts shared .taken .beginClose .began
  | waitClosed (quiet : shared.lifecycle.waitClosed = true) :
      Deregister.Acts shared .began .waitClosed .waited
  | dropCallback :
      Deregister.Acts shared .waited .dropCallback .dropped

/-- `register_driver`, and later `release_driver`, of the guest. In
`returned` it is noted whether the call has dropped the last reference. -/
inductive Registrar where
  | called
  | built
  | live (id : Nat)
  | dropping
  | deregistering (stage : Deregister)
  | returned (last : Bool)
deriving DecidableEq, Repr

inductive Registrar.Acts (shared : Shared) :
    Registrar → Op → Registrar → Prop
  | build (absent : shared.value = .absent) :
      Registrar.Acts shared .called .telekioRegister .built
  | register {id : Nat}
      (admitted :
        (shared.owner.registerResource driver).2 = .ok id) :
      Registrar.Acts shared .built .registerResource (.live id)
  | refuse {error : String}
      (refused :
        (shared.owner.registerResource driver).2 = .error error) :
      Registrar.Acts shared .built .registerResource .dropping
  | releaseLast {id : Nat} (last : shared.clones = 0) :
      Registrar.Acts shared (.live id) (.unregisterResource id)
        .dropping
  | releaseShared {id : Nat} (shares : shared.clones ≠ 0) :
      Registrar.Acts shared (.live id) (.unregisterResource id)
        (.returned false)
  | take (present : shared.value = .present) :
      Registrar.Acts shared .dropping .takeValue
        (.deregistering .taken)
  | empty (gone : shared.value = .gone) :
      Registrar.Acts shared .dropping .skip (.returned true)
  | deregister {stage next : Deregister} {op : Op}
      (acts : Deregister.Acts shared stage op next) :
      Registrar.Acts shared (.deregistering stage) op
        (.deregistering next)
  | finish :
      Registrar.Acts shared (.deregistering .dropped) .skip
        (.returned true)

/-- A `shutdown_owner` run, as far as it deals with the resource. -/
inductive Closer where
  | called
  | holding
  | closing (stage : Deregister)
  | shut
  | returned
deriving DecidableEq, Repr

/-- `close` waits for the lock while another thread is `closing`. -/
inductive Closer.Acts (shared : Shared) : Closer → Op → Closer → Prop
  | cutoff (cloned : Op.cloned shared = true) :
      Closer.Acts shared .called .cutoff .holding
  | cutoffWithout (absent : Op.cloned shared = false) :
      Closer.Acts shared .called .cutoff .returned
  | take (present : shared.value = .present) :
      Closer.Acts shared .holding .takeValue (.closing .taken)
  | empty (gone : shared.value = .gone) :
      Closer.Acts shared .holding .skip .shut
  | deregister {stage next : Deregister} {op : Op}
      (acts : Deregister.Acts shared stage op next) :
      Closer.Acts shared (.closing stage) op (.closing next)
  | finish : Closer.Acts shared (.closing .dropped) .skip .shut
  | dropClone : Closer.Acts shared .shut .dropClone .returned

inductive Thread where
  | arm (arm : Arm)
  | registrar (registrar : Registrar)
  | closer (closer : Closer)
deriving DecidableEq, Repr

inductive Thread.Starts : Thread → Prop
  | arm : Starts (.arm .called)
  | registrar : Starts (.registrar .called)
  | closer : Starts (.closer .called)

inductive Thread.Acts (shared : Shared) : Thread → Op → Thread → Prop
  | arm {arm next : Arm} {op : Op} (acts : Arm.Acts shared arm op next) :
      Acts shared (.arm arm) op (.arm next)
  | registrar {registrar next : Registrar} {op : Op}
      (acts : Registrar.Acts shared registrar op next) :
      Acts shared (.registrar registrar) op (.registrar next)
  | closer {closer next : Closer} {op : Op}
      (acts : Closer.Acts shared closer op next) :
      Acts shared (.closer closer) op (.closer next)

/-- Before the registration; the `WakeState` that it makes is unused. -/
def Unregistered (shared : Shared) : Prop :=
  shared.lifecycle = WakeLifecycle.default ∧
    shared.value = .absent ∧ shared.clones = 0 ∧
    ∀ id, shared.owner.state.resources.lookup id ≠ some driver

/-- The code around one driver registration, for an owner with whatever
other records. -/
def program : Program Shared Thread Op where
  initial := Unregistered
  start := Thread.Starts
  act := Thread.Acts
  apply := Op.apply

abbrev World :=
  Interleave.World Shared Thread

end Telekio.Driver
