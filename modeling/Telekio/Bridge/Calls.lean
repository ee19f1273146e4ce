import Telekio.Bridge.Effects

/-!
# The other calls that cross the bridge

Calls that stand for an activity of the owner (entries, `block_on`, `build`
and `defer`), and the calls on resources, tasks and handles.
-/

namespace Telekio.Bridge

open Telekio.Interleave
open Telekio.Owner

/-- An `Activity` or a `CallbackCleanup`, and the stages of its drop. The id
stays for reference after the record is gone. -/
inductive Cleanup where
  | absent
  | armed (id : Nat)
  | removed (id : Nat)
  | dropped (id : Nat)
deriving DecidableEq, Repr

namespace Cleanup

/-- The record is removed and the notification still to come. -/
def departing : Cleanup → Prop
  | .removed _ => True
  | _ => False

def gone : Cleanup → Prop
  | .absent => True
  | .dropped _ => True
  | _ => False

/-- `Activity::drop` and `CallbackCleanup::drop`. -/
inductive Drops : Cleanup → Op → Cleanup → Prop
  | remove {cleanup : Cleanup} {id : Nat} (armed : cleanup = .armed id) :
      Drops cleanup (.removeActivity id) (.removed id)
  | notify {cleanup : Cleanup} {id : Nat}
      (removed : cleanup = .removed id) :
      Drops cleanup .notifyWaiters (.dropped id)

end Cleanup

/-- `Attachment::enter`, `block_in_place` and `observe_workers` hold an
activity; a driver readiness callback and a worker observer hold a callback. -/
inductive EntryKind where
  | enter
  | blockInPlace
  | observeWorkers (context : ContextRef)
  | driver
  | workerObserver
deriving DecidableEq, Repr

def EntryKind.isCallback : EntryKind → Bool
  | .driver => true
  | .workerObserver => true
  | _ => false

/-- `inside` holds the wakers `wake_activities` has still to wake. -/
inductive EntryStage where
  | called
  | inside (wakers : List Waker)
  | leaving
  | returned
deriving DecidableEq, Repr

structure Entry where
  kind : EntryKind
  activity : Cleanup
  stage : EntryStage
deriving DecidableEq, Repr

namespace Entry

def start (kind : EntryKind) : Entry :=
  ⟨kind, .absent, .called⟩

inductive Acts (shared : Shared) : Entry → Op → Entry → Prop
  | activity {entry : Entry} {id : Nat}
      (isActivity : entry.kind.isCallback = false)
      (called : entry.stage = .called)
      (admitted : shared.owner.activity.2 = .ok id) :
      Acts shared entry .activity
        { entry with activity := .armed id, stage := .inside [] }
  | refuseActivity {entry : Entry} {error : String}
      (isActivity : entry.kind.isCallback = false)
      (called : entry.stage = .called)
      (refused : shared.owner.activity.2 = .error error) :
      Acts shared entry .activity { entry with stage := .returned }
  | callback {entry : Entry} {id : Nat}
      (isCallback : entry.kind.isCallback = true)
      (called : entry.stage = .called)
      (admitted : (shared.owner.callback .noop).2 = some id) :
      Acts shared entry (.callback .noop)
        { entry with activity := .armed id, stage := .inside [] }
  | refuseCallback {entry : Entry}
      (isCallback : entry.kind.isCallback = true)
      (called : entry.stage = .called)
      (refused : (shared.owner.callback .noop).2 = none) :
      Acts shared entry (.callback .noop)
        { entry with stage := .returned }
  | wakeActivities {entry : Entry} (blocks : entry.kind = .blockInPlace)
      (inside : entry.stage = .inside []) :
      Acts shared entry .wakeActivities
        { entry with stage := .inside shared.owner.activityWakers }
  | wake {entry : Entry} {waker : Waker} {wakers : List Waker}
      (inside : entry.stage = .inside (waker :: wakers)) :
      Acts shared entry (.wake waker)
        { entry with stage := .inside wakers }
  | observe {entry : Entry} {context : ContextRef} {wakers : List Waker}
      (observes : entry.kind = .observeWorkers context)
      (inside : entry.stage = .inside wakers) :
      Acts shared entry (.observeWorkers context) entry
  | leave {entry : Entry} {wakers : List Waker}
      (inside : entry.stage = .inside wakers) :
      Acts shared entry .skip { entry with stage := .leaving }
  | drop {entry : Entry} {op : Op} {next : Cleanup}
      (leaving : entry.stage = .leaving)
      (drops : Cleanup.Drops entry.activity op next) :
      Acts shared entry op { entry with activity := next }
  | return_ {entry : Entry} (leaving : entry.stage = .leaving)
      (gone : entry.activity.gone) :
      Acts shared entry .skip { entry with stage := .returned }

end Entry

/-- `telekio_abi::Status`, as far as `GuestFuture::poll` returns it. -/
inductive Status where
  | ok
  | panicked
  | error
deriving DecidableEq, Repr

/-- A `GuestFuture` between and during its polls; the number is the host
waker of the current or last poll. -/
inductive GuestFuture where
  | unpolled
  | polling (waker : Nat)
  | pending (waker : Nat)
  | ready (status : Status)
deriving DecidableEq, Repr

inductive BlockOnStage where
  | called
  | inside (future : GuestFuture)
  | leaving
  | returned
deriving DecidableEq, Repr

/-- A `runtime_block_on` or `handle_block_on` call. -/
structure BlockOn where
  activity : Cleanup
  stage : BlockOnStage
deriving DecidableEq, Repr

namespace BlockOn

def start : BlockOn :=
  ⟨.absent, .called⟩

/-- A future that the host may poll. -/
def pollable : BlockOnStage → Prop
  | .inside .unpolled => True
  | .inside (.pending _) => True
  | _ => False

inductive Acts (shared : Shared) : BlockOn → Op → BlockOn → Prop
  | activity {call : BlockOn} {id : Nat} (called : call.stage = .called)
      (admitted : shared.owner.activity.2 = .ok id) :
      Acts shared call .activity ⟨.armed id, .inside .unpolled⟩
  | refuse {call : BlockOn} {error : String}
      (called : call.stage = .called)
      (refused : shared.owner.activity.2 = .error error) :
      Acts shared call .activity { call with stage := .returned }
  | poll {call : BlockOn} {id : Nat} (waker : Nat)
      (armed : call.activity = .armed id)
      (idle : pollable call.stage)
      (updated :
        (shared.owner.updateActivityWaker id (.host waker)).2 = true) :
      Acts shared call (.updateActivityWaker id (.host waker))
        { call with stage := .inside (.polling waker) }
  -- the guest's poll function is not called
  | refusePoll {call : BlockOn} {id : Nat} (waker : Nat)
      (armed : call.activity = .armed id)
      (idle : pollable call.stage)
      (refused :
        (shared.owner.updateActivityWaker id (.host waker)).2 = false) :
      Acts shared call (.updateActivityWaker id (.host waker))
        { call with stage := .inside (.ready .error) }
  | pending {call : BlockOn} {waker : Nat}
      (polling : call.stage = .inside (.polling waker)) :
      Acts shared call .skip
        { call with stage := .inside (.pending waker) }
  | ready {call : BlockOn} {waker : Nat}
      (polling : call.stage = .inside (.polling waker)) :
      Acts shared call .skip
        { call with stage := .inside (.ready .ok) }
  | guestPanicked {call : BlockOn} {waker : Nat}
      (polling : call.stage = .inside (.polling waker)) :
      Acts shared call .skip
        { call with stage := .inside (.ready .panicked) }
  -- `block_on` returns with the status, or unwinds between two polls
  | leave {call : BlockOn} {future : GuestFuture}
      (inside : call.stage = .inside future)
      (idle : ∀ waker, future ≠ .polling waker) :
      Acts shared call .skip { call with stage := .leaving }
  | drop {call : BlockOn} {op : Op} {next : Cleanup}
      (leaving : call.stage = .leaving)
      (drops : Cleanup.Drops call.activity op next) :
      Acts shared call op { call with activity := next }
  | return_ {call : BlockOn} (leaving : call.stage = .leaving)
      (gone : call.activity.gone) :
      Acts shared call .skip { call with stage := .returned }

end BlockOn

/-! ## Building a runtime -/

inductive BuildStage where
  | called
  | inside
  | built (runtime : RuntimeRef)
  | refused (runtime : RuntimeRef)
  | registered (runtime : RuntimeRef) (id : Nat)
  | leaving
  | returned
deriving DecidableEq, Repr

/-- The runtime a `build` call has registered, for the guest to shut down
and to release. -/
inductive BuiltRuntime where
  | absent
  | registered (runtime : RuntimeRef) (id : Nat)
  | released
deriving DecidableEq, Repr

/-- A `build` call on one thread, and the runtime it returns. -/
structure Build where
  thread : Nat
  activity : Cleanup
  stage : BuildStage
  runtime : BuiltRuntime
deriving DecidableEq, Repr

namespace Build

def start (thread : Nat) : Build :=
  ⟨thread, .absent, .called, .absent⟩

inductive Acts (shared : Shared) : Build → Op → Build → Prop
  | activity {build : Build} {id : Nat} (called : build.stage = .called)
      (admitted : shared.owner.activity.2 = .ok id) :
      Acts shared build .activity
        { build with activity := .armed id, stage := .inside }
  | refuse {build : Build} {error : String}
      (called : build.stage = .called)
      (refused : shared.owner.activity.2 = .error error) :
      Acts shared build .activity { build with stage := .returned }
  -- `build_runtime` fails
  | fail {build : Build} (inside : build.stage = .inside) :
      Acts shared build .skip { build with stage := .leaving }
  | buildRuntime {build : Build} (runtime : RuntimeRef)
      (kind : RuntimeKind) (inside : build.stage = .inside)
      (flavor : kind = .runtime ∨ kind = .localRuntime build.thread)
      (fresh : shared.runtimes runtime = none) :
      Acts shared build (.newRuntime runtime kind)
        { build with stage := .built runtime }
  | register {build : Build} {runtime : RuntimeRef} {id : Nat}
      (built : build.stage = .built runtime)
      (admitted : (shared.owner.registerRuntime runtime).2 = .ok id) :
      Acts shared build (.registerRuntime runtime)
        { build with
          stage := .registered runtime id
          runtime := .registered runtime id }
  | refuseRuntime {build : Build} {runtime : RuntimeRef}
      {error : String} (built : build.stage = .built runtime)
      (refused :
        (shared.owner.registerRuntime runtime).2 = .error error) :
      Acts shared build (.registerRuntime runtime)
        { build with stage := .refused runtime }
  -- a `LocalRuntime` is closed here, another one by a thread of its own
  | closeRefused {build : Build} {runtime : RuntimeRef} (thread : Nat)
      (refused : build.stage = .refused runtime)
      (closer : shared.localOpen runtime = true →
        thread = build.thread) :
      Acts shared build (.closeRuntime runtime thread)
        { build with stage := .leaving }
  | exportHandle {build : Build} {runtime : RuntimeRef} {id : Nat}
      (context : ContextRef)
      (registered : build.stage = .registered runtime id)
      (fresh : shared.contexts context = none) :
      Acts shared build (.exportHandle context ⟨true, false⟩)
        { build with stage := .leaving }
  | drop {build : Build} {op : Op} {next : Cleanup}
      (leaving : build.stage = .leaving)
      (drops : Cleanup.Drops build.activity op next) :
      Acts shared build op { build with activity := next }
  | return_ {build : Build} (leaving : build.stage = .leaving)
      (gone : build.activity.gone) :
      Acts shared build .skip { build with stage := .returned }
  | shutdown {build : Build} {runtime : RuntimeRef} {id : Nat}
      (thread : Nat) (returned : build.stage = .returned)
      (live : build.runtime = .registered runtime id) :
      Acts shared build (.closeRuntime runtime thread) build
  | releaseRuntime {build : Build} {runtime : RuntimeRef} {id : Nat}
      (returned : build.stage = .returned)
      (live : build.runtime = .registered runtime id) :
      Acts shared build (.unregisterRuntime id)
        { build with runtime := .released }

end Build

inductive DeferStage where
  | called
  | created
  | refused
  | accepted
  | returned
deriving DecidableEq, Repr

/-- A `defer` call and the `Deferred` it makes. A wake of the `Deferred`, on
whichever thread, is a step of its own; `dropping` says that a wake or
`install` has taken the cleanup out in order to drop it. -/
structure Defer where
  address : Nat
  waker : Nat
  activity : Cleanup
  stage : DeferStage
  dropping : Bool
deriving DecidableEq, Repr

namespace Defer

def start (address waker : Nat) : Defer :=
  ⟨address, waker, .absent, .called, false⟩

inductive Acts (shared : Shared) : Defer → Op → Defer → Prop
  | new {defer : Defer} (called : defer.stage = .called)
      (fresh : shared.deferreds defer.address = none) :
      Acts shared defer (.newDeferred defer.address defer.waker)
        { defer with stage := .created }
  | callback {defer : Defer} {id : Nat}
      (created : defer.stage = .created)
      (admitted :
        (shared.owner.callback (.deferred defer.address)).2 =
          some id) :
      Acts shared defer (.callback (.deferred defer.address))
        { defer with activity := .armed id, stage := .accepted }
  | refuse {defer : Defer} (created : defer.stage = .created)
      (refused :
        (shared.owner.callback (.deferred defer.address)).2 = none) :
      Acts shared defer (.callback (.deferred defer.address))
        { defer with stage := .refused }
  | leaveRefused {defer : Defer} (refused : defer.stage = .refused) :
      Acts shared defer (.dropDeferred defer.address)
        { defer with stage := .returned }
  | install {defer : Defer} {id : Nat} {state : DeferredState}
      (accepted : defer.stage = .accepted)
      (armed : defer.activity = .armed id)
      (known : shared.deferreds defer.address = some state) :
      Acts shared defer (.installDeferred defer.address id)
        { defer with
          stage := .returned
          dropping := (state.install id).2.isSome }
  | wake {defer : Defer} {state : DeferredState}
      (admitted : defer.activity ≠ .absent)
      (known : shared.deferreds defer.address = some state) :
      Acts shared defer (.wakeDeferred defer.address)
        { defer with
          dropping := defer.dropping || state.wake.2.2.isSome }
  | drop {defer : Defer} {op : Op} {next : Cleanup}
      (dropping : defer.dropping = true)
      (drops : Cleanup.Drops defer.activity op next) :
      Acts shared defer op { defer with activity := next }

/-- What the stages of one `defer` say about its activity. -/
structure Ordered (defer : Defer) : Prop where
  unadmitted : defer.stage = .called ∨ defer.stage = .created ∨
    defer.stage = .refused → defer.activity = .absent
  admitted : defer.stage = .accepted → defer.activity ≠ .absent
  undropped : defer.activity = .absent → defer.dropping = false
  dropped : ∀ id, defer.activity = .removed id ∨
    defer.activity = .dropped id → defer.dropping = true

theorem ordered_start (address waker : Nat) :
    (start address waker).Ordered := by
  constructor <;> simp [start]

theorem ordered_acts {shared : Shared} {defer next : Defer}
    {op : Op} (acts : Acts shared defer op next)
    (ordered : defer.Ordered) : next.Ordered := by
  obtain ⟨unadmitted, admitted, undropped, dropped⟩ := ordered
  cases acts with
  | drop dropping drops =>
      cases drops <;> constructor <;> grind -ring -linarith
  | _ => constructor <;> grind -ring -linarith

end Defer

/-- A guest registration backed by a `HostResource`. -/
inductive Resource where
  | called
  | created (resource : ResourceRef)
  | live (resource : ResourceRef) (id : Nat)
  | refused
  | released
deriving DecidableEq, Repr

inductive Resource.Acts (shared : Shared) :
    Resource → Op → Resource → Prop
  | new (resource : ResourceRef)
      (fresh : shared.resources resource = none) :
      Resource.Acts shared .called (.newResource resource)
        (.created resource)
  | register {resource : ResourceRef} {id : Nat}
      (admitted :
        (shared.owner.registerResource resource).2 = .ok id) :
      Resource.Acts shared (.created resource)
        (.registerResource resource) (.live resource id)
  | refuse {resource : ResourceRef} {error : String}
      (refused :
        (shared.owner.registerResource resource).2 = .error error) :
      Resource.Acts shared (.created resource)
        (.registerResource resource) .refused
  | updateWaker {resource : ResourceRef} {id : Nat} (waker : Nat) :
      Resource.Acts shared (.live resource id)
        (.updateWaker resource waker) (.live resource id)
  | release {resource : ResourceRef} {id : Nat} :
      Resource.Acts shared (.live resource id)
        (.unregisterResource id) .released

/-- An `abort_task` call. -/
inductive Abort where
  | called (id : Nat)
  | holding (handle : AbortHandle)
  | returned
deriving DecidableEq, Repr

inductive Abort.Acts (shared : Shared) : Abort → Op → Abort → Prop
  | found {id : Nat} {handle : AbortHandle}
      (known : shared.owner.abortTask id = some handle) :
      Abort.Acts shared (.called id) (.abortTask id) (.holding handle)
  | missing {id : Nat} (unknown : shared.owner.abortTask id = none) :
      Abort.Acts shared (.called id) (.abortTask id) .returned
  | abort {handle : AbortHandle} :
      Abort.Acts shared (.holding handle) (.abort handle) .returned

/-- A user of one host handle. `attach` exports a handle of the host's own
runtime, `retain_handle` and `release_handle` come from the guest. -/
structure Handle where
  context : ContextRef
deriving DecidableEq, Repr

inductive Handle.Acts (shared : Shared) : Handle → Op → Handle → Prop
  | attach {handle : Handle}
      (fresh : shared.contexts handle.context = none) :
      Handle.Acts shared handle
        (.exportHandle handle.context ⟨false, false⟩) handle
  | retain {handle : Handle} :
      Handle.Acts shared handle (.retainHandle handle.context) handle
  | release {handle : Handle} :
      Handle.Acts shared handle (.releaseHandle handle.context) handle

/-- The `detach` call at the end of `Attachment::detach`. -/
inductive Detach where
  | called
  | returned (result : Except String Unit)

inductive Detach.Acts (shared : Shared) : Detach → Op → Detach → Prop
  | detach :
      Detach.Acts shared .called .detach
        (.returned (shared.owner.detach shared.runtimeClosed
          shared.resourceClosed).2)

end Telekio.Bridge
