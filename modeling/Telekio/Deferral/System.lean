import Telekio.Interleave.Balancing
import Telekio.Owner.Objects

/-!
# One deferred wake

One call of `defer` of `bridge/runtime/scheduler.rs` and the wakes of the
`Deferred` that it makes. They come from the host scheduler, from
`wake_activities` and from `shutdown_owner`, in any number, while other calls
use the same owner.
-/

namespace Telekio.Deferral

open Telekio.Interleave
open Telekio.Owner

/-- The `Deferred` is at `address` and is made around the waker `guest`.
`handed` tells whether the host scheduler has been given its waker. The rest
is history: the id of its activity, whether the owner has refused the
callback, how often the guest waker has been woken and the cleanup dropped,
and whether `install` and how many wakes have completed. -/
structure Shared where
  owner : OwnerState
  address : Nat
  guest : Nat
  deferred : Option DeferredState
  handed : Bool
  activity : Option Nat
  refused : Bool
  woken : Nat
  removed : Nat
  installed : Bool
  finished : Nat

namespace Shared

variable (shared : Shared)

abbrev activities : Table (Option Waker) :=
  shared.owner.state.activities

/-- The waker that `defer` registers and hands to the scheduler. -/
def waker : Waker :=
  .deferred shared.address

/-- Before the call of `defer`: the ids of the owner are below its counter,
and nobody has a waker of the `Deferred`. -/
structure Initial : Prop where
  deferred : shared.deferred = none
  handed : shared.handed = false
  activity : shared.activity = none
  refused : shared.refused = false
  woken : shared.woken = 0
  removed : shared.removed = 0
  installed : shared.installed = false
  finished : shared.finished = 0
  below : ∀ id, shared.owner.state.nextId ≤ id →
    shared.activities.lookup id = none
  unlisted : ∀ id,
    shared.activities.lookup id ≠ some (some shared.waker)

/-- What another call may make of the owner: it leaves the record of the
`Deferred` alone and stores no waker of it. -/
structure Spares (owner : OwnerState) : Prop where
  below : ∀ id, owner.state.nextId ≤ id →
    owner.state.activities.lookup id = none
  unlisted : ∀ id,
    owner.state.activities.lookup id = some (some shared.waker) →
    shared.activities.lookup id = some (some shared.waker)
  kept : ∀ id, shared.activity = some id →
    owner.state.activities.lookup id = shared.activities.lookup id ∧
      id < owner.state.nextId

end Shared

/-- The atomic operations, by the source's names. `wake` and `install` are
the locked parts of the functions of `Deferred`; `hand` is the call of the
host's `defer`. -/
inductive Op where
  | skip
  | new
  | callback
  | wakeGuest
  | wake
  | install (cleanup : Nat)
  | removeActivity (id : Nat)
  | notifyWaiters
  | installed
  | finished
  | hand
  | cutoff (localOpen : RuntimeRef → Bool)
  | other (owner : OwnerState)

def Op.apply (op : Op) (shared : Shared) : Shared :=
  match op with
  | .skip => shared
  | .new => { shared with deferred := some (.new shared.guest) }
  | .callback =>
      { shared with
        owner := (shared.owner.callback shared.waker).1
        activity := (shared.owner.callback shared.waker).2
        refused := (shared.owner.callback shared.waker).2.isNone }
  | .wakeGuest => { shared with woken := shared.woken + 1 }
  | .wake =>
      { shared with
        deferred := shared.deferred.map fun state => state.wake.1 }
  | .install cleanup =>
      { shared with
        deferred :=
          shared.deferred.map fun state => (state.install cleanup).1 }
  | .removeActivity id =>
      { shared with
        owner := shared.owner.removeActivity id
        removed := shared.removed + 1 }
  | .notifyWaiters => { shared with owner := shared.owner.notifyWaiters }
  | .installed => { shared with installed := true }
  | .finished => { shared with finished := shared.finished + 1 }
  | .hand => { shared with handed := true }
  | .cutoff localOpen =>
      { shared with owner := (shared.owner.cutoff localOpen).1 }
  | .other owner => { shared with owner := owner }

/-- `defer`. `dropping` has the cleanup that `install` has not stored. -/
inductive Defer where
  | called
  | created
  | refused
  | accepted (cleanup : Nat)
  | dropping (cleanup : Nat)
  | notifying
  | leaving
  | handing
  | returned
deriving DecidableEq, Repr

inductive Defer.Acts (shared : Shared) : Defer → Op → Defer → Prop
  | new (unmade : shared.deferred = none) :
      Defer.Acts shared .called .new .created
  | refuse (refused : (shared.owner.callback shared.waker).2 = none) :
      Defer.Acts shared .created .callback .refused
  | accept {id : Nat}
      (accepted : (shared.owner.callback shared.waker).2 = some id) :
      Defer.Acts shared .created .callback (.accepted id)
  -- `guest.wake()`
  | wakeGuest : Defer.Acts shared .refused .wakeGuest .returned
  | store {state : DeferredState} {id : Nat}
      (known : shared.deferred = some state)
      (stored : (state.install id).2 = none) :
      Defer.Acts shared (.accepted id) (.install id) .leaving
  | giveBack {state : DeferredState} {id back : Nat}
      (known : shared.deferred = some state)
      (given : (state.install id).2 = some back) :
      Defer.Acts shared (.accepted id) (.install id) (.dropping back)
  | remove {id : Nat} :
      Defer.Acts shared (.dropping id) (.removeActivity id) .notifying
  | notify : Defer.Acts shared .notifying .notifyWaiters .leaving
  | leave : Defer.Acts shared .leaving .installed .handing
  | hand : Defer.Acts shared .handing .hand .returned

/-- One call of `Deferred::wake`, with what it has taken. -/
inductive Waking where
  | called
  | taken (waker cleanup : Option Nat)
  | dropping (cleanup : Option Nat)
  | notifying
  | leaving
  | returned
deriving DecidableEq, Repr

inductive Waking.Acts (shared : Shared) : Waking → Op → Waking → Prop
  | wake {state : DeferredState} (known : shared.deferred = some state) :
      Waking.Acts shared .called .wake
        (.taken state.wake.2.1 state.wake.2.2)
  | wakeGuest {waker : Nat} {cleanup : Option Nat} :
      Waking.Acts shared (.taken (some waker) cleanup) .wakeGuest
        (.dropping cleanup)
  | noWaker {cleanup : Option Nat} :
      Waking.Acts shared (.taken none cleanup) .skip (.dropping cleanup)
  | remove {id : Nat} :
      Waking.Acts shared (.dropping (some id)) (.removeActivity id)
        .notifying
  | noCleanup : Waking.Acts shared (.dropping none) .skip .leaving
  | notify : Waking.Acts shared .notifying .notifyWaiters .leaving
  | leave : Waking.Acts shared .leaving .finished .returned

/-- `scheduler` is the host scheduler, about to wake the `Deferred` once;
`activities` is `wake_activities` and `shutdown` the wakes of
`shutdown_owner`. A sweep has the wakers that it has still to wake. -/
inductive Thread where
  | defer (call : Defer)
  | scheduler
  | activities
  | shutdown
  | sweeping (rest : List Waker)
  | waking (call : Waking) (rest : List Waker)
  | other
  | ended
deriving DecidableEq, Repr

namespace Thread

inductive Starts : Thread → Prop
  | defer : Starts (.defer .called)
  | scheduler : Starts .scheduler
  | activities : Starts .activities
  | shutdown : Starts .shutdown
  | other : Starts .other

inductive Acts (shared : Shared) : Thread → Op → Thread → Prop
  | defer {call next : Defer} {op : Op}
      (acts : Defer.Acts shared call op next) :
      Acts shared (.defer call) op (.defer next)
  | scheduler (handed : shared.handed = true) :
      Acts shared .scheduler .skip (.waking .called [])
  | activities :
      Acts shared .activities .skip
        (.sweeping shared.owner.activityWakers)
  | shutdown {localOpen : RuntimeRef → Bool} {snapshot : Snapshot}
      (cut : (shared.owner.cutoff localOpen).2 = .ok snapshot) :
      Acts shared .shutdown (.cutoff localOpen)
        (.sweeping snapshot.activities)
  | refuse {localOpen : RuntimeRef → Bool} {error : String}
      (refused : (shared.owner.cutoff localOpen).2 = .error error) :
      Acts shared .shutdown (.cutoff localOpen) .ended
  | next {rest : List Waker} :
      Acts shared (.sweeping (shared.waker :: rest)) .skip
        (.waking .called rest)
  | pass {waker : Waker} {rest : List Waker}
      (different : waker ≠ shared.waker) :
      Acts shared (.sweeping (waker :: rest)) .skip (.sweeping rest)
  | done : Acts shared (.sweeping []) .skip .ended
  | waking {call next : Waking} {rest : List Waker} {op : Op}
      (acts : Waking.Acts shared call op next) :
      Acts shared (.waking call rest) op (.waking next rest)
  -- the guest waker unwinds; the cleanup is dropped on the way out
  | unwind {waker : Nat} {cleanup : Option Nat} {rest : List Waker} :
      Acts shared (.waking (.taken (some waker) cleanup) rest) .wakeGuest
        (.waking (.dropping cleanup) [])
  | woken {rest : List Waker} :
      Acts shared (.waking .returned rest) .skip (.sweeping rest)
  | other {owner : OwnerState} (spares : shared.Spares owner) :
      Acts shared .other (.other owner) .other

end Thread

/-- One call of `defer` with the wakes of its `Deferred`. -/
def program : Program Shared Thread Op where
  initial := Shared.Initial
  start := Thread.Starts
  act := Thread.Acts
  apply := Op.apply

abbrev World :=
  Interleave.World Shared Thread

end Telekio.Deferral
