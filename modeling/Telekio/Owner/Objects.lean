import Mathlib.Logic.Function.Basic
import Telekio.Owner.State

/-!
# The objects an owner keeps alive

`HostResource` of `bridge/owner.rs`, `RuntimeKind` and `RuntimeOwner::close`
of `bridge/runtime/mod.rs`, and `DeferredState` of
`bridge/runtime/scheduler.rs`. Each has its own lock; one function stands for
one critical section of that lock.
-/

namespace Telekio.Owner

/-- `HostResource<T>` with wakers `W`: the two mutexes `value` and `waker`. -/
structure HostResource (T W : Type) where
  value : Option T
  waker : Option W
deriving DecidableEq, Repr

namespace HostResource

variable {T W R : Type}

def new (value : T) : HostResource T W :=
  ⟨some value, none⟩

def ownerHasShutDown : String :=
  "Tokio owner has shut down"

variable (resource : HostResource T W)

def isClosed : Bool :=
  resource.value.isNone

/-- The lock on `value` is held until the waker is stored. -/
def updateWaker (waker : W) : HostResource T W :=
  if resource.value.isSome then
    { resource with waker := some waker }
  else
    resource

/-- The first statement of `close`. -/
def takeValue : HostResource T W :=
  { resource with value := none }

/-- The second statement of `close`; the waker taken is woken. -/
def takeWaker : HostResource T W :=
  { resource with waker := none }

/-- `with` and `with_mut`: the call may change the value. -/
def withMut (call : T → T × R) : HostResource T W × Except String R :=
  match resource.value with
  | some value =>
      ({ resource with value := some (call value).1 },
        .ok (call value).2)
  | none => (resource, .error ownerHasShutDown)

@[simp]
theorem isClosed_takeValue : resource.takeValue.isClosed = true :=
  rfl

@[simp]
theorem isClosed_takeWaker :
    resource.takeWaker.isClosed = resource.isClosed :=
  rfl

@[simp]
theorem isClosed_updateWaker (waker : W) :
    (resource.updateWaker waker).isClosed = resource.isClosed := by
  unfold updateWaker
  split <;> rfl

/-- Once the value is gone, `update_waker` stores nothing. -/
theorem updateWaker_of_isClosed (waker : W)
    (closed : resource.isClosed = true) :
    resource.updateWaker waker = resource := by
  rw [updateWaker, if_neg]
  rw [isClosed, Option.isNone_iff_eq_none] at closed
  simp [closed]

end HostResource

/-- `RuntimeKind`; a `LocalSlot` remembers the thread that built it. -/
inductive RuntimeKind where
  | runtime
  | localRuntime (thread : Nat)
  | closed
deriving DecidableEq, Repr

namespace RuntimeKind

def isClosed : RuntimeKind → Bool
  | .closed => true
  | _ => false

def localOpen : RuntimeKind → Bool
  | .localRuntime _ => true
  | _ => false

/-- The locked part of `RuntimeOwner::close`, run by `thread`. -/
def close (thread : Nat) :
    RuntimeKind → RuntimeKind × Except String Unit
  | .runtime => (.closed, .ok ())
  | .localRuntime origin =>
      if thread ≠ origin then
        (.localRuntime origin,
          .error "LocalRuntime was used from another thread")
      else
        (.closed, .ok ())
  | .closed => (.closed, .ok ())

theorem isClosed_close_of_isClosed {kind : RuntimeKind} (thread : Nat)
    (closed : kind.isClosed = true) :
    (kind.close thread).1.isClosed = true := by
  cases kind <;> simp_all [isClosed, close]

/-- A close that reports success leaves the runtime closed. -/
theorem isClosed_close_of_ok {kind : RuntimeKind} {thread : Nat}
    (succeeded : (kind.close thread).2 = .ok ()) :
    (kind.close thread).1.isClosed = true := by
  cases kind with
  | runtime => rfl
  | closed => rfl
  | localRuntime origin =>
      by_cases same : thread = origin
      · simp [close, same, isClosed]
      · simp [close, same] at succeeded

end RuntimeKind

/-- `DeferredState`, with guest wakers and activity ids by number. -/
structure DeferredState where
  waker : Option Nat
  cleanup : Option Nat
  woken : Bool
deriving DecidableEq, Repr

namespace DeferredState

/-- The state `defer` builds around the guest waker. -/
def new (waker : Nat) : DeferredState :=
  ⟨some waker, none, false⟩

/-- The locked part of `Deferred::wake`; the waker and the cleanup taken
are woken and dropped after it. -/
def wake (state : DeferredState) :
    DeferredState × Option Nat × Option Nat :=
  (⟨none, none, true⟩, state.waker, state.cleanup)

/-- The locked part of `Deferred::install`; a cleanup given back is dropped
after it. -/
def install (state : DeferredState) (cleanup : Nat) :
    DeferredState × Option Nat :=
  if state.woken then
    (state, some cleanup)
  else
    ({ state with cleanup := some cleanup }, none)

end DeferredState

end Telekio.Owner
