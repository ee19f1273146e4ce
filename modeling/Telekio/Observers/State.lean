import Mathlib.Data.Finset.Basic
import Mathlib.Data.Finset.Dedup

/-!
# The worker observers of a host runtime

`WorkerObservers` of `host/runtime/scheduler/multi_thread/worker.rs`. The ids
and the pending lists are under one mutex; one function stands for one
critical section of it. The flags are atomic words beside it: `tick` swaps its
flag before it takes the mutex.
-/

namespace Telekio.Observers

/-- `State` and the flags, for `workers` workers. The closures are known by
their ids; `observers` has the keys of the map. -/
structure WorkerObservers where
  workers : Nat
  nextId : Nat
  observers : Finset Nat
  pending : Nat → List Nat
  flag : Nat → Bool

namespace WorkerObservers

def new (workers : Nat) : WorkerObservers where
  workers := workers
  nextId := 0
  observers := ∅
  pending := fun _ => []
  flag := fun _ => false

variable (state : WorkerObservers)

/-- Whether `add` leaves its id for the worker. -/
def Leaves (current : Option Nat) (worker : Nat) : Prop :=
  worker < state.workers ∧ some worker ≠ current

instance (current : Option Nat) (worker : Nat) :
    Decidable (state.Leaves current worker) :=
  inferInstanceAs (Decidable (_ ∧ _))

/-- The locked part of `add`; the new id is `nextId`, and the observer is
called with `current` after it. -/
def add (current : Option Nat) : WorkerObservers :=
  { state with
    nextId := state.nextId + 1
    observers := insert state.nextId state.observers
    pending := fun worker =>
      if state.Leaves current worker then
        state.pending worker ++ [state.nextId]
      else
        state.pending worker
    flag := fun worker =>
      if state.Leaves current worker then true else state.flag worker }

def remove (id : Nat) : WorkerObservers :=
  { state with
    observers := state.observers.erase id
    pending := fun worker =>
      (state.pending worker).filter fun candidate => candidate ≠ id }

/-- The locked part of `start`; all observers are called after it. -/
def start (worker : Nat) : WorkerObservers :=
  { state with
    pending := Function.update state.pending worker []
    flag := Function.update state.flag worker false }

/-- The first statement of `tick`. -/
def swap (worker : Nat) : WorkerObservers :=
  { state with flag := Function.update state.flag worker false }

/-- The locked part of `tick`. -/
def take (worker : Nat) : WorkerObservers :=
  { state with pending := Function.update state.pending worker [] }

/-- The observers that the rest of `tick` calls. -/
def taken (worker : Nat) : List Nat :=
  (state.pending worker).filter fun id => id ∈ state.observers

end WorkerObservers

end Telekio.Observers
