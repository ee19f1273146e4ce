import Telekio.Interleave.Program
import Telekio.Owner.Objects

/-!
# Polls of one host resource

`poll_registration`, `poll_operation` and their siblings make two locked
steps, `update_waker` and then `with` or `with_mut`; `HostResource::close`
makes two of its own. Any number of tasks poll the resource while any number
of owner shutdowns close it.
-/

namespace Telekio.Polling

open Telekio.Interleave
open Telekio.Owner

/-- The Tokio object inside the resource, by the wakers it stores. -/
abbrev Inner := List Nat

/-- What the object answers to a poll while it exists. -/
inductive Readiness where
  | pending
  | ready
deriving DecidableEq, Repr

/-- `IoPoll`; an error carries `IoReady::SHUTDOWN`. -/
inductive IoPoll where
  | pending
  | ready
  | error (message : String)
deriving DecidableEq, Repr

/-- A pending poll stores its waker in the object. -/
def pollInner (waker : Nat) (readiness : Readiness) (inner : Inner) :
    Inner × IoPoll :=
  match readiness with
  | .pending => (waker :: inner, .pending)
  | .ready => (inner, .ready)

/-- `unwrap_or_else(resource_error)`. -/
def resourceError : Except String IoPoll → IoPoll
  | .ok poll => poll
  | .error message => .error message

/-- `waiting` tells of a waker whether its latest poll returned `Pending`
and it has not been woken since; `overwritten`, whether another waker has
taken its place in the slot since it was last stored there. -/
structure Shared where
  resource : HostResource Inner Nat
  waiting : Nat → Bool
  overwritten : Nat → Bool

/-- `HostResource::new`. -/
def Shared.fresh : Shared where
  resource := HostResource.new []
  waiting := fun _ => false
  overwritten := fun _ => false

/-- The atomic steps; `wake` is a readiness event inside the object. -/
inductive Op where
  | updateWaker (waker : Nat)
  | poll (waker : Nat) (readiness : Readiness)
  | wake (waker : Nat)
  | takeValue
  | takeWaker
deriving DecidableEq, Repr

namespace Op

/-- The second step of a poll, and what it returns. -/
def withInner (waker : Nat) (readiness : Readiness) (shared : Shared) :
    HostResource Inner Nat × IoPoll :=
  let result := shared.resource.withMut (pollInner waker readiness)
  (result.1, resourceError result.2)

def resource (op : Op) (shared : Shared) : HostResource Inner Nat :=
  match op with
  | .updateWaker waker => shared.resource.updateWaker waker
  | .poll waker readiness => (withInner waker readiness shared).1
  | .wake waker =>
      { shared.resource with
        value := shared.resource.value.map (·.erase waker) }
  | .takeValue => shared.resource.takeValue
  | .takeWaker => shared.resource.takeWaker

/-- Dropping the object in `takeValue` wakes nobody. -/
def waiting (op : Op) (shared : Shared) : Nat → Bool :=
  match op with
  | .poll waker readiness =>
      Function.update shared.waiting waker
        ((withInner waker readiness shared).2 = .pending)
  | .wake waker => Function.update shared.waiting waker false
  | .takeWaker =>
      match shared.resource.waker with
      | some waker => Function.update shared.waiting waker false
      | none => shared.waiting
  | _ => shared.waiting

def overwritten (op : Op) (shared : Shared) : Nat → Bool :=
  match op with
  | .updateWaker waker =>
      if shared.resource.isClosed then
        shared.overwritten
      else
        Function.update
          (match shared.resource.waker with
          | some old => Function.update shared.overwritten old true
          | none => shared.overwritten)
          waker false
  | _ => shared.overwritten

def apply (op : Op) (shared : Shared) : Shared where
  resource := op.resource shared
  waiting := op.waiting shared
  overwritten := op.overwritten shared

end Op

/-- One poll of the resource with the waker of its task. -/
inductive Poll where
  | called (waker : Nat)
  | updated (waker : Nat)
  | returned (waker : Nat) (result : IoPoll)
deriving DecidableEq, Repr

/-- A `HostResource::close` call. -/
inductive Close where
  | called
  | valueTaken
  | returned
deriving DecidableEq, Repr

inductive Thread where
  | poll (poll : Poll)
  | close (close : Close)
  | driver
deriving DecidableEq, Repr

inductive Thread.Starts : Thread → Prop
  | poll (waker : Nat) : Starts (.poll (.called waker))
  | close : Starts (.close .called)
  | driver : Starts .driver

inductive Thread.Acts (shared : Shared) : Thread → Op → Thread → Prop
  | updateWaker {waker : Nat} :
      Acts shared (.poll (.called waker)) (.updateWaker waker)
        (.poll (.updated waker))
  | poll {waker : Nat} (readiness : Readiness) :
      Acts shared (.poll (.updated waker)) (.poll waker readiness)
        (.poll (.returned waker
          (Op.withInner waker readiness shared).2))
  | wake {waker : Nat} {inner : Inner}
      (alive : shared.resource.value = some inner)
      (stored : waker ∈ inner) :
      Acts shared .driver (.wake waker) .driver
  | takeValue :
      Acts shared (.close .called) .takeValue (.close .valueTaken)
  | takeWaker :
      Acts shared (.close .valueTaken) .takeWaker (.close .returned)

/-- The code around one resource. -/
def program : Program Shared Thread Op where
  initial := fun shared => shared = Shared.fresh
  start := Thread.Starts
  act := Thread.Acts
  apply := Op.apply

abbrev World :=
  Interleave.World Shared Thread

theorem reachable_fresh : program.Reachable (World.quiet Shared.fresh) :=
  Program.Reachable.quiet rfl

end Telekio.Polling
