import Telekio.Owner.Objects
import Telekio.Readiness.Errors

/-!
# The host side of an I/O registration

The callbacks of `bridge/runtime/io/mod.rs` with `imp::Registration` of
`unix.rs` and `windows.rs`. A callback takes one or two locks, and one
function stands for what it does under one of them.
-/

namespace Telekio.Readiness

open Telekio.Owner

namespace Ended

variable {A B : Type}

def map (change : A → B) : Ended A → Ended B
  | .returned value => .returned (change value)
  | .unwound payload => .unwound payload

end Ended

/-- `std::task::Poll`. -/
inductive TaskPoll (A : Type) where
  | pending
  | ready (value : A)
deriving DecidableEq, Repr

/-- Tokio's `Interest`. -/
structure Interest where
  bits : UInt64
deriving DecidableEq, Repr

namespace Interest

def readable : Interest := ⟨1⟩
def writable : Interest := ⟨2⟩
def aio : Interest := ⟨4⟩
def lio : Interest := ⟨8⟩
def priority : Interest := ⟨16⟩
def error : Interest := ⟨32⟩

def has (interest flag : Interest) : Bool :=
  interest.bits &&& flag.bits != 0

def union (interest other : Interest) : Interest :=
  ⟨interest.bits ||| other.bits⟩

end Interest

structure IoInterest where
  bits : UInt8
deriving DecidableEq, Repr

namespace IoInterest

def empty : IoInterest := ⟨0⟩
def readable : IoInterest := ⟨1⟩
def writable : IoInterest := ⟨2⟩
def priority : IoInterest := ⟨4⟩
def error : IoInterest := ⟨8⟩
def aio : IoInterest := ⟨16⟩
def lio : IoInterest := ⟨32⟩

def contains (interest other : IoInterest) : Bool :=
  interest.bits &&& other.bits != 0

/-- `|=` when the condition holds. -/
def orIf (interest : IoInterest) (condition : Bool)
    (other : IoInterest) : IoInterest :=
  if condition then ⟨interest.bits ||| other.bits⟩ else interest

end IoInterest

/-- Tokio's `Ready`. -/
structure Ready where
  bits : UInt64
deriving DecidableEq, Repr

namespace Ready

def contains (ready : Ready) (flag : UInt64) : Bool :=
  ready.bits &&& flag != 0

variable (ready : Ready)

def isReadClosed : Bool := ready.contains 4
def isWriteClosed : Bool := ready.contains 8
def isReadable : Bool := ready.contains 1 || ready.isReadClosed
def isWritable : Bool := ready.contains 2 || ready.isWriteClosed
def isPriority : Bool := ready.contains 16
def isError : Bool := ready.contains 32

/-- `Ready::from_usize` keeps the six flags. -/
def fromUsize (bits : UInt64) : Ready :=
  ⟨bits &&& 63⟩

end Ready

structure IoReady where
  bits : UInt8
deriving DecidableEq, Repr

namespace IoReady

def empty : IoReady := ⟨0⟩
def readable : IoReady := ⟨1⟩
def writable : IoReady := ⟨2⟩
def readClosed : IoReady := ⟨4⟩
def writeClosed : IoReady := ⟨8⟩
def priority : IoReady := ⟨16⟩
def error : IoReady := ⟨32⟩
def shutdown : IoReady := ⟨64⟩

def contains (ready other : IoReady) : Bool :=
  ready.bits &&& other.bits != 0

/-- `|=` when the condition holds. -/
def orIf (ready : IoReady) (condition : Bool) (other : IoReady) :
    IoReady :=
  if condition then ⟨ready.bits ||| other.bits⟩ else ready

end IoReady

/-- The flags of all platforms; a platform lacks the later ones. -/
def telekioInterest (interest : Interest) : IoInterest :=
  IoInterest.empty
    |>.orIf (interest.has .readable) .readable
    |>.orIf (interest.has .writable) .writable
    |>.orIf (interest.has .error) .error
    |>.orIf (interest.has .aio) .aio
    |>.orIf (interest.has .lio) .lio
    |>.orIf (interest.has .priority) .priority

def addInterest (target : Option Interest) (condition : Bool)
    (interest : Interest) : Option Interest :=
  if condition then
    some (target.elim interest fun current => current.union interest)
  else
    target

def hostInterest (interest : IoInterest) : Except Error Interest :=
  let result :=
    [(IoInterest.readable, Interest.readable),
      (IoInterest.writable, Interest.writable),
      (IoInterest.error, Interest.error),
      (IoInterest.priority, Interest.priority)].foldl
      (fun target flag =>
        addInterest target (interest.contains flag.1) flag.2) none
  match result with
  | some interest => .ok interest
  | none => .error (.custom .invalidInput "I/O interest is empty")

/-- `(u8, Ready, bool)`: tick, readiness and shutdown. -/
structure HostEvent where
  tick : UInt8
  ready : Ready
  shutdown : Bool
deriving DecidableEq, Repr

structure HostReady where
  tick : UInt8
  ready : IoReady
deriving DecidableEq, Repr

inductive Poll where
  | pending
  | ready
  | panicked
deriving DecidableEq, Repr

/-- `IoPoll`; `value` belongs to `try_operate`. -/
structure IoPoll where
  state : Poll
  call : CallResult
  error : IoError
  ready : IoReady
  tick : UInt8
deriving DecidableEq, Repr

/-- `IoOperationResult`; the operation is in the owner's resources. -/
structure IoOperationResult where
  call : CallResult
deriving DecidableEq, Repr

structure IoCallResult where
  call : CallResult
  error : IoError
deriving DecidableEq, Repr

def mapReady (ready : Ready) : IoReady :=
  IoReady.empty
    |>.orIf ready.isReadable .readable
    |>.orIf ready.isWritable .writable
    |>.orIf ready.isReadClosed .readClosed
    |>.orIf ready.isWriteClosed .writeClosed
    |>.orIf ready.isError .error
    |>.orIf ready.isPriority .priority

def hostReady (event : HostEvent) : HostReady :=
  ⟨event.tick, (mapReady event.ready).orIf event.shutdown .shutdown⟩

def ioPoll (state : Poll) (call : CallResult) (ready : IoReady) : IoPoll :=
  ⟨state, call, .none, ready, 0⟩

def ioPollEvent (state : Poll) (call : CallResult) (tick : UInt8)
    (ready : IoReady) : IoPoll :=
  ⟨state, call, .none, ready, tick⟩

def readyNow (ready : HostReady) : IoPoll :=
  if ready.ready.bits = 0 then
    ioPoll .pending .ok .empty
  else
    ioPollEvent .ready .ok ready.tick ready.ready

/-- `io_callback`. -/
def ioCallback : Ended IoPoll → IoPoll
  | .returned result => result
  | .unwound payload => ioPoll .panicked (.hostPanic payload) .empty

section Host

variable (platform : Platform)

def ioPollError (state : Poll) (error : Error) (ready : IoReady) :
    IoPoll :=
  ⟨state, .error (error.toString platform), .fromError platform error,
    ready, 0⟩

def resourceError (message : String) : IoPoll :=
  ioPollError platform .ready (.other message) .shutdown

def readyPoll : TaskPoll (Except Error HostEvent) → IoPoll
  | .pending => ioPoll .pending .ok .empty
  | .ready (.ok event) => readyNow (hostReady event)
  | .ready (.error error) => ioPollError platform .ready error .shutdown

def completionPoll : TaskPoll (Except Error HostReady) → IoPoll
  | .pending => ioPoll .pending .ok .empty
  | .ready (.ok ready) => ioPollEvent .ready .ok ready.tick ready.ready
  | .ready (.error error) => ioPollError platform .ready error .shutdown

/-- `io_call`. -/
def ioCall : Ended (Except Error Unit) → IoCallResult
  | .returned (.ok ()) => ⟨.ok, .none⟩
  | .returned (.error error) =>
      ⟨.error (error.toString platform), .fromError platform error⟩
  | .unwound payload => ⟨.hostPanic payload, .none⟩

/-! ## `imp::Registration` -/

/-- What Tokio answers to a call of this moment. -/
structure Tokio where
  pollReady : Ended (TaskPoll (Except Error HostEvent))
  readyEvent : Ended HostEvent
  clearReady : Ended (Except Error Unit)
deriving DecidableEq, Repr

/-- `UnixIo` and `WindowsIo`. -/
inductive Registration where
  | fd
  | aio
  | socket
  | pipe
deriving DecidableEq, Repr

namespace Registration

variable (registration : Registration)
variable (interest : IoInterest) (tokio : Tokio)

def pollReady : Ended (TaskPoll (Except Error HostEvent)) :=
  match registration with
  | .aio => tokio.pollReady
  | _ =>
      match hostInterest interest with
      | .ok _ => tokio.pollReady
      | .error error => .returned (.ready (.error error))

/-- A poll of the future that `ready` returns. -/
def ready : Ended (TaskPoll (Except Error HostReady)) :=
  (registration.pollReady interest tokio).map fun
    | .pending => .pending
    | .ready (.ok event) => .ready (.ok (hostReady event))
    | .ready (.error error) => .ready (.error error)

def tryReady : Ended IoPoll :=
  match registration, hostInterest interest with
  | .fd, .ok _ =>
      tokio.readyEvent.map fun event => readyPoll platform (.ready (.ok event))
  | .fd, .error error => .returned (readyPoll platform (.ready (.error error)))
  | .aio, _ => tokio.pollReady.map (readyPoll platform)
  | _, .ok _ => tokio.readyEvent.map fun event => readyNow (hostReady event)
  | _, .error error => .returned (ioPollError platform .ready error .empty)

/-- Only a socket is armed again, which may fail. -/
def clear : Ended (Except Error Unit) :=
  match registration with
  | .socket => tokio.clearReady
  | _ => tokio.clearReady.map fun _ => .ok ()

end Registration

end Host

/-- A `HostResource` with the poison flag of its mutex `value`. -/
structure Resource (T : Type) where
  inner : HostResource T Nat
  poisoned : Bool
deriving DecidableEq, Repr

/-- The future that `ready` returns, by what it awaits. -/
structure Operation where
  registration : Registration
  interest : IoInterest
deriving DecidableEq, Repr

namespace Resource

variable {T R : Type}

def new (value : T) : Resource T :=
  ⟨HostResource.new value, false⟩

/-- The panic of `lock().unwrap()`. -/
def poisonError : String :=
  "called `Result::unwrap()` on an `Err` value: PoisonError { .. }"

variable (resource : Resource T)

def updateWaker (waker : Nat) : Resource T × Ended Unit :=
  if resource.poisoned then
    (resource, .unwound poisonError)
  else
    ({ resource with inner := resource.inner.updateWaker waker },
      .returned ())

/-- A call that unwinds under the lock poisons it. -/
def withValue (call : T → Ended R) :
    Resource T × Ended (Except String R) :=
  if resource.poisoned then
    (resource, .unwound poisonError)
  else
    match resource.inner.value with
    | none => (resource, .returned (.error HostResource.ownerHasShutDown))
    | some value =>
        match call value with
        | .returned result => (resource, .returned (.ok result))
        | .unwound payload =>
            ({ resource with poisoned := true }, .unwound payload)

/-- The first statement of `close`, which panics on a poisoned lock. -/
def takeValue : Resource T × Ended Unit :=
  if resource.poisoned then
    (resource, .unwound poisonError)
  else
    ({ resource with inner := resource.inner.takeValue }, .returned ())

/-- The second statement of `close`. -/
def takeWaker : Resource T :=
  { resource with inner := resource.inner.takeWaker }

end Resource

section Callbacks

variable (platform : Platform)
variable (resource : Resource Registration)

/-- `unwrap_or_else(resource_error)`. -/
def orResourceError : Except String IoPoll → IoPoll
  | .ok result => result
  | .error message => resourceError platform message

/-- `poll_registration`, past `update_waker`. -/
def pollRegistration (interest : IoInterest) (tokio : Tokio) :
    Resource Registration × IoPoll :=
  let called := resource.withValue fun registration =>
    (registration.pollReady interest tokio).map (readyPoll platform)
  (called.1, ioCallback (called.2.map (orResourceError platform)))

def tryReady (interest : IoInterest) (tokio : Tokio) :
    Resource Registration × IoPoll :=
  let called := resource.withValue fun registration =>
    registration.tryReady platform interest tokio
  (called.1, ioCallback (called.2.map (orResourceError platform)))

def clear (tokio : Tokio) : Resource Registration × IoCallResult :=
  let called := resource.withValue fun registration =>
    registration.clear tokio
  (called.1, ioCall platform (called.2.map fun
    | .ok result => result
    | .error _ => .ok ()))

/-- The future of `ready`; building it asks Tokio nothing. -/
def readyFuture (interest : IoInterest) :
    Ended (Except String Operation) :=
  (resource.withValue fun registration =>
    .returned (Operation.mk registration interest)).2

/-- `HostResource::new` registers the operation with the owner. -/
def registerOperation (accepting : Bool) : Except String Unit :=
  if accepting then .ok () else .error shuttingDown

/-- What `ready` returns. -/
def ready : Ended (Except String Unit) → IoOperationResult
  | .returned (.ok ()) => ⟨.ok⟩
  | .returned (.error error) => ⟨.error error⟩
  | .unwound payload => ⟨.hostPanic payload⟩

/-- `poll_operation`, past `update_waker`. -/
def pollOperation (operation : Resource Operation) (tokio : Tokio) :
    Resource Operation × IoPoll :=
  let called := operation.withValue fun operation =>
    (operation.registration.ready operation.interest tokio).map
      (completionPoll platform)
  (called.1, ioCallback (called.2.map (orResourceError platform)))

end Callbacks

end Telekio.Readiness
