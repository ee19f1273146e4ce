import Telekio.Interleave.Program
import Telekio.Readiness.Guest

/-!
# One registration of a guest

Any number of guest threads call the operations of one registration while the
owner shuts down and closes its resources. Every lock taken on either side of
the ABI is one step. What Tokio answers, and what the closure of a `try_io`
returns, is free.
-/

namespace Telekio.Readiness

open Telekio.Interleave

/-- The `error` of the guest's `State`; `failure` remembers the error of the
host that it stands for. -/
structure Stored where
  error : Error
  failure : Error
deriving DecidableEq, Repr

structure Shared where
  accepting : Bool
  registration : Resource Registration
  operations : Nat → Option (Resource Operation)
  nextId : Nat
  error : Option Stored

/-- A resource of the owner. -/
inductive Target where
  | registration
  | operation (id : Nat)
deriving DecidableEq, Repr

namespace Shared

def fresh (registration : Registration) : Shared where
  accepting := true
  registration := .new registration
  operations := fun _ => none
  nextId := 0
  error := none

variable (shared : Shared)

def change (target : Target)
    (update : {T : Type} → Resource T → Resource T) : Shared :=
  match target with
  | .registration =>
      { shared with registration := update shared.registration }
  | .operation id =>
      { shared with
        operations := Function.update shared.operations id
          ((shared.operations id).map update) }

/-- The locks of the target are not poisoned. -/
def usable (target : Target) : Bool :=
  match target with
  | .registration => !shared.registration.poisoned
  | .operation id =>
      (shared.operations id).any fun resource => !resource.poisoned

end Shared

/-- The steps; `cutoff` and the two statements of `close` belong to
`shutdown_owner`. -/
inductive Op where
  | skip
  | takeError
  | storeError (stored : Stored)
  | updateWaker (target : Target) (waker : Nat)
  | poll (interest : IoInterest) (tokio : Tokio)
  | register (operation : Operation)
  | pollOperation (id : Nat) (tokio : Tokio)
  | tryReady (interest : IoInterest) (tokio : Tokio)
  | clear (tokio : Tokio)
  | cutoff
  | takeValue (target : Target)
  | takeWaker (target : Target)
deriving DecidableEq, Repr

def Op.apply (platform : Platform) (op : Op) (shared : Shared) : Shared :=
  match op with
  | .skip => shared
  | .takeError => { shared with error := none }
  | .storeError stored =>
      { shared with error := some (shared.error.getD stored) }
  | .updateWaker target waker =>
      shared.change target fun resource => (resource.updateWaker waker).1
  | .poll interest tokio =>
      { shared with
        registration :=
          (pollRegistration platform shared.registration interest tokio).1 }
  | .register operation =>
      if shared.accepting then
        { shared with
          operations := Function.update shared.operations shared.nextId
            (some (.new operation))
          nextId := shared.nextId + 1 }
      else
        shared
  | .pollOperation id tokio =>
      { shared with
        operations := Function.update shared.operations id
          ((shared.operations id).map fun resource =>
            (Readiness.pollOperation platform resource tokio).1) }
  | .tryReady interest tokio =>
      { shared with
        registration :=
          (Readiness.tryReady platform shared.registration interest
            tokio).1 }
  | .clear tokio =>
      { shared with
        registration :=
          (Readiness.clear platform shared.registration tokio).1 }
  | .cutoff => { shared with accepting := false }
  | .takeValue target =>
      shared.change target fun resource => resource.takeValue.1
  | .takeWaker target =>
      shared.change target fun resource => resource.takeWaker

/-- Why the host has not done what a call asked for: the owner is shutting
down or the resource is closed, Tokio failed, or something panicked. -/
inductive Trouble where
  | refused
  | failed (error : Error)
  | panicked
deriving DecidableEq, Repr

/-- Where a call met it: at the stored error, in `poll_registration`, while
`ready` made an operation, in `poll_operation`, in the `try_ready` or the
`clear` of a `try_io`, or in the `clear` of a `clear_readiness`. -/
inductive Place where
  | stored
  | poll
  | create
  | operation
  | attempt
  | attemptClear
  | clear
deriving DecidableEq, Repr

structure Met where
  place : Place
  trouble : Trouble
deriving DecidableEq, Repr

/-- The error in an answer of Tokio. -/
def TaskPoll.error? {A : Type} : TaskPoll (Except Error A) → Option Error
  | .ready (.error error) => some error
  | _ => none

def Registration.tryError (registration : Registration)
    (interest : IoInterest) (tokio : Tokio) : Ended (Option Error) :=
  match registration, hostInterest interest with
  | .aio, _ => tokio.pollReady.map TaskPoll.error?
  | _, .ok _ => tokio.readyEvent.map fun _ => none
  | _, .error error => .returned (some error)

/-- What a locked call meets that fails with `error`. -/
def Resource.meets {T : Type} (resource : Resource T) (place : Place)
    (error : T → Ended (Option Error)) : Option Met :=
  if resource.poisoned then
    some ⟨place, .panicked⟩
  else
    match resource.inner.value with
    | none => some ⟨place, .refused⟩
    | some value =>
        match error value with
        | .returned error => error.map fun error => ⟨place, .failed error⟩
        | .unwound _ => some ⟨place, .panicked⟩

/-! ## The calls -/

inductive Direction where
  | read
  | write
deriving DecidableEq, Repr

/-- `poll_read_ready` and `poll_write_ready`, `readiness`, `try_io` and
`clear_readiness`. -/
inductive Call where
  | pollReady (direction : Direction)
  | readiness (interest : Interest)
  | tryIo (interest : Interest)
  | clearReadiness
deriving DecidableEq, Repr

def Direction.interest : Direction → IoInterest
  | .read => telekioInterest .readable
  | .write => telekioInterest .writable

/-- A readiness event, the result of a closure, or nothing. -/
inductive Value where
  | event (event : ReadyEvent)
  | result (result : Nat)
  | cleared
deriving DecidableEq, Repr

abbrev Outcome := Ended (TaskPoll (Except Error Value))

namespace Outcome

def error (error : Error) : Outcome :=
  .returned (.ready (.error error))

def cleared : Outcome :=
  .returned (.ready (.ok .cleared))

def ofPoll : Ended (TaskPoll (Except Error ReadyEvent)) → Outcome
  | .returned .pending => .returned .pending
  | .returned (.ready (.ok event)) => .returned (.ready (.ok (.event event)))
  | .returned (.ready (.error error)) => .error error
  | .unwound payload => .unwound payload

def ofTry (ended : Ended (Except Error Unit)) : Outcome :=
  ended.map fun result => .ready (result.map fun _ => .cleared)

end Outcome

/-- `asked` is past the stored error, `updated` and `polling` past
`update_waker`; `future` holds the future that has no resource yet, and
`clearing` the error of the closure. -/
inductive Stage where
  | called
  | asked
  | updated
  | future (operation : Operation)
  | waiting (id : Nat)
  | polling (id : Nat)
  | attempting
  | clearing (error : Error)
  | storing (stored : Stored)
  | returned (met : Option Met) (outcome : Outcome)
deriving DecidableEq, Repr

section Steps

variable (platform : Platform)

/-- The steps of the call. -/
inductive Call.Acts (shared : Shared) : Call → Stage → Op → Stage → Prop
  | stored {call : Call} {stored : Stored}
      (asks : call ≠ .clearReadiness)
      (found : shared.error = some stored) :
      Call.Acts shared call .called .takeError
        (.returned (some ⟨.stored, .failed stored.failure⟩)
          (.error stored.error))
  | asked {call : Call}
      (asks : call ≠ .clearReadiness)
      (free : shared.error = none) :
      Call.Acts shared call .called .takeError .asked
  | updated {direction : Direction} (waker : Nat)
      (updates : (shared.registration.updateWaker waker).2 =
        .returned ()) :
      Call.Acts shared (.pollReady direction) .asked
        (.updateWaker .registration waker) .updated
  | notUpdated {direction : Direction} {payload : String} (waker : Nat)
      (unwinds : (shared.registration.updateWaker waker).2 =
        .unwound payload) :
      Call.Acts shared (.pollReady direction) .asked
        (.updateWaker .registration waker)
        (.returned (some ⟨.poll, .panicked⟩)
          (.ofPoll (decodePoll (ioCallback (.unwound payload)))))
  | polled {direction : Direction} (tokio : Tokio) :
      Call.Acts shared (.pollReady direction) .updated
        (.poll direction.interest tokio)
        (.returned
          (shared.registration.meets .poll fun registration =>
            (registration.pollReady direction.interest tokio).map
              TaskPoll.error?)
          (.ofPoll (decodePoll (pollRegistration platform
            shared.registration direction.interest tokio).2)))
  | future {interest : Interest} {operation : Operation}
      (built : readyFuture shared.registration (telekioInterest interest) =
        .returned (.ok operation)) :
      Call.Acts shared (.readiness interest) .asked .skip
        (.future operation)
  | noFuture {interest : Interest} {payload : String}
      (unwinds : decodeOperation platform (ready
        ((readyFuture shared.registration (telekioInterest interest)).map
          (Except.map fun _ => ()))) = .unwound payload) :
      Call.Acts shared (.readiness interest) .asked .skip
        (.returned
          (shared.registration.meets .create fun _ => .returned none)
          (.unwound payload))
  | registered {interest : Interest} {operation : Operation}
      (created : decodeOperation platform (ready (.returned
        (registerOperation shared.accepting))) = .returned ()) :
      Call.Acts shared (.readiness interest) (.future operation)
        (.register operation) (.waiting shared.nextId)
  | notRegistered {interest : Interest} {operation : Operation}
      {payload : String}
      (unwinds : decodeOperation platform (ready (.returned
        (registerOperation shared.accepting))) = .unwound payload) :
      Call.Acts shared (.readiness interest) (.future operation)
        (.register operation)
        (.returned (some ⟨.create, .refused⟩) (.unwound payload))
  | operationUpdated {interest : Interest} {id : Nat}
      {resource : Resource Operation} (waker : Nat)
      (found : shared.operations id = some resource)
      (updates : (resource.updateWaker waker).2 = .returned ()) :
      Call.Acts shared (.readiness interest) (.waiting id)
        (.updateWaker (.operation id) waker) (.polling id)
  | operationNotUpdated {interest : Interest} {id : Nat}
      {resource : Resource Operation} {payload : String} (waker : Nat)
      (found : shared.operations id = some resource)
      (unwinds : (resource.updateWaker waker).2 = .unwound payload) :
      Call.Acts shared (.readiness interest) (.waiting id)
        (.updateWaker (.operation id) waker)
        (.returned (some ⟨.operation, .panicked⟩)
          (.ofPoll (decodeReadiness platform (ioCallback (.unwound payload)))))
  | pending {interest : Interest} {id : Nat}
      {resource : Resource Operation} (tokio : Tokio)
      (found : shared.operations id = some resource)
      (waits : decodeReadiness platform
        (pollOperation platform resource tokio).2 = .returned .pending) :
      Call.Acts shared (.readiness interest) (.polling id)
        (.pollOperation id tokio) (.waiting id)
  | completed {interest : Interest} {id : Nat}
      {resource : Resource Operation} (tokio : Tokio)
      (found : shared.operations id = some resource)
      (ends : decodeReadiness platform
        (pollOperation platform resource tokio).2 ≠ .returned .pending) :
      Call.Acts shared (.readiness interest) (.polling id)
        (.pollOperation id tokio)
        (.returned
          (resource.meets .operation fun operation =>
            (operation.registration.pollReady operation.interest tokio).map
              TaskPoll.error?)
          (.ofPoll (decodeReadiness platform
            (pollOperation platform resource tokio).2)))
  | attempting {interest : Interest} (tokio : Tokio)
      (allowed : decodeTry (tryReady platform shared.registration
        (telekioInterest interest) tokio).2 = .returned (.ok ())) :
      Call.Acts shared (.tryIo interest) .asked
        (.tryReady (telekioInterest interest) tokio) .attempting
  | tried {interest : Interest} (tokio : Tokio)
      (ends : decodeTry (tryReady platform shared.registration
        (telekioInterest interest) tokio).2 ≠ .returned (.ok ())) :
      Call.Acts shared (.tryIo interest) .asked
        (.tryReady (telekioInterest interest) tokio)
        (.returned
          (shared.registration.meets .attempt fun registration =>
            registration.tryError (telekioInterest interest) tokio)
          (.ofTry (decodeTry (tryReady platform shared.registration
            (telekioInterest interest) tokio).2)))
  | succeeded {interest : Interest} (result : Nat) :
      Call.Acts shared (.tryIo interest) .attempting .skip
        (.returned none (.returned (.ready (.ok (.result result)))))
  | failed {interest : Interest} {error : Error}
      (fails : error.kind platform ≠ .wouldBlock) :
      Call.Acts shared (.tryIo interest) .attempting .skip
        (.returned none (.error error))
  | blocked {interest : Interest} {error : Error}
      (blocks : error.kind platform = .wouldBlock) :
      Call.Acts shared (.tryIo interest) .attempting .skip
        (.clearing error)
  | attemptCleared {interest : Interest} {error : Error} (tokio : Tokio) :
      Call.Acts shared (.tryIo interest) (.clearing error) (.clear tokio)
        (.returned
          (shared.registration.meets .attemptClear fun registration =>
            (registration.clear tokio).map (TaskPoll.error? ∘ .ready))
          (((clear platform shared.registration tokio).2.intoIoResult.andThen
            fun _ => .returned (.error error)).map .ready))
  | cleared (tokio : Tokio)
      (clears : (clear platform shared.registration tokio).2.intoIoResult =
        .returned (.ok ())) :
      Call.Acts shared .clearReadiness .called (.clear tokio)
        (.returned
          (shared.registration.meets .clear fun registration =>
            (registration.clear tokio).map (TaskPoll.error? ∘ .ready))
          .cleared)
  | notCleared {payload : String} (tokio : Tokio)
      (unwinds : (clear platform shared.registration tokio).2.intoIoResult =
        .unwound payload) :
      Call.Acts shared .clearReadiness .called (.clear tokio)
        (.returned (some ⟨.clear, .panicked⟩) (.unwound payload))
  | storing {error failure : Error} (tokio : Tokio)
      (fails : (clear platform shared.registration tokio).2.intoIoResult =
        .returned (.error error))
      (because : (shared.registration.meets .clear fun registration =>
        (registration.clear tokio).map (TaskPoll.error? ∘ .ready)) =
          some ⟨.clear, .failed failure⟩) :
      Call.Acts shared .clearReadiness .called (.clear tokio)
        (.storing ⟨error, failure⟩)
  | stores {stored : Stored} :
      Call.Acts shared .clearReadiness (.storing stored)
        (.storeError stored)
        (.returned (some ⟨.clear, .failed stored.failure⟩) .cleared)

/-- A `close` of one resource. -/
inductive Close where
  | called
  | valueTaken
  | ended
deriving DecidableEq, Repr

/-- Resources are closed after the cutoff; a poisoned one stops its
`close`. -/
inductive Close.Acts (shared : Shared) (target : Target) :
    Close → Op → Close → Prop
  | taken (late : shared.accepting = false)
      (usable : shared.usable target = true) :
      Close.Acts shared target .called (.takeValue target) .valueTaken
  | panicked (late : shared.accepting = false)
      (poisoned : shared.usable target = false) :
      Close.Acts shared target .called (.takeValue target) .ended
  | woken :
      Close.Acts shared target .valueTaken (.takeWaker target) .ended

inductive Thread where
  | call (call : Call) (stage : Stage)
  | cutoff (made : Bool)
  | close (target : Target) (close : Close)
deriving DecidableEq, Repr

inductive Thread.Starts : Thread → Prop
  | call (call : Call) : Thread.Starts (.call call .called)
  | cutoff : Thread.Starts (.cutoff false)
  | close (target : Target) : Thread.Starts (.close target .called)

inductive Thread.Acts (shared : Shared) : Thread → Op → Thread → Prop
  | call {call : Call} {stage next : Stage} {op : Op}
      (acts : Call.Acts platform shared call stage op next) :
      Thread.Acts shared (.call call stage) op (.call call next)
  | cutoff : Thread.Acts shared (.cutoff false) .cutoff (.cutoff true)
  | close {target : Target} {close next : Close} {op : Op}
      (acts : Close.Acts shared target close op next) :
      Thread.Acts shared (.close target close) op (.close target next)

/-- The registration and the threads that use and close it. -/
def program : Program Shared Thread Op where
  initial := fun shared => ∃ registration, shared = .fresh registration
  start := Thread.Starts
  act := Thread.Acts platform
  apply := Op.apply platform

end Steps

abbrev World := Interleave.World Shared Thread

end Telekio.Readiness
