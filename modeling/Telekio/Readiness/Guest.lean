import Telekio.Readiness.Host

/-!
# The guest side of an I/O registration

`guest/runtime/io/registration.rs` and `scheduled_io.rs` over the decoders of
`telekio-abi/src/io.rs`. Each function decodes one result of the host into
what the operation of the guest returns.
-/

namespace Telekio.Readiness

/-- Tokio's `ReadyEvent`; `is_shutdown` is never set by a guest. -/
structure ReadyEvent where
  tick : UInt8
  ready : Ready
deriving DecidableEq, Repr

structure IoEvent where
  ready : IoReady
  tick : UInt8
deriving DecidableEq, Repr

def readyEvent (ready : IoReady) (tick : UInt8) : ReadyEvent :=
  ⟨tick, .fromUsize ready.bits.toUInt64⟩

/-- Tokio's `gone()`. -/
def gone : Error :=
  .other "A Tokio 1.x context was found, but it is being shutdown."

/-- `io::ErrorKind::WouldBlock.into()`. -/
def wouldBlock : Error :=
  .custom .wouldBlock "operation would block"

/-- The panic of `unreachable!()`. -/
def unreachableCode : String :=
  "internal error: entered unreachable code"

namespace Ended

variable {A B : Type}

/-- The operator `?`. -/
def andThen (ended : Ended (Except Error A))
    (next : A → Ended (Except Error B)) : Ended (Except Error B) :=
  match ended with
  | .returned (.ok value) => next value
  | .returned (.error error) => .returned (.error error)
  | .unwound payload => .unwound payload

end Ended

/-- `poll_host_ready`; the call alone is decoded. -/
def decodePoll (result : IoPoll) :
    Ended (TaskPoll (Except Error ReadyEvent)) :=
  match result.state with
  | .pending => .returned .pending
  | .ready =>
      (result.call.intoIoResult.andThen fun _ =>
        .returned
          (if result.ready.contains .shutdown then
            .error gone
          else
            .ok (readyEvent result.ready result.tick))).map .ready
  | .panicked =>
      (result.call.intoIoResult.andThen fun _ =>
        .unwound unreachableCode).map .ready

/-- `IoRegistration::ready`. -/
def decodeOperation (platform : Platform) (result : IoOperationResult) :
    Ended Unit :=
  result.call.resume platform "failed to create Tokio I/O operation"

/-- `IoOperation::poll`. -/
def IoOperation.poll (platform : Platform) (result : IoPoll) :
    Ended (TaskPoll (Except Error IoEvent)) :=
  match result.state with
  | .pending => .returned .pending
  | .ready =>
      (result.error.intoIoResult result.call).map fun
        | .ok () => .ready (.ok ⟨result.ready, result.tick⟩)
        | .error error => .ready (.error error)
  | .panicked =>
      match result.error.intoIoResult result.call with
      | .returned (.ok ()) => .unwound unreachableCode
      | .returned (.error error) =>
          .unwound ("called `Result::unwrap()` on an `Err` value: " ++
            platform.debug error)
      | .unwound payload => .unwound payload

/-- `readiness`, past the creation of its operation. -/
def decodeReadiness (platform : Platform) (result : IoPoll) :
    Ended (TaskPoll (Except Error ReadyEvent)) :=
  (IoOperation.poll platform result).map fun
    | .pending => .pending
    | .ready (.error error) => .ready (.error error)
    | .ready (.ok event) =>
        .ready
          (if event.ready.contains .shutdown then
            .error gone
          else
            .ok (readyEvent event.ready event.tick))

/-- `try_io` up to the call of its closure. -/
def decodeTry (result : IoPoll) : Ended (Except Error Unit) :=
  match result.state with
  | .pending => .returned (.error wouldBlock)
  | .ready => result.call.intoIoResult
  | .panicked =>
      result.call.intoIoResult.andThen fun _ => .unwound unreachableCode

namespace IoCallResult

def intoIoResult (result : IoCallResult) : Ended (Except Error Unit) :=
  result.error.intoIoResult result.call

end IoCallResult

end Telekio.Readiness
