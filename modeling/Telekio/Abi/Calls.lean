import Telekio.Abi.BlockOn

/-!
# Closures across the ABI

`exit_runtime` of `guest/runtime/context/runtime_mt.rs` with the host's
`block_in_place`, and the host's `Attachment::enter` with `run_guest_call` and
the guest's `enter_guest_context`. A closure is called on the other side of
the ABI, and what it returns or panics with comes back beside a result.
-/

namespace Telekio.Abi

open Telekio.Crossing (Artifact)
open Telekio.Ledger
open Telekio.Readiness (Error Status)

variable {α : Type}

/-- `BlockingState`; the function is what it comes to when it is called. -/
structure BlockingState (α : Type) where
  function : Option (Except Payload α)
  result : Option (Except Payload α)

def ranTwice : Payload :=
  .string "blocking function ran twice"

/-- `run` of `exit_runtime`. -/
def BlockingState.run (state : BlockingState α) : Status × BlockingState α :=
  match state.function with
  | none => (.panicked, { state with result := some (.error ranTwice) })
  | some (.ok output) => (.ok, ⟨none, some (.ok output)⟩)
  | some (.error payload) => (.panicked, ⟨none, some (.error payload)⟩)

/-- The host's `task::block_in_place`: it panics before it calls the closure,
or calls it, and may panic then. -/
inductive HostBlocking where
  | panics (payload : Payload)
  | runs (after : Option Payload)

def HostBlocking.outcome (host : HostBlocking) (state : BlockingState α) :
    Except Payload Status × BlockingState α :=
  match host with
  | .panics payload => (.error payload, state)
  | .runs after =>
      let (status, state) := state.run
      (match after with
        | none => .ok status
        | some payload => .error payload, state)

/-- The result of `block_in_place`, which does not change a status. -/
def blockInPlaceResult : Except Payload (Except String Status) →
    Program CallResult
  | .ok (.ok status) => pure { CallResult.ok .host with status := status }
  | .ok (.error error) => CallResult.error .host error
  | .error payload => CallResult.hostPanic payload

def blockInPlace (activity : Except String Unit) (host : HostBlocking)
    (state : BlockingState α) : Program CallResult × BlockingState α :=
  match activity with
  | .error error => (blockInPlaceResult (.ok (.error error)), state)
  | .ok () =>
      let (outcome, state) := host.outcome state
      (blockInPlaceResult (outcome.map .ok), state)

def invalidBlockInPlace : Payload :=
  .str "host Tokio runtime returned an invalid block_in_place result"

/-- The match of `exit_runtime`, whose last branch does not free the
payload. -/
def takeBlocking (result : CallResult) :
    Option (Except Payload α) → Program α
  | stored =>
      match result.status, stored with
      | .ok, some (.ok output) => do
          result.payload.release_
          pure output
      | .panicked, some (.error payload) => do
          result.payload.release_
          unwind payload
      | .hostPanicked, _ => do
          let text ← result.payload.intoString
          unwind (.string text)
      | .error, _ => do
          let text ← result.payload.intoString
          unwind (.string text)
      | _, _ => unwind invalidBlockInPlace

def exitRuntime (activity : Except String Unit) (host : HostBlocking)
    (function : Except Payload α) : Program α := do
  let (call, state) := blockInPlace activity host ⟨some function, none⟩
  let result ← nounwind call
  takeBlocking result state.result

/-- What `exit_runtime` comes to. -/
def blockingExpected (activity : Except String Unit) (host : HostBlocking)
    (function : Except Payload α) : Except Payload α :=
  match activity, host with
  | .error error, _ => .error (.string error)
  | .ok (), .panics payload => .error (.string (panicMessage payload))
  | .ok (), .runs (some payload) => .error (.string (panicMessage payload))
  | .ok (), .runs none => function

section Blocking

variable {activity : Except String Unit} {host : HostBlocking}
variable {function : Except Payload α} {more : List (Nat × Buffer)}
variable {made : Except Payload α} {text : String} {status : Status}

theorem spec_blockInPlace_then {stored : Option (Except Payload α)}
    {call : Program CallResult}
    (makes : Spec more call (CallResult.Makes status text.toUTF8 more))
    (takes : ∀ result own, result.Tells status text.toUTF8 own →
      Spec (own ++ more) (takeBlocking result stored) fun result left =>
        result = made ∧ left = more) :
    Spec more (do
      let result ← nounwind call
      takeBlocking result stored) fun result left =>
        result = made ∧ left = more := by
  refine .bind (CallResult.Makes.nounwind makes) ?_ ?_
  · rintro result left ⟨_, own, same, tells, rfl⟩
    cases same
    exact takes result own tells
  · rintro payload left ⟨_, _, failed, -⟩
    cases failed

theorem spec_takeBlocking_text {result : CallResult}
    {own : List (Nat × Buffer)} {stored : Option (Except Payload α)}
    (tells : result.Tells status text.toUTF8 own)
    (failed : status = .error ∨ status = .hostPanicked) :
    Spec (own ++ more) (takeBlocking result stored) fun result left =>
      result = .error (.string text) ∧ left = more := by
  obtain ⟨rfl, holds⟩ := tells
  have decoded := OwnedBytes.textOf_toUTF8 text
  unfold takeBlocking
  rcases failed with failed | failed
  · rw [failed]
    exact spec_string_then holds (.unwind ⟨by rw [decoded], rfl⟩)
  · rw [failed]
    exact spec_string_then holds (.unwind ⟨by rw [decoded], rfl⟩)

/-- A status that comes back as the guest gave it fits what is stored. -/
theorem spec_takeBlocking_run {result : CallResult}
    {own : List (Nat × Buffer)}
    (tells : result.Tells (BlockingState.run ⟨some function, none⟩).1
      "".toUTF8 own) :
    Spec (own ++ more) (takeBlocking result
      (BlockingState.run ⟨some function, none⟩).2.result)
        fun result left => result = function ∧ left = more := by
  obtain ⟨status, holds⟩ := tells
  unfold takeBlocking
  rw [status]
  cases function with
  | ok output => exact spec_release_then holds (.pure ⟨rfl, rfl⟩)
  | error payload => exact spec_release_then holds (.unwind ⟨rfl, rfl⟩)

/-- `exit_runtime` ends with what its function returns or panics with, or with
the message of the host; and every buffer is freed once by its own
allocator. -/
theorem exitRuntime_delivers (activity : Except String Unit)
    (host : HostBlocking) (function : Except Payload α)
    (more : List (Nat × Buffer)) :
    Spec more (exitRuntime activity host function) fun result left =>
      result = blockingExpected activity host function ∧ left = more := by
  cases activity with
  | error error =>
      exact spec_blockInPlace_then CallResult.spec_error
        fun result own tells => spec_takeBlocking_text tells (Or.inl rfl)
  | ok value =>
      cases host with
      | panics payload =>
          exact spec_blockInPlace_then CallResult.spec_hostPanic
            fun result own tells => spec_takeBlocking_text tells (Or.inr rfl)
      | runs after =>
          cases after with
          | some payload =>
              exact spec_blockInPlace_then CallResult.spec_hostPanic
                fun result own tells =>
                  spec_takeBlocking_text tells (Or.inr rfl)
          | none =>
              refine @spec_blockInPlace_then _ _ _ "" _ _ _ (.pure
                ⟨_, [], rfl, ⟨rfl, OwnedBytes.holds_empty⟩, rfl⟩)
                fun result own tells => ?_
              exact spec_takeBlocking_run tells

end Blocking

/-- `GuestCallState`; the call is what it comes to. -/
structure GuestCallState (α : Type) where
  call : Option (Except Payload α)
  output : Option α

def calledTwice : Payload :=
  .string "Telekio guest call ran twice"

/-- `run_guest_call`, which is of the host. -/
def GuestCallState.run (state : GuestCallState α) :
    Program CallResult × GuestCallState α :=
  match state.call with
  | none => (CallResult.panicked .host calledTwice, state)
  | some (.ok output) => (pure (CallResult.ok .host), ⟨none, some output⟩)
  | some (.error payload) =>
      (CallResult.panicked .host payload, ⟨none, state.output⟩)

/-- `enter_guest_context`, whose entry may panic. What it does after the call
cannot. -/
def enterGuestContext (guest : Nat) (entry : Except Payload Unit)
    (state : GuestCallState α) : Program CallResult × GuestCallState α :=
  match entry with
  | .error payload => (CallResult.panicked (.guest guest) payload, state)
  | .ok () => state.run

def enterContext : String :=
  "failed to enter Telekio guest runtime"

def didNotRun : Payload :=
  .string "Telekio guest call did not run"

variable (debug : Error → String)

/-- `Attachment::enter`. -/
def enter (guest : Nat) (attached : Bool) (activity : Except String Unit)
    (entry : Except Payload Unit) (call : Except Payload α) : Program α :=
  if attached then
    match activity with
    | .error error => unwind (.string error)
    | .ok () => do
        let (called, state) :=
          enterGuestContext guest entry ⟨some call, none⟩
        let result ← nounwind called
        result.resume debug enterContext
        match state.output with
        | some output => pure output
        | none => unwind didNotRun
  else
    unwind (.string "Telekio attachment is detached")

/-- What `enter` comes to: a panic of the closure comes back with its message
only. -/
def enterExpected (attached : Bool) (activity : Except String Unit)
    (entry : Except Payload Unit) (call : Except Payload α) :
    Except Payload α :=
  if attached then
    match activity, entry, call with
    | .error error, _, _ => .error (.string error)
    | .ok (), .error payload, _ => .error (.string (panicMessage payload))
    | .ok (), .ok (), .error payload =>
        .error (.string (panicMessage payload))
    | .ok (), .ok (), .ok output => .ok output
  else
    .error (.string "Telekio attachment is detached")

section Enter

variable {more : List (Nat × Buffer)} {debug}

theorem spec_resume_then {status : Status} {text : String}
    {called : Program CallResult} {next : Program α}
    {made : Except Payload α}
    (makes : Spec more called (CallResult.Makes status text.toUTF8 more))
    (follows : Follows (fun _ => next) made more
      (CallResult.resumed debug enterContext
        (ended (CallResult.said status text.toUTF8).intoIoResult))) :
    Spec more (do
      let result ← nounwind called
      result.resume debug enterContext
      next) fun result left => result = made ∧ left = more := by
  refine .bind (CallResult.Makes.nounwind makes) ?_ ?_
  · rintro result left ⟨_, own, same, tells, rfl⟩
    cases same
    exact spec_then (CallResult.spec_resume tells) follows
  · rintro payload left ⟨_, _, failed, -⟩
    cases failed

/-- A panicked result unwinds with its message. -/
theorem resumed_panicked {text : String} :
    CallResult.resumed debug enterContext
      (ended (CallResult.said .panicked text.toUTF8).intoIoResult) =
        .error (.string text) := by
  rw [CallResult.said_toUTF8]
  rfl

/-- `enter` ends with what its closure returns, or with the message of a panic
of the closure or of the entry of the guest; and every buffer is freed once by
its own allocator, of whichever artifact it is. -/
theorem enter_delivers (debug : Error → String) (guest : Nat)
    (attached : Bool) (activity : Except String Unit)
    (entry : Except Payload Unit) (call : Except Payload α)
    (more : List (Nat × Buffer)) :
    Spec more (enter debug guest attached activity entry call)
      fun result left =>
        result = enterExpected attached activity entry call ∧
          left = more := by
  unfold enter enterExpected
  split
  · cases activity with
    | error error => exact .unwind ⟨rfl, rfl⟩
    | ok value =>
        cases entry with
        | error payload =>
            refine spec_resume_then CallResult.spec_panicked ?_
            rw [resumed_panicked]
            exact follows_error
        | ok entered =>
            cases call with
            | ok output =>
                refine @spec_resume_then _ _ _ .ok "" _ _ _ (.pure
                  ⟨_, [], rfl, ⟨rfl, OwnedBytes.holds_empty⟩, rfl⟩) ?_
                exact follows_ok (.pure ⟨rfl, rfl⟩)
            | error payload =>
                refine spec_resume_then CallResult.spec_panicked ?_
                rw [resumed_panicked]
                exact follows_error
  · exact .unwind ⟨rfl, rfl⟩

end Enter

end Telekio.Abi
