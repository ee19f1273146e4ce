import Telekio.Abi.Result

/-!
# `block_on` across the ABI

`block_on` and `poll_future` of `telekio-abi/src/runtime/mod.rs` with the
host's `handle_block_on`, `runtime_block_on`, `block_on_result` and
`GuestFuture::poll`. A guest's future is polled by the runtime of the host;
its output or its panic stay in the guest, and the host returns a status.
-/

namespace Telekio.Abi

open Telekio.Crossing (Artifact)
open Telekio.Ledger
open Telekio.Readiness (Status)

inductive Polled (α : Type) where
  | pending
  | ready (output : α)
  | panicked (payload : Payload)

/-- A future with its states: what a poll comes to, and the payload of its
drop, if that panics. -/
structure RustFuture (σ α : Type) where
  poll : σ → Polled α × σ
  drop : σ → Option Payload

/-- How a call of the guest ends; a panic while another one unwinds aborts the
process. -/
inductive Ending (α : Type) where
  | returned (output : α)
  | unwound (payload : Payload)
  | aborted
deriving DecidableEq, Repr

variable {σ α : Type} (future : RustFuture σ α)

/-- A future is dropped where a call unwinds. -/
def unwinding (state : σ) (payload : Payload) : Ending α :=
  match future.drop state with
  | none => .unwound payload
  | some _ => .aborted

/-- A future is dropped where a call returns. -/
def returning (state : σ) (output : α) : Ending α :=
  match future.drop state with
  | none => .returned output
  | some payload => .unwound payload

/-- `block_on` of a runtime in the same artifact, for this many polls. -/
def localBlockOn : Nat → σ → Option (Ending α)
  | 0, _ => none
  | polls + 1, state =>
      match future.poll state with
      | (.pending, state) => localBlockOn polls state
      | (.ready output, state) => some (returning future state output)
      | (.panicked payload, state) => some (unwinding future state payload)

/-- `FutureState`. -/
structure FutureState (σ α : Type) where
  future : Option σ
  result : Option (Except Payload α)

/-- `Poll` of the ABI. -/
inductive PollState where
  | pending
  | ready
  | panicked
deriving DecidableEq, Repr

def completedPolled : Payload :=
  .string "completed future was polled"

/-- `poll_future`. A future that is ready is dropped inside the
`catch_unwind`. -/
def pollFuture (state : FutureState σ α) : PollState × FutureState σ α :=
  match state.future with
  | none =>
      (.panicked, { state with result := some (.error completedPolled) })
  | some inner =>
      match future.poll inner with
      | (.pending, inner) => (.pending, { state with future := some inner })
      | (.ready output, inner) =>
          match future.drop inner with
          | none => (.ready, ⟨none, some (.ok output)⟩)
          | some payload => (.panicked, ⟨none, some (.error payload)⟩)
      | (.panicked payload, inner) =>
          (.panicked, ⟨some inner, some (.error payload)⟩)

def operationFailed (text : String) : Payload :=
  .string ("host Tokio runtime operation failed: " ++ text)

def invalidResult : Payload :=
  .str "host Tokio runtime returned an invalid block_on result"

/-- The match of `block_on`. -/
def takeResult (result : CallResult) :
    Option (Except Payload α) → Program α
  | stored =>
      match result.status, stored with
      | .ok, some (.ok output) => do
          result.payload.release_
          pure output
      | .panicked, some (.error payload) => do
          result.payload.release_
          unwind payload
      | .hostPanicked, _ => do
          let text ← result.payload.intoString
          unwind (.string text)
      | .error, _ => do
          let text ← result.payload.intoString
          unwind (operationFailed text)
      | _, _ => do
          result.payload.release_
          unwind invalidResult

/-- The end of `block_on`: what is left of the future is dropped. -/
def leave : Except Payload α → Option σ → Ending α
  | .ok output, none => .returned output
  | .error payload, none => .unwound payload
  | .ok output, some state => returning future state output
  | .error payload, some state => unwinding future state payload

/-- What happens in a `block_on` of the host: its future is polled, while the
owner is open or not, or something in the runtime panics. -/
inductive HostTurn where
  | poll (open_ : Bool)
  | panic (payload : Payload)

/-- The host's runtime returns the output of its future, or panics still. -/
def settle (status : Status) : List HostTurn → Except Payload Status
  | .panic payload :: _ => .error payload
  | _ => .ok status

/-- `GuestFuture` in the `block_on` of the host: it is polled until it is
ready. -/
def hostRuns : List HostTurn → FutureState σ α →
    Option (Except Payload Status × FutureState σ α)
  | [], _ => none
  | .panic payload :: _, state => some (.error payload, state)
  | .poll false :: rest, state => some (settle .error rest, state)
  | .poll true :: rest, state =>
      match pollFuture future state with
      | (.pending, state) => hostRuns rest state
      | (.ready, state) => some (settle .ok rest, state)
      | (.panicked, state) => some (settle .panicked rest, state)

def shuttingDown : String :=
  "Tokio owner is shutting down"

def blockOnResult (status : Status) : Program CallResult :=
  match status with
  | .error => CallResult.error .host shuttingDown
  | status => pure { CallResult.ok .host with status := status }

/-- The end of `handle_block_on` and `runtime_block_on`. -/
def blockOnOutcome : Except Payload (Except String Status) →
    Program CallResult
  | .ok (.ok status) => blockOnResult status
  | .ok (.error error) => CallResult.error .host error
  | .error payload => CallResult.hostPanic payload

/-- Both, from the attempt to begin an activity on. -/
def hostBlockOn (activity : Except String Unit) (turns : List HostTurn)
    (state : FutureState σ α) :
    Option (Program CallResult × FutureState σ α) :=
  match activity with
  | .error error => some (blockOnOutcome (.ok (.error error)), state)
  | .ok () => (hostRuns future turns state).map fun (outcome, state) =>
      (blockOnOutcome (outcome.map .ok), state)

/-- `block_on`, if the host returns. -/
def blockOn (activity : Except String Unit) (turns : List HostTurn)
    (state : σ) : Option (Program (Ending α)) :=
  (hostBlockOn future activity turns ⟨some state, none⟩).map
    fun (call, state) => do
      let result ← nounwind call
      let made ← catchUnwind (takeResult result state.result)
      pure (leave future made state.future)

/-- A panic of the host, which takes the place of what the future left. -/
def overtaken (ending : Ending α) (state : Option σ) :
    List HostTurn → Ending α
  | .panic payload :: _ =>
      leave future (.error (.string (panicMessage payload))) state
  | _ => ending

/-- What `block_on` comes to, for every behaviour of the host. -/
def delivered : List HostTurn → σ → Option (Ending α)
  | [], _ => none
  | .panic payload :: _, state =>
      some (unwinding future state (.string (panicMessage payload)))
  | .poll false :: rest, state =>
      some (overtaken future (unwinding future state
        (operationFailed shuttingDown)) (some state) rest)
  | .poll true :: rest, state =>
      match future.poll state with
      | (.pending, state) => delivered rest state
      | (.ready output, state) =>
          some (overtaken future (returning future state output) none rest)
      | (.panicked payload, state) =>
          some (overtaken future (unwinding future state payload)
            (some state) rest)

/-- The same, from the attempt to begin an activity on. -/
def expected (activity : Except String Unit) (turns : List HostTurn)
    (state : σ) : Option (Ending α) :=
  match activity with
  | .error error => some (unwinding future state (operationFailed error))
  | .ok () => delivered future turns state

/-- A program ends in this way, frees what it allocates with the allocator it
is from, and is not stuck. -/
def Delivers (program : Option (Program (Ending α)))
    (ending : Option (Ending α)) : Prop :=
  match program, ending with
  | some program, some ending =>
      ∀ more, Spec more program fun result left =>
        result = .ok ending ∧ left = more
  | none, none => True
  | _, _ => False

/-! ## What the guest takes -/

section Taken

variable {future} {outcome : Except Payload (Except String Status)}
variable {stored : Option (Except Payload α)} {kept : Option σ}
variable {result : CallResult} {contents : ByteArray}
variable {owned more : List (Nat × Buffer)}

/-- What the match of `block_on` comes to for a result that says this. -/
def takenOf (status : Status) (text : String) :
    Option (Except Payload α) → Except Payload α
  | stored =>
      match status, stored with
      | .ok, some (.ok output) => .ok output
      | .panicked, some (.error payload) => .error payload
      | .hostPanicked, _ => .error (.string text)
      | .error, _ => .error (operationFailed text)
      | _, _ => .error invalidResult

theorem spec_release_then {made : Except Payload α} {next : Program α}
    (holds : result.payload.Holds contents owned)
    (rest : Spec more next fun result left => result = made ∧ left = more) :
    Spec (owned ++ more) (do result.payload.release_; next)
      fun result left => result = made ∧ left = more := by
  refine .bind (OwnedBytes.spec_release holds) ?_ ?_
  · rintro _ left ⟨-, rfl⟩
    exact rest
  · rintro payload left ⟨failed, -⟩
    cases failed

theorem spec_string_then {made : Except Payload α}
    {next : String → Program α}
    (holds : result.payload.Holds contents owned)
    (rest : Spec more (next (OwnedBytes.textOf contents))
      fun result left => result = made ∧ left = more) :
    Spec (owned ++ more) (do
      let text ← result.payload.intoString
      next text) fun result left => result = made ∧ left = more := by
  refine .bind (OwnedBytes.spec_intoString holds) ?_ ?_
  · rintro text left ⟨same, rfl⟩
    cases same
    exact rest
  · rintro payload left ⟨failed, -⟩
    cases failed

theorem spec_takeResult {status : Status}
    (tells : result.Tells status contents owned) :
    Spec (owned ++ more) (takeResult result stored) fun made left =>
      made = takenOf status (OwnedBytes.textOf contents) stored ∧
        left = more := by
  obtain ⟨rfl, holds⟩ := tells
  unfold takeResult takenOf
  cases result.status with
  | ok =>
      rcases stored with _ | payload | output
      · exact spec_release_then holds (.unwind ⟨rfl, rfl⟩)
      · exact spec_release_then holds (.unwind ⟨rfl, rfl⟩)
      · exact spec_release_then holds (.pure ⟨rfl, rfl⟩)
  | panicked =>
      rcases stored with _ | payload | output
      · exact spec_release_then holds (.unwind ⟨rfl, rfl⟩)
      · exact spec_release_then holds (.unwind ⟨rfl, rfl⟩)
      · exact spec_release_then holds (.unwind ⟨rfl, rfl⟩)
  | hostPanicked => exact spec_string_then holds (.unwind ⟨rfl, rfl⟩)
  | error => exact spec_string_then holds (.unwind ⟨rfl, rfl⟩)

/-- What the host's result says. -/
def outcomeStatus : Except Payload (Except String Status) → Status
  | .ok (.ok status) => status
  | .ok (.error _) => .error
  | .error _ => .hostPanicked

def outcomeText : Except Payload (Except String Status) → String
  | .ok (.ok .error) => shuttingDown
  | .ok (.ok _) => ""
  | .ok (.error error) => error
  | .error payload => panicMessage payload

theorem spec_blockOnOutcome :
    Spec more (blockOnOutcome outcome)
      (CallResult.Makes (outcomeStatus outcome)
        (outcomeText outcome).toUTF8 more) := by
  have plain : ∀ status : Status,
      Spec more (pure { CallResult.ok .host with status := status } :
        Program CallResult) (CallResult.Makes status "".toUTF8 more) :=
    fun status => .pure ⟨_, [], rfl, ⟨rfl, OwnedBytes.holds_empty⟩, rfl⟩
  rcases outcome with payload | error | status
  · exact CallResult.spec_hostPanic
  · exact CallResult.spec_error
  · cases status with
    | ok => exact plain _
    | panicked => exact plain _
    | hostPanicked => exact plain _
    | error => exact CallResult.spec_error

def taken (outcome : Except Payload (Except String Status))
    (stored : Option (Except Payload α)) : Except Payload α :=
  takenOf (outcomeStatus outcome) (outcomeText outcome) stored

theorem spec_ending :
    Spec more (do
      let result ← nounwind (blockOnOutcome outcome)
      let made ← catchUnwind (takeResult result stored)
      pure (leave future made kept)) fun result left =>
        result = .ok (leave future (taken outcome stored) kept) ∧
          left = more := by
  refine .bind (CallResult.Makes.nounwind spec_blockOnOutcome) ?_ ?_
  · rintro result left ⟨_, own, same, tells, rfl⟩
    cases same
    refine .bind (spec_takeResult tells).catchUnwind ?_ ?_
    · rintro made left ⟨_, same, rfl, rfl⟩
      cases same
      rw [OwnedBytes.textOf_toUTF8]
      exact .pure ⟨rfl, rfl⟩
    · rintro payload left ⟨_, failed, -⟩
      cases failed
  · rintro payload left ⟨_, _, failed, -⟩
    cases failed

end Taken

section Runs

variable {future} {turns : List HostTurn} {state : σ}

/-- How a run of the host and what it leaves of the guest's state end the
call. -/
def endingOf (run : Except Payload Status × FutureState σ α) : Ending α :=
  leave future (taken (run.1.map .ok) run.2.result) run.2.future

/-- What the host settles on is what is expected, unless it panics still. -/
theorem endingOf_settle {status : Status} {ending : Ending α}
    {stored : Option (Except Payload α)} {kept : Option σ}
    (settled : leave future
      (takenOf status (outcomeText (.ok (.ok status))) stored) kept =
        ending) :
    overtaken future ending kept turns =
      @endingOf _ _ future (settle status turns, ⟨kept, stored⟩) := by
  cases turns with
  | nil => exact settled.symm
  | cons turn rest =>
      cases turn with
      | poll open_ => exact settled.symm
      | panic payload => rfl

/-- The statuses of the host fit what the guest has stored. -/
theorem delivered_eq :
    delivered future turns state =
      (hostRuns future turns ⟨some state, none⟩).map
        (@endingOf _ _ future) := by
  induction turns generalizing state with
  | nil => rfl
  | cons turn rest ih =>
      cases turn with
      | panic payload => rfl
      | poll open_ =>
          cases open_ with
          | false =>
              exact congrArg some (endingOf_settle rfl)
          | true =>
              cases polled : future.poll state with
              | mk result next =>
                  cases result with
                  | pending =>
                      simp only [delivered, hostRuns, pollFuture, polled]
                      exact ih
                  | ready output =>
                      cases dropped : future.drop next with
                      | none =>
                          simp only [delivered, hostRuns, pollFuture, polled,
                            dropped, Option.map_some]
                          refine congrArg some (endingOf_settle ?_)
                          simp [takenOf, leave, returning, dropped]
                      | some payload =>
                          simp only [delivered, hostRuns, pollFuture, polled,
                            dropped, Option.map_some]
                          refine congrArg some (endingOf_settle ?_)
                          simp [takenOf, leave, returning, dropped]
                  | panicked payload =>
                      simp only [delivered, hostRuns, pollFuture, polled,
                        Option.map_some]
                      exact congrArg some (endingOf_settle rfl)

/-- A host that polls an open owner and does not panic. -/
theorem delivered_eq_localBlockOn
    (calm : ∀ turn ∈ turns, turn = .poll true) :
    delivered future turns state =
      localBlockOn future turns.length state := by
  induction turns generalizing state with
  | nil => rfl
  | cons turn rest ih =>
      obtain ⟨rfl, later⟩ := List.forall_mem_cons.mp calm
      have kept : ∀ ending kept, overtaken future ending kept rest =
          ending := by
        intro ending kept
        cases rest with
        | nil => rfl
        | cons next rest =>
            rw [(List.forall_mem_cons.mp later).1]
            rfl
      rw [delivered, List.length_cons, localBlockOn]
      cases future.poll state with
      | mk result next =>
          cases result with
          | pending => exact ih later
          | ready output => exact congrArg some (kept _ _)
          | panicked payload => exact congrArg some (kept _ _)

end Runs

/-- For every future of a guest and every behaviour of the host, `block_on`
ends as expected: with the output of the future or with its own panic; with a
panic that has the message of a panic of the host; or with an error of the
owner. No other result reaches it, a future that is complete is not polled,
nothing unwinds across the ABI, and every buffer is freed once by its own
allocator. A host that is not disturbed makes `block_on` what it is in one
artifact. -/
theorem blockOn_delivers (future : RustFuture σ α)
    (activity : Except String Unit) (turns : List HostTurn) (state : σ) :
    Delivers (blockOn future activity turns state)
        (expected future activity turns state) ∧
      (activity = .ok () → (∀ turn ∈ turns, turn = .poll true) →
        expected future activity turns state =
          localBlockOn future turns.length state) := by
  constructor
  · cases activity with
    | error error => exact fun more => spec_ending
    | ok value =>
        rw [expected, delivered_eq, blockOn, hostBlockOn]
        cases hostRuns future turns ⟨some state, none⟩ with
        | none => trivial
        | some run => exact fun more => spec_ending
  · rintro rfl calm
    exact delivered_eq_localBlockOn calm

end Telekio.Abi
