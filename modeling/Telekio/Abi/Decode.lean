import Mathlib.Logic.Relation
import Telekio.Abi.BlockOn

/-!
# Polls across the ABI

What the host makes of a poll, and how a guest decodes it: `Signal::poll_recv`
of `telekio-abi/src/signal.rs`, `poll_result` of `telekio-abi/src/time.rs`,
`DumpOperation::poll` of `telekio-abi/src/runtime/dump.rs`,
`IoOperation::poll` of `telekio-abi/src/io.rs` and `poll_host_ready` of
`guest/runtime/io/registration.rs`. Answers may be decoded in any order.
-/

namespace Telekio.Abi

open Telekio.Crossing (Artifact)
open Telekio.Ledger
open Telekio.Readiness (Error IoError Platform Status)

/-- What a poll in the host comes to. -/
inductive HostOutcome where
  | pending
  | ready (bytes : ByteArray)
  | failed (error : Error)
  | panicked (payload : Payload)

/-- `OperationPoll` and `IoPoll`; only the latter has an error. -/
structure Answer where
  state : PollState
  call : CallResult
  error : IoError

variable (platform : Platform)

def answerOf (state : PollState) (error : IoError)
    (program : Program CallResult) : Program Answer := do
  let call ← program
  pure ⟨state, call, error⟩

def readyCall (bytes : ByteArray) : Program CallResult := do
  let payload ← OwnedBytes.fromVec .host bytes
  pure ⟨.ok, payload⟩

/-- The polls of the host, which catch a panic. -/
def hostPoll : HostOutcome → Program Answer
  | .pending => answerOf .pending .none (pure (CallResult.ok .host))
  | .ready bytes => answerOf .ready .none (readyCall bytes)
  | .failed error =>
      answerOf .ready (.fromError platform error)
        (CallResult.error .host (error.toString platform))
  | .panicked payload =>
      answerOf .panicked .none (CallResult.hostPanic payload)

inductive Decoder where
  | signal
  | timer
  | dump
  | operation
  | registration
deriving DecidableEq, Repr

/-- What a poll of the guest returns. -/
inductive Reply where
  | pending
  | ready (bytes : ByteArray)
  | failed (error : Error)

/-- `IoError::into_io_result`. -/
def intoIoResultWith (error : IoError) (call : CallResult) :
    Program (Except Error Unit) :=
  if call.status ≠ .error then
    call.intoIoResult
  else if error.hasRaw then do
    call.payload.release_
    pure (.error (.os error.raw))
  else do
    let text ← call.payload.intoString
    pure (.error (.custom error.kind.kind text))

variable (debug : Error → String)

/-- `Result::unwrap`, then `unreachable!`. -/
def unwrapUnreachable : Except Error Unit → Program Reply
  | .ok () =>
      unwind (.str "internal error: entered unreachable code")
  | .error error => unwind (.string
      ("called `Result::unwrap()` on an `Err` value: " ++ debug error))

def ignorePending (call : CallResult) : Program Reply := do
  call.payload.release_
  pure .pending

def replyOf : Except Error Unit → Reply
  | .ok () => .ready ByteArray.empty
  | .error error => .failed error

def signalFailed : String :=
  "host signal failed"

/-- `Signal::poll_recv`. -/
def pollRecv (answer : Answer) : Program Reply :=
  match answer.state with
  | .pending => ignorePending answer.call
  | .ready => do
      answer.call.resume debug signalFailed
      pure (.ready ByteArray.empty)
  | .panicked => do
      let done ← answer.call.intoIoResult
      unwrapUnreachable debug done

def timeFailed : String :=
  "host Tokio time operation failed"

def invalidPoll : Payload :=
  .str "host Tokio time operation returned an invalid poll result"

/-- `poll_result` of a timer, which frees nothing in its last branch. -/
def pollResult (answer : Answer) : Program Reply :=
  match answer.state with
  | .pending => ignorePending answer.call
  | .ready => do
      answer.call.resume debug timeFailed
      pure (.ready ByteArray.empty)
  | .panicked =>
      match answer.call.status with
      | .hostPanicked => do
          let done ← answer.call.intoIoResult
          unwrapUnreachable debug done
      | .panicked => do
          let done ← answer.call.intoIoResult
          unwrapUnreachable debug done
      | _ => unwind invalidPoll

def dumpFailed : String :=
  "failed to poll Tokio runtime dump"

/-- `resume`, then `unreachable!`. -/
def resumeUnreachable (context : String) (call : CallResult) :
    Program Reply := do
  call.resume debug context
  unwind (.str "internal error: entered unreachable code")

/-- `DumpOperation::poll`. -/
def pollDump (answer : Answer) : Program Reply :=
  match answer.state with
  | .pending => do
      answer.call.resume debug dumpFailed
      pure .pending
  | .ready =>
      match answer.call.status with
      | .ok => do
          let bytes ← answer.call.payload.intoVec
          pure (.ready bytes)
      | _ => resumeUnreachable debug dumpFailed answer.call
  | .panicked =>
      resumeUnreachable debug "Tokio runtime dump panicked" answer.call

/-- `IoOperation::poll`. -/
def pollOperation (answer : Answer) : Program Reply :=
  match answer.state with
  | .pending => ignorePending answer.call
  | .ready => do
      let done ← intoIoResultWith answer.error answer.call
      pure (replyOf done)
  | .panicked => do
      let done ← intoIoResultWith answer.error answer.call
      unwrapUnreachable debug done

/-- What follows `?` in a poll that has panicked. -/
def failedOrUnreachable : Except Error Unit → Program Reply
  | .ok () => unwind (.str "internal error: entered unreachable code")
  | .error error => pure (.failed error)

/-- `poll_host_ready`, up to the readiness. -/
def pollHostReady (answer : Answer) : Program Reply :=
  match answer.state with
  | .pending => ignorePending answer.call
  | .ready => do
      let done ← answer.call.intoIoResult
      pure (replyOf done)
  | .panicked => do
      let done ← answer.call.intoIoResult
      failedOrUnreachable done

def decode : Decoder → Answer → Program Reply
  | .signal, answer => pollRecv debug answer
  | .timer, answer => pollResult debug answer
  | .dump, answer => pollDump debug answer
  | .operation, answer => pollOperation debug answer
  | .registration, answer => pollHostReady answer

/-- What an error of the host becomes. Only an `IoOperation` has its code or
kind. -/
def receivedError (error : Error) : Decoder → Except Payload Reply
  | .signal => .error (.string (signalFailed ++ ": " ++
      debug (.other (error.toString platform))))
  | .timer => .error (.string (timeFailed ++ ": " ++
      debug (.other (error.toString platform))))
  | .dump => .error (.string (dumpFailed ++ ": " ++
      debug (.other (error.toString platform))))
  | .operation => .ok (.failed error.decoded)
  | .registration => .ok (.failed (.other (error.toString platform)))

/-- What a guest receives of a poll. -/
def received (decoder : Decoder) : HostOutcome → Except Payload Reply
  | .pending => .ok .pending
  | .ready bytes =>
      .ok (.ready (if decoder = .dump then bytes else ByteArray.empty))
  | .failed error => receivedError platform debug error decoder
  | .panicked payload => .error (.string (panicMessage payload))

/-- The state, the status, the contents and the error of the answer to a
poll. -/
def HostOutcome.state : HostOutcome → PollState
  | .pending => .pending
  | .ready _ => .ready
  | .failed _ => .ready
  | .panicked _ => .panicked

def HostOutcome.status : HostOutcome → Status
  | .failed _ => .error
  | .panicked _ => .hostPanicked
  | _ => .ok

def HostOutcome.contents (platform : Platform) : HostOutcome → ByteArray
  | .pending => ByteArray.empty
  | .ready bytes => bytes
  | .failed error => (error.toString platform).toUTF8
  | .panicked payload => (panicMessage payload).toUTF8

def HostOutcome.error (platform : Platform) : HostOutcome → IoError
  | .failed error => .fromError platform error
  | _ => .none

/-- An answer that tells an outcome, with what it owns. -/
structure Answers (platform : Platform) (outcome : HostOutcome)
    (answer : Answer) (owned : List (Nat × Buffer)) : Prop where
  state : answer.state = outcome.state
  tells : answer.call.Tells outcome.status (outcome.contents platform) owned
  error : answer.error = outcome.error platform

section Answers

variable {platform} {debug} {outcome : HostOutcome} {answer : Answer}
variable {owned more : List (Nat × Buffer)} {status : Status}
variable {contents : ByteArray} {call : CallResult}

theorem spec_answerOf {state : PollState} {error : IoError}
    {program : Program CallResult}
    (makes : Spec more program (CallResult.Makes status contents more)) :
    Spec more (answerOf state error program) fun made left =>
      ∃ answer own, made = .ok answer ∧ (answer.state = state ∧
        answer.call.Tells status contents own ∧ answer.error = error) ∧
          left = own ++ more := by
  refine .bind makes ?_ ?_
  · rintro made left ⟨call, own, same, tells, rfl⟩
    cases same
    exact .pure ⟨_, own, rfl, ⟨rfl, tells, rfl⟩, rfl⟩
  · rintro payload left ⟨_, _, failed, -⟩
    cases failed

theorem spec_readyCall :
    Spec more (readyCall contents)
      (CallResult.Makes .ok contents more) := by
  refine .bind OwnedBytes.spec_fromVec ?_ ?_
  · rintro payload left ⟨bytes, own, same, holds, rfl⟩
    cases same
    exact .pure ⟨_, own, rfl, ⟨rfl, holds⟩, rfl⟩
  · rintro payload left ⟨_, _, failed, -⟩
    cases failed

theorem spec_hostPoll :
    Spec more (hostPoll platform outcome) fun made left =>
      ∃ answer, made = .ok answer ∧ ∃ own,
        Answers platform outcome answer own ∧ left = own ++ more := by
  have makes : ∃ program, hostPoll platform outcome =
        answerOf outcome.state (outcome.error platform) program ∧
      Spec more program (CallResult.Makes outcome.status
        (outcome.contents platform) more) := by
    cases outcome with
    | pending =>
        exact ⟨_, rfl, .pure ⟨_, [], rfl, CallResult.tells_ok, rfl⟩⟩
    | ready bytes => exact ⟨_, rfl, spec_readyCall⟩
    | failed error => exact ⟨_, rfl, CallResult.spec_error⟩
    | panicked payload => exact ⟨_, rfl, CallResult.spec_hostPanic⟩
  obtain ⟨program, same, spec⟩ := makes
  rw [same]
  refine (spec_answerOf spec).consequence ?_
  rintro made left ⟨answer, own, same, ⟨state, tells, error⟩, rfl⟩
  exact ⟨answer, same, own, ⟨state, tells, error⟩, rfl⟩

theorem spec_ignorePending (tells : call.Tells status contents owned) :
    Spec (owned ++ more) (ignorePending call) fun made left =>
      made = .ok .pending ∧ left = more := by
  refine .bind (OwnedBytes.spec_release tells.2) ?_ ?_
  · rintro _ left ⟨-, rfl⟩
    exact follows_ok (.pure ⟨rfl, rfl⟩)
  · rintro payload left ⟨failed, -⟩
    cases failed

theorem spec_intoIoResultWith {error : IoError}
    (tells : call.Tells status contents owned) :
    Spec (owned ++ more) (intoIoResultWith error call) fun made left =>
      made = ended (error.intoIoResult (CallResult.said status contents)) ∧
        left = more := by
  obtain ⟨rfl, holds⟩ := tells
  by_cases failed : call.status = .error
  · cases raw : error.hasRaw with
    | true =>
        simp only [intoIoResultWith, IoError.intoIoResult, CallResult.said,
          failed, raw, ne_eq, not_true_eq_false, if_true, if_false]
        refine .bind (OwnedBytes.spec_release holds) ?_ ?_
        · rintro _ left ⟨-, rfl⟩
          exact follows_ok (.pure ⟨rfl, rfl⟩)
        · rintro payload left ⟨failed, -⟩
          cases failed
    | false =>
        simp only [intoIoResultWith, IoError.intoIoResult, CallResult.said,
          failed, raw, ne_eq, not_true_eq_false, if_false,
          Bool.false_eq_true]
        refine .bind (OwnedBytes.spec_intoString holds) ?_ ?_
        · rintro text left ⟨same, rfl⟩
          cases same
          exact follows_ok (.pure ⟨rfl, rfl⟩)
        · rintro payload left ⟨failed, -⟩
          cases failed
  · simp only [intoIoResultWith, IoError.intoIoResult, CallResult.said,
      failed, ne_eq, not_false_eq_true, if_true]
    exact CallResult.spec_intoIoResult ⟨rfl, holds⟩

/-! ## The decoders -/

section Decoders

variable (answers : Answers platform outcome answer owned)
include answers

theorem spec_pollRecv : Spec (owned ++ more) (pollRecv debug answer)
    fun made left => made = received platform debug .signal outcome ∧
      left = more := by
  obtain ⟨state, tells, -⟩ := answers
  unfold pollRecv
  rw [state]
  cases outcome with
  | pending => exact spec_ignorePending tells
  | ready bytes =>
      refine spec_then (CallResult.spec_resume tells) ?_
      exact follows_ok (.pure ⟨rfl, rfl⟩)
  | failed error =>
      refine spec_then (CallResult.spec_resume tells) ?_
      exact congrArg Except.error (by
        rw [HostOutcome.contents, CallResult.said_toUTF8])
  | panicked payload =>
      refine spec_then (CallResult.spec_intoIoResult tells) ?_
      exact congrArg Except.error (by
        rw [HostOutcome.contents, CallResult.said_toUTF8])

theorem spec_pollResult : Spec (owned ++ more) (pollResult debug answer)
    fun made left => made = received platform debug .timer outcome ∧
      left = more := by
  obtain ⟨state, tells, -⟩ := answers
  unfold pollResult
  rw [state, tells.1]
  cases outcome with
  | pending => exact spec_ignorePending tells
  | ready bytes =>
      refine spec_then (CallResult.spec_resume tells) ?_
      exact follows_ok (.pure ⟨rfl, rfl⟩)
  | failed error =>
      refine spec_then (CallResult.spec_resume tells) ?_
      exact congrArg Except.error (by
        rw [HostOutcome.contents, CallResult.said_toUTF8])
  | panicked payload =>
      refine spec_then (CallResult.spec_intoIoResult tells) ?_
      exact congrArg Except.error (by
        rw [HostOutcome.contents, CallResult.said_toUTF8])

theorem spec_pollDump : Spec (owned ++ more) (pollDump debug answer)
    fun made left => made = received platform debug .dump outcome ∧
      left = more := by
  obtain ⟨state, tells, -⟩ := answers
  unfold pollDump
  rw [state, tells.1]
  cases outcome with
  | pending =>
      refine spec_then (CallResult.spec_resume tells) ?_
      exact follows_ok (.pure ⟨rfl, rfl⟩)
  | ready bytes =>
      refine spec_then (OwnedBytes.spec_intoVec tells.2) ?_
      exact follows_ok (.pure ⟨rfl, rfl⟩)
  | failed error =>
      refine spec_then (CallResult.spec_resume tells) ?_
      exact congrArg Except.error (by
        rw [HostOutcome.contents, CallResult.said_toUTF8])
  | panicked payload =>
      refine spec_then (CallResult.spec_resume tells) ?_
      exact congrArg Except.error (by
        rw [HostOutcome.contents, CallResult.said_toUTF8])

theorem spec_pollOperation :
    Spec (owned ++ more) (pollOperation debug answer)
      fun made left => made = received platform debug .operation outcome ∧
        left = more := by
  obtain ⟨state, tells, errors⟩ := answers
  unfold pollOperation
  rw [state, errors]
  cases outcome with
  | pending => exact spec_ignorePending tells
  | ready bytes =>
      refine spec_then (spec_intoIoResultWith tells) ?_
      exact follows_ok (.pure ⟨rfl, rfl⟩)
  | failed error =>
      refine spec_then (spec_intoIoResultWith tells) ?_
      have decoded := Readiness.intoIoResult_fromError platform error
      rw [Readiness.CallResult.error] at decoded
      rw [HostOutcome.contents, HostOutcome.error, HostOutcome.status,
        CallResult.said_toUTF8, decoded]
      exact follows_ok (.pure ⟨rfl, rfl⟩)
  | panicked payload =>
      refine spec_then (spec_intoIoResultWith tells) ?_
      exact congrArg Except.error (by
        rw [HostOutcome.contents, CallResult.said_toUTF8])

theorem spec_pollHostReady :
    Spec (owned ++ more) (pollHostReady answer)
      fun made left => made = received platform debug .registration outcome ∧
        left = more := by
  obtain ⟨state, tells, -⟩ := answers
  unfold pollHostReady
  rw [state]
  cases outcome with
  | pending => exact spec_ignorePending tells
  | ready bytes =>
      refine spec_then (CallResult.spec_intoIoResult tells) ?_
      exact follows_ok (.pure ⟨rfl, rfl⟩)
  | failed error =>
      refine spec_then (CallResult.spec_intoIoResult tells) ?_
      refine follows_ok (.pure ⟨?_, rfl⟩)
      rw [HostOutcome.contents, CallResult.said_toUTF8]
      rfl
  | panicked payload =>
      refine spec_then (CallResult.spec_intoIoResult tells) ?_
      exact congrArg Except.error (by
        rw [HostOutcome.contents, CallResult.said_toUTF8])

/-- A decoder receives what the poll came to, and frees the buffer of the
answer. -/
theorem spec_decode (decoder : Decoder) :
    Spec (owned ++ more) (decode debug decoder answer)
      fun made left => made = received platform debug decoder outcome ∧
        left = more := by
  cases decoder with
  | signal => exact spec_pollRecv answers
  | timer => exact spec_pollResult answers
  | dump => exact spec_pollDump answers
  | operation => exact spec_pollOperation answers
  | registration => exact spec_pollHostReady answers

end Decoders

end Answers

/-- The buffers, and the answers that are not decoded yet, each with the
outcome that it is from. -/
structure Traffic where
  heap : Heap Buffer
  answers : List (HostOutcome × Answer)

def Traffic.start : Traffic :=
  ⟨.empty, []⟩

/-- The host makes an answer, without unwinding; or a guest decodes one of
those that are not decoded yet. -/
inductive Traffic.Steps : Traffic → Traffic → Prop where
  | polls {traffic : Traffic} {outcome : HostOutcome} {answer : Answer}
      {heap : Heap Buffer}
      (did : nounwind (hostPoll platform outcome) traffic.heap =
        .ok answer heap) :
      Traffic.Steps traffic ⟨heap, (outcome, answer) :: traffic.answers⟩
  | decodes {traffic : Traffic} {before after : List (HostOutcome × Answer)}
      {outcome : HostOutcome} {answer : Answer} {decoder : Decoder}
      {reply : Except Payload Reply} {heap : Heap Buffer}
      (split : traffic.answers = before ++ (outcome, answer) :: after)
      (did : catchUnwind (decode debug decoder answer) traffic.heap =
        .ok reply heap) :
      Traffic.Steps traffic ⟨heap, before ++ after⟩

/-- An answer with its outcome and what it owns. -/
structure Account where
  outcome : HostOutcome
  answer : Answer
  owned : List (Nat × Buffer)

def Account.pair (account : Account) : HostOutcome × Answer :=
  (account.outcome, account.answer)

/-- Each buffer is owned by one of the answers. -/
structure Accounted (traffic : Traffic) (accounts : List Account) :
    Prop where
  answers : traffic.answers = accounts.map Account.pair
  tells : ∀ account ∈ accounts,
    Answers platform account.outcome account.answer account.owned
  owned : traffic.heap.cells.Perm (accounts.flatMap Account.owned)

section Runs

variable {platform} {debug} {traffic next : Traffic}
variable {accounts : List Account}

theorem Accounted.polls (accounted : Accounted platform traffic accounts)
    (outcome : HostOutcome) :
    ∃ account heap, account.outcome = outcome ∧
      nounwind (hostPoll platform outcome) traffic.heap =
        .ok account.answer heap ∧
      Accounted platform ⟨heap, account.pair :: traffic.answers⟩
        (account :: accounts) := by
  have ran := (@spec_hostPoll platform outcome
    (accounts.flatMap Account.owned)).nounwind traffic.heap []
      (by rw [List.append_nil]; exact accounted.owned)
  revert ran
  cases made : nounwind (hostPoll platform outcome) traffic.heap with
  | ok answer heap =>
      rintro ⟨left, ⟨_, same, own, answers, rfl⟩, perm⟩
      cases same
      refine ⟨⟨outcome, answer, own⟩, heap, rfl, rfl, ?_, ?_, ?_⟩
      · exact congrArg _ accounted.answers
      · exact List.forall_mem_cons.mpr ⟨answers, accounted.tells⟩
      · rw [List.append_nil] at perm
        exact perm
  | error stop heap =>
      cases stop with
      | unwind payload =>
          rintro ⟨left, ⟨_, failed, -⟩, -⟩
          cases failed
      | stuck => exact False.elim

theorem Accounted.decodes {before after : List (HostOutcome × Answer)}
    {outcome : HostOutcome} {answer : Answer}
    (accounted : Accounted platform traffic accounts) (decoder : Decoder)
    (split : traffic.answers = before ++ (outcome, answer) :: after) :
    ∃ heap rest, catchUnwind (decode debug decoder answer) traffic.heap =
        .ok (received platform debug decoder outcome) heap ∧
      Accounted platform ⟨heap, before ++ after⟩ rest := by
  obtain ⟨first, later, rfl, rfl, others⟩ :=
    List.map_eq_append_iff.mp (accounted.answers.symm.trans split)
  obtain ⟨account, last, rfl, same, rfl⟩ := List.map_eq_cons_iff.mp others
  cases same
  have tells := accounted.tells account (by simp)
  have perm : traffic.heap.cells.Perm
      ((account.owned ++ (first ++ last).flatMap Account.owned) ++ []) := by
    refine accounted.owned.trans ?_
    rw [List.append_nil, List.flatMap_append, List.flatMap_cons,
      List.flatMap_append, ← List.append_assoc, ← List.append_assoc]
    exact List.perm_append_comm.append_right _
  have ran := (@spec_decode platform debug _ _ _
    ((first ++ last).flatMap Account.owned) tells decoder).catchUnwind
      traffic.heap [] perm
  revert ran
  cases made : catchUnwind (decode debug decoder account.answer)
      traffic.heap with
  | ok reply heap =>
      rintro ⟨left, ⟨_, same, rfl, rfl⟩, perm⟩
      cases same
      refine ⟨heap, first ++ last, rfl, ?_, ?_, ?_⟩
      · exact List.map_append.symm
      · intro other member
        refine accounted.tells other ?_
        rcases List.mem_append.mp member with early | late
        · exact List.mem_append_left _ early
        · exact List.mem_append_right _ (List.mem_cons_of_mem _ late)
      · rw [List.append_nil] at perm
        exact perm
  | error stop heap =>
      cases stop with
      | unwind payload =>
          rintro ⟨left, ⟨_, failed, -⟩, -⟩
          cases failed
      | stuck => exact False.elim

theorem Accounted.step (accounted : Accounted platform traffic accounts)
    (steps : Traffic.Steps platform debug traffic next) :
    ∃ accounts, Accounted platform next accounts := by
  cases steps with
  | polls did =>
      obtain ⟨account, heap, same, made, further⟩ :=
        accounted.polls _
      rw [did] at made
      cases made
      cases same
      exact ⟨_, further⟩
  | decodes split did =>
      obtain ⟨heap, rest, made, further⟩ :=
        @Accounted.decodes platform debug _ _ _ _ _ _ accounted _ split
      rw [did] at made
      cases made
      exact ⟨rest, further⟩

theorem accounted_start : Accounted platform .start [] where
  answers := rfl
  tells := fun _ member => by cases member
  owned := List.Perm.nil

theorem exists_accounted
    (reaches : Relation.ReflTransGen (Traffic.Steps platform debug)
      .start traffic) : ∃ accounts, Accounted platform traffic accounts := by
  induction reaches with
  | refl => exact ⟨[], accounted_start⟩
  | tail _ steps ih =>
      obtain ⟨accounts, accounted⟩ := ih
      exact accounted.step steps

/-- In every run of polls and decodings in any order: if all answers are
decoded, no buffer is left; a poll of the host does not unwind; and each
decoder receives what the poll came to, and is not stuck. -/
theorem traffic_accounted
    (reaches : Relation.ReflTransGen (Traffic.Steps platform debug)
      .start traffic) :
    (traffic.answers = [] → traffic.heap.cells = []) ∧
    (∀ outcome, ∃ answer heap,
      nounwind (hostPoll platform outcome) traffic.heap =
        .ok answer heap) ∧
    ∀ decoder before outcome answer after,
      traffic.answers = before ++ (outcome, answer) :: after →
        ∃ heap, catchUnwind (decode debug decoder answer) traffic.heap =
          .ok (received platform debug decoder outcome) heap := by
  obtain ⟨accounts, accounted⟩ := exists_accounted reaches
  refine ⟨?_, ?_, ?_⟩
  · intro empty
    have empty : accounts = [] :=
      List.map_eq_nil_iff.mp (accounted.answers.symm.trans empty)
    have owned := accounted.owned
    rw [empty] at owned
    exact owned.eq_nil
  · intro outcome
    obtain ⟨account, heap, -, made, -⟩ := accounted.polls outcome
    exact ⟨_, heap, made⟩
  · intro decoder before outcome answer after split
    obtain ⟨heap, _, made, -⟩ := accounted.decodes decoder split
    exact ⟨heap, made⟩

end Runs

/-- The message of a panic of the host, as a timer receives it. -/
theorem traffic_accounted_timer :
    ∃ answer heap after,
      nounwind (hostPoll ⟨fun _ => .other, fun _ => "", fun _ => ""⟩
        (.panicked (.str "late"))) Heap.empty = .ok answer heap ∧
      catchUnwind (decode (fun _ => "") .timer answer) heap =
        .ok (.error (.string "late")) after := by
  obtain ⟨answer, heap, made⟩ := (traffic_accounted (.refl :
    Relation.ReflTransGen (Traffic.Steps
      ⟨fun _ => .other, fun _ => "", fun _ => ""⟩ fun _ => "")
      .start .start)).2.1 (.panicked (.str "late"))
  obtain ⟨after, decoded⟩ := (traffic_accounted (.tail .refl
    (.polls made))).2.2 .timer [] _ _ [] rfl
  exact ⟨answer, heap, after, made, decoded⟩

end Telekio.Abi
