import Telekio.Crossing.State
import Telekio.Disk.Files
import Telekio.Ledger.Heap
import Telekio.Readiness.Errors

/-!
# Results and their buffers

`OwnedBytes` of `telekio-abi/src/abi/bytes.rs` and `CallResult` of
`telekio-abi/src/abi/mod.rs`, with the buffers that they own. A buffer has to
be freed by the artifact that allocated it.
-/

namespace Telekio.Abi

open Telekio.Crossing (Artifact)
open Telekio.Ledger
open Telekio.Readiness (Ended Error Status)

/-- What a panic carries: a `String`, a `&'static str`, or another value. -/
inductive Payload where
  | string (text : String)
  | str (text : String)
  | other (value : Nat)
deriving DecidableEq, Repr

/-- `panic_message`. -/
def panicMessage : Payload → String
  | .string text => text
  | .str text => text
  | .other _ => "Box<dyn Any>"

structure Buffer where
  allocator : Artifact
  bytes : ByteArray

abbrev Program (α : Type) :=
  Ledger.Program Payload Buffer α

/-- `release` names the artifact whose `release_bytes` it is. -/
structure OwnedBytes where
  data : Option Nat
  len : Nat
  release : Artifact
deriving DecidableEq, Repr

namespace OwnedBytes

def empty (artifact : Artifact) : OwnedBytes :=
  ⟨none, 0, artifact⟩

def fromVec (artifact : Artifact) (value : ByteArray) : Program OwnedBytes :=
  if value.size = 0 then
    pure (empty artifact)
  else do
    let data ← alloc ⟨artifact, value⟩
    pure ⟨some data, value.size, artifact⟩

def fromString (artifact : Artifact) (value : String) : Program OwnedBytes :=
  fromVec artifact value.toUTF8

/-- `Box::from_raw` and its drop. -/
def releaseBytes (artifact : Artifact) (data : Option Nat) (len : Nat) :
    Program Unit :=
  match data with
  | none => pure ()
  | some address => free address fun buffer =>
      buffer.allocator = artifact && buffer.bytes.size = len

variable (bytes : OwnedBytes)

def release_ : Program Unit :=
  releaseBytes bytes.release bytes.data bytes.len

/-- `slice::from_raw_parts`, whose pointer must not be null. -/
def slice : Program ByteArray :=
  match bytes.data with
  | none => throw .stuck
  | some address => do
      let buffer ← read address
      if buffer.bytes.size = bytes.len then pure buffer.bytes
      else throw .stuck

def copied : Program ByteArray :=
  if bytes.len = 0 then pure ByteArray.empty else bytes.slice

def intoVec : Program ByteArray := do
  let copied ← bytes.copied
  bytes.release_
  pure copied

/-- `String::from_utf8` with its default. -/
def textOf (bytes : ByteArray) : String :=
  (String.fromUTF8? bytes).getD "host Tokio runtime panicked"

def intoString : Program String := do
  let vec ← bytes.intoVec
  pure (textOf vec)

/-- The cells of a descriptor with these contents. -/
def Holds (contents : ByteArray) (owned : List (Nat × Buffer)) : Prop :=
  (bytes.data = none ∧ bytes.len = 0 ∧ contents = ByteArray.empty ∧
    owned = []) ∨
  ∃ address, bytes.data = some address ∧ bytes.len = contents.size ∧
    contents.size ≠ 0 ∧ owned = [(address, ⟨bytes.release, contents⟩)]

variable {bytes} {contents : ByteArray} {owned more : List (Nat × Buffer)}

theorem holds_empty {artifact : Artifact} :
    (empty artifact).Holds ByteArray.empty [] :=
  Or.inl ⟨rfl, rfl, rfl, rfl⟩

theorem spec_fromVec {artifact : Artifact} :
    Spec more (fromVec artifact contents) fun result left =>
      ∃ bytes own, result = .ok bytes ∧ bytes.Holds contents own ∧
        left = own ++ more := by
  unfold fromVec
  split
  · rename_i empty
    have same : contents = ByteArray.empty :=
      ByteArray.size_eq_zero_iff.mp empty
    exact .pure ⟨_, [], rfl, same ▸ holds_empty, rfl⟩
  · rename_i filled
    refine .bind .alloc ?_ ?_
    · rintro address left ⟨_, same, rfl⟩
      cases same
      exact .pure ⟨_, [_], rfl, Or.inr ⟨address, rfl, rfl, filled, rfl⟩, rfl⟩
    · rintro payload left ⟨_, failed, -⟩
      cases failed

theorem spec_release (holds : bytes.Holds contents owned) :
    Spec (owned ++ more) bytes.release_ fun result left =>
      result = .ok () ∧ left = more := by
  unfold release_ releaseBytes
  rcases holds with ⟨empty, -, -, rfl⟩ | ⟨address, filled, size, -, rfl⟩
  · rw [empty]
    exact .pure ⟨rfl, rfl⟩
  · rw [filled]
    exact .free (by simp [size])

theorem spec_copied (holds : bytes.Holds contents owned) :
    Spec (owned ++ more) bytes.copied fun result left =>
      result = .ok contents ∧ left = owned ++ more := by
  unfold copied
  rcases holds with ⟨-, zero, rfl, rfl⟩ | ⟨address, filled, size, big, rfl⟩
  · rw [if_pos zero]
    exact .pure ⟨rfl, rfl⟩
  · rw [if_neg (by omega), slice, filled]
    refine .bind .read ?_ ?_
    · rintro buffer left ⟨same, rfl⟩
      cases same
      rw [if_pos size.symm]
      exact .pure ⟨rfl, rfl⟩
    · rintro payload left ⟨failed, -⟩
      cases failed

theorem spec_intoVec (holds : bytes.Holds contents owned) :
    Spec (owned ++ more) bytes.intoVec fun result left =>
      result = .ok contents ∧ left = more := by
  refine .bind (spec_copied holds) ?_ ?_
  · rintro vec left ⟨same, rfl⟩
    cases same
    refine .bind (spec_release holds) ?_ ?_
    · rintro _ left ⟨-, rfl⟩
      exact .pure ⟨rfl, rfl⟩
    · rintro payload left ⟨failed, -⟩
      cases failed
  · rintro payload left ⟨failed, -⟩
    cases failed

theorem spec_intoString (holds : bytes.Holds contents owned) :
    Spec (owned ++ more) bytes.intoString fun result left =>
      result = .ok (textOf contents) ∧ left = more := by
  refine .bind (spec_intoVec holds) ?_ ?_
  · rintro vec left ⟨same, rfl⟩
    cases same
    exact .pure ⟨rfl, rfl⟩
  · rintro payload left ⟨failed, -⟩
    cases failed

theorem textOf_toUTF8 (text : String) : textOf text.toUTF8 = text := by
  rw [textOf, Disk.fromUTF8_toUTF8]
  rfl

end OwnedBytes

/-! ## Results of calls -/

structure CallResult where
  status : Status
  payload : OwnedBytes
deriving DecidableEq, Repr

/-- A call ends as the results without buffers say. -/
def ended {α : Type} : Ended α → Except Payload α
  | .returned value => .ok value
  | .unwound text => .error (.string text)

namespace CallResult

def ok (artifact : Artifact) : CallResult :=
  ⟨.ok, .empty artifact⟩

def error (artifact : Artifact) (message : String) : Program CallResult := do
  let payload ← OwnedBytes.fromString artifact message
  pure ⟨.error, payload⟩

def panicked (artifact : Artifact) (payload : Payload) :
    Program CallResult := do
  let payload ← OwnedBytes.fromString artifact (panicMessage payload)
  pure ⟨.panicked, payload⟩

/-- `host_panic`. -/
def hostPanic (payload : Payload) : Program CallResult := do
  let result ← panicked .host payload
  pure { result with status := .hostPanicked }

variable (result : CallResult)

def intoIoResult : Program (Except Error Unit) :=
  match result.status with
  | .ok => do
      result.payload.release_
      pure (.ok ())
  | .error => do
      let text ← result.payload.intoString
      pure (.error (.other text))
  | .panicked => do
      let text ← result.payload.intoString
      unwind (.string text)
  | .hostPanicked => do
      let text ← result.payload.intoString
      unwind (.string text)

/-- `Result::expect`; `debug` is how an error is shown. -/
def expect (debug : Error → String) (context : String) :
    Except Error Unit → Program Unit
  | .ok () => pure ()
  | .error error => unwind (.string (context ++ ": " ++ debug error))

def resume (debug : Error → String) (context : String) : Program Unit := do
  let done ← result.intoIoResult
  expect debug context done

/-- The status of a result and the contents of its payload. -/
def Tells (status : Status) (contents : ByteArray)
    (owned : List (Nat × Buffer)) : Prop :=
  result.status = status ∧ result.payload.Holds contents owned

variable {result} {status : Status} {contents : ByteArray}
variable {owned more : List (Nat × Buffer)} {artifact : Artifact}

theorem tells_ok : (ok artifact).Tells .ok ByteArray.empty [] :=
  ⟨rfl, OwnedBytes.holds_empty⟩

/-- A program that makes a result, and owns it then. -/
def Makes (status : Status) (contents : ByteArray)
    (more : List (Nat × Buffer)) (made : Except Payload CallResult)
    (left : List (Nat × Buffer)) : Prop :=
  ∃ result own, made = .ok result ∧ result.Tells status contents own ∧
    left = own ++ more

/-- What makes a result may be called across the ABI. -/
theorem Makes.nounwind {program : Program CallResult}
    (makes : Spec more program (Makes status contents more)) :
    Spec more (Ledger.nounwind program) (Makes status contents more) := by
  have quiet := Spec.nounwind (makes.consequence fun made left =>
    fun ⟨result, own, same, tells, kept⟩ =>
      (⟨result, same, own, tells, kept⟩ : ∃ result, made = .ok result ∧
        ∃ own, result.Tells status contents own ∧ left = own ++ more))
  exact quiet.consequence fun made left ⟨result, same, own, tells, kept⟩ =>
    ⟨result, own, same, tells, kept⟩

theorem spec_make {text : String} :
    Spec more (do
      let payload ← OwnedBytes.fromString artifact text
      pure (⟨status, payload⟩ : CallResult))
      (Makes status text.toUTF8 more) := by
  refine .bind OwnedBytes.spec_fromVec ?_ ?_
  · rintro payload left ⟨bytes, own, same, holds, rfl⟩
    cases same
    exact .pure ⟨_, own, rfl, ⟨rfl, holds⟩, rfl⟩
  · rintro payload left ⟨_, _, failed, -⟩
    cases failed

theorem spec_error {message : String} :
    Spec more (error artifact message)
      (Makes .error message.toUTF8 more) :=
  spec_make

theorem spec_panicked {payload : Payload} :
    Spec more (panicked artifact payload)
      (Makes .panicked (panicMessage payload).toUTF8 more) :=
  spec_make

theorem spec_hostPanic {payload : Payload} :
    Spec more (hostPanic payload)
      (Makes .hostPanicked (panicMessage payload).toUTF8 more) := by
  refine .bind spec_panicked ?_ ?_
  · rintro made left ⟨result, own, same, ⟨-, holds⟩, rfl⟩
    cases same
    exact .pure ⟨_, own, rfl, ⟨rfl, holds⟩, rfl⟩
  · rintro payload left ⟨_, _, failed, -⟩
    cases failed

/-- What a result says, without its buffer. -/
def said (status : Status) (contents : ByteArray) : Readiness.CallResult :=
  ⟨status, OwnedBytes.textOf contents⟩

theorem said_toUTF8 {text : String} :
    said status text.toUTF8 = ⟨status, text⟩ := by
  rw [said, OwnedBytes.textOf_toUTF8]

theorem spec_unwind {α : Type} (holds : result.payload.Holds contents owned) :
    Spec (owned ++ more) (do
      let text ← result.payload.intoString
      unwind (.string text) : Program α) fun made left =>
        made = .error (.string (OwnedBytes.textOf contents)) ∧
          left = more := by
  refine .bind (OwnedBytes.spec_intoString holds) ?_ ?_
  · rintro text left ⟨same, rfl⟩
    cases same
    exact .unwind ⟨rfl, rfl⟩
  · rintro payload left ⟨failed, -⟩
    cases failed

/-- A result is decoded as if it had no buffer, and its buffer is freed. -/
theorem spec_intoIoResult (tells : result.Tells status contents owned) :
    Spec (owned ++ more) result.intoIoResult fun made left =>
      made = ended (said status contents).intoIoResult ∧ left = more := by
  obtain ⟨rfl, holds⟩ := tells
  unfold intoIoResult
  cases status : result.status with
  | ok =>
      refine .bind (OwnedBytes.spec_release holds) ?_ ?_
      · rintro _ left ⟨-, rfl⟩
        exact .pure ⟨rfl, rfl⟩
      · rintro payload left ⟨failed, -⟩
        cases failed
  | error =>
      refine .bind (OwnedBytes.spec_intoString holds) ?_ ?_
      · rintro text left ⟨same, rfl⟩
        cases same
        exact .pure ⟨rfl, rfl⟩
      · rintro payload left ⟨failed, -⟩
        cases failed
  | panicked => exact spec_unwind holds
  | hostPanicked => exact spec_unwind holds

/-- How `resume` ends. -/
def resumed (debug : Error → String) (context : String)
    (done : Except Payload (Except Error Unit)) : Except Payload Unit :=
  match done with
  | .ok (.ok ()) => .ok ()
  | .ok (.error error) => .error (.string (context ++ ": " ++ debug error))
  | .error payload => .error payload

theorem spec_resume {debug : Error → String} {context : String}
    (tells : result.Tells status contents owned) :
    Spec (owned ++ more) (result.resume debug context) fun made left =>
      made = resumed debug context
        (ended (said status contents).intoIoResult) ∧ left = more := by
  refine .bind (spec_intoIoResult tells) ?_ ?_
  · rintro done left ⟨same, rfl⟩
    rw [← same]
    cases done with
    | ok value => exact .pure ⟨rfl, rfl⟩
    | error error => exact .unwind ⟨rfl, rfl⟩
  · rintro payload left ⟨same, rfl⟩
    rw [← same]
    exact ⟨rfl, rfl⟩

end CallResult

section Parts

variable {α β : Type} {owned more : List (Nat × Buffer)}
variable {first : Program α} {next : α → Program β}
variable {made : Except Payload β} {middle : Except Payload α}

/-- How a program goes on, and owns nothing then, after a part of it has ended
like this. -/
def Follows (next : α → Program β) (made : Except Payload β)
    (more : List (Nat × Buffer)) : Except Payload α → Prop
  | .ok value => Spec more (next value) fun result left =>
      result = made ∧ left = more
  | .error payload => made = .error payload

theorem follows_ok {value : α}
    (spec : Spec more (next value) fun result left =>
      result = made ∧ left = more) : Follows next made more (.ok value) :=
  spec

theorem follows_error {payload : Payload} :
    Follows next (.error payload) more (.error payload) :=
  Eq.refl _

theorem spec_then
    (part : Spec (owned ++ more) first fun result left =>
      result = middle ∧ left = more)
    (follows : Follows next made more middle) :
    Spec (owned ++ more) (first >>= next) fun result left =>
      result = made ∧ left = more := by
  refine .bind part ?_ ?_
  · rintro value left ⟨rfl, rfl⟩
    exact follows
  · rintro payload left ⟨rfl, rfl⟩
    exact ⟨Eq.symm follows, rfl⟩

end Parts

end Telekio.Abi
