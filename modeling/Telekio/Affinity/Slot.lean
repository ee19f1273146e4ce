import Telekio.Owner.Objects

/-!
# The slot of a `LocalRuntime`

`LocalSlot`, `RuntimeKind` and the locked parts of `RuntimeOwner::close` and
`runtime_block_on`, with the `LocalRuntime` that a slot holds and that `close`
moves out of it. A `LocalRuntime` remembers the thread that built it.
-/

namespace Telekio.Affinity

open Telekio.Owner

structure LocalRuntime where
  origin : Nat
deriving DecidableEq, Repr

structure LocalSlot where
  thread : Nat
  runtime : Option LocalRuntime
deriving DecidableEq, Repr

def usedFromAnotherThread : String :=
  "LocalRuntime was used from another thread"

def runtimeHasShutDown : String :=
  "Tokio runtime has shut down"

namespace LocalSlot

/-- `LocalSlot::new`, called by `thread` with a runtime it has just built. -/
def new (thread : Nat) : LocalSlot :=
  ⟨thread, some ⟨thread⟩⟩

variable (slot : LocalSlot) (thread : Nat)

/-- `LocalSlot::with`, called by `thread`: the runtime it lends out. -/
def with_ : Except String LocalRuntime :=
  if thread ≠ slot.thread then
    .error usedFromAnotherThread
  else
    match slot.runtime with
    | some runtime => .ok runtime
    | none => .error runtimeHasShutDown

/-- `LocalSlot::take`, called by `thread`: the runtime it moves out. -/
def take : LocalSlot × Except String (Option LocalRuntime) :=
  if thread ≠ slot.thread then
    (slot, .error usedFromAnotherThread)
  else
    ({ slot with runtime := none }, .ok slot.runtime)

end LocalSlot

/-- The `Runtime` of the other flavors has no thread and is left out. -/
inductive RuntimeKind where
  | runtime
  | localSlot (slot : LocalSlot)
  | closed
deriving DecidableEq, Repr

namespace RuntimeKind

def isClosed : RuntimeKind → Bool
  | .closed => true
  | _ => false

def localOpen : RuntimeKind → Bool
  | .localSlot _ => true
  | _ => false

/-- The `LocalRuntime` that a drop of the kind would drop. -/
def held : RuntimeKind → Option LocalRuntime
  | .localSlot slot => slot.runtime
  | _ => none

/-- The locked part of `close`, and the `LocalRuntime` it has moved out. -/
def close (thread : Nat) :
    RuntimeKind → RuntimeKind × Except String (Option LocalRuntime)
  | .runtime => (.closed, .ok none)
  | .localSlot slot =>
      match slot.take thread with
      | (slot, .error error) => (.localSlot slot, .error error)
      | (_, .ok moved) => (.closed, .ok moved)
  | .closed => (.closed, .ok none)

/-- The match of `runtime_block_on`: its panics are errors here, and the
`LocalRuntime` that it blocks on is the result. -/
def blockOn (thread : Nat) :
    RuntimeKind → Except String (Option LocalRuntime)
  | .runtime => .ok none
  | .localSlot slot => (slot.with_ thread).map some
  | .closed => .error runtimeHasShutDown

/-- What the owner knows of a runtime. -/
def toOwner : RuntimeKind → Owner.RuntimeKind
  | .runtime => .runtime
  | .localSlot slot => .localRuntime slot.thread
  | .closed => .closed

/-- `close` is the owner's close of a runtime, without what it moves out. -/
theorem toOwner_close (kind : RuntimeKind) (thread : Nat) :
    ((kind.close thread).1.toOwner,
      (kind.close thread).2.map fun _ => ()) =
      kind.toOwner.close thread := by
  cases kind with
  | localSlot slot =>
      by_cases same : thread = slot.thread
      · simp [close, LocalSlot.take, toOwner, Owner.RuntimeKind.close,
          same, Except.map]
      · simp [close, LocalSlot.take, toOwner, Owner.RuntimeKind.close,
          same, Except.map, usedFromAnotherThread]
  | _ => rfl

/-- Whoever drops or uses the `LocalRuntime` of a kind on the thread of its
slot does it on the thread that built it. -/
def Sound (kind : RuntimeKind) : Prop :=
  ∀ slot, kind = .localSlot slot →
    ∀ runtime, slot.runtime = some runtime →
      runtime.origin = slot.thread

/-- A foreign thread changes nothing and learns nothing. -/
theorem close_of_ne {slot : LocalSlot} {thread : Nat}
    (foreign : thread ≠ slot.thread) :
    (localSlot slot).close thread =
      (.localSlot slot, .error usedFromAnotherThread) := by
  simp [close, LocalSlot.take, foreign]

theorem blockOn_of_ne {slot : LocalSlot} {thread : Nat}
    (foreign : thread ≠ slot.thread) :
    (localSlot slot).blockOn thread = .error usedFromAnotherThread := by
  simp [blockOn, LocalSlot.with_, foreign, Except.map]

/-- What `close` moves out was in the slot of its own thread. -/
theorem held_of_close {kind : RuntimeKind} {thread : Nat}
    {runtime : LocalRuntime}
    (moved : (kind.close thread).2 = .ok (some runtime)) :
    ∃ slot, kind = .localSlot slot ∧ slot.thread = thread ∧
      slot.runtime = some runtime := by
  cases kind with
  | localSlot slot =>
      by_cases same : thread = slot.thread
      · refine ⟨slot, rfl, same.symm, ?_⟩
        simpa [close, LocalSlot.take, same] using moved
      · rw [close_of_ne same] at moved
        cases moved
  | _ => cases moved

theorem held_of_blockOn {kind : RuntimeKind} {thread : Nat}
    {runtime : LocalRuntime}
    (used : kind.blockOn thread = .ok (some runtime)) :
    ∃ slot, kind = .localSlot slot ∧ slot.thread = thread ∧
      slot.runtime = some runtime := by
  cases kind with
  | localSlot slot =>
      by_cases same : thread = slot.thread
      · refine ⟨slot, rfl, same.symm, ?_⟩
        cases held : slot.runtime with
        | none => simp [blockOn, LocalSlot.with_, same, held, Except.map]
            at used
        | some other =>
            simpa [blockOn, LocalSlot.with_, same, held, Except.map]
              using used
      · rw [blockOn_of_ne same] at used
        cases used
  | _ => cases used

/-- A kind that is open after a `close` was the same kind before. -/
theorem eq_of_localOpen_close {kind : RuntimeKind} {thread : Nat}
    (stillOpen : (kind.close thread).1.localOpen = true) :
    (kind.close thread).1 = kind := by
  cases kind with
  | localSlot slot =>
      by_cases same : thread = slot.thread
      · simp [close, LocalSlot.take, same, localOpen] at stillOpen
      · rw [close_of_ne same]
  | _ => cases stillOpen

end RuntimeKind

end Telekio.Affinity
