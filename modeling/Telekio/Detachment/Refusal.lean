import Telekio.Nesting.Scope

/-!
# Detaching from inside a guest call

`ACTIVE_OWNER` is a cell of the thread, `OwnerContext` its guard, and the
first poll of `Attachment::detach` compares the cell with its own owner.
-/

namespace Telekio.Detachment

open Telekio.Nesting

/-- `*const OwnerState`. -/
abbrev OwnerRef := Nat

/-- The calls that hold an `OwnerContext`: an `Activity` of the id, or the
poll or run of a tracked task. -/
inductive GuestCall where
  | enter (activity : Nat)
  | blockOn (activity : Nat)
  | blockInPlace (activity : Nat)
  | build (activity : Nat)
  | observeWorkers (activity : Nat)
  | trackedTask (id : Nat)
  | trackedBlockingTask (id : Nat)
deriving DecidableEq, Repr

structure OwnerFrame where
  call : GuestCall
  owner : OwnerRef
deriving DecidableEq, Repr

/-- What `OwnerContext::enter` stores in `ACTIVE_OWNER`. -/
def OwnerFrame.activeOwner (frame : OwnerFrame) : Option OwnerRef :=
  some frame.owner

/-- `ACTIVE_OWNER` of one thread with its `OwnerContext` guards. -/
abbrev OwnerStack :=
  Scope (Option OwnerRef) OwnerFrame

/-- The null pointer that a thread starts with. -/
def threadStart : OwnerStack :=
  Scope.bare none

/-- The stacks that calls of any plugins, in any nesting, leave behind. -/
def Nested (stack : OwnerStack) : Prop :=
  Runs OwnerFrame.activeOwner threadStart stack

def owners (stack : OwnerStack) : List OwnerRef :=
  stack.frames.map OwnerFrame.owner

structure Attachment where
  raw : Bool
  owner : OwnerRef
deriving DecidableEq, Repr

/-- The future of a `detach` call; it is `shuttingDown` from its first
poll on, if that poll did not return an error. -/
inductive DetachFuture where
  | unpolled
  | shuttingDown
deriving DecidableEq, Repr

inductive DetachPoll where
  | error (message : String)
  | shutdownOwner
deriving DecidableEq, Repr

def alreadyDetached : String :=
  "Telekio attachment is already detached"

def insideGuestCallback : String :=
  "plugin detachment cannot run inside one of its guest callbacks"

/-- A poll of `Attachment::detach` on a thread with the given
`ACTIVE_OWNER`. -/
def Attachment.detach (attachment : Attachment)
    (activeOwner : Option OwnerRef) : DetachFuture → DetachPoll
  | .unpolled =>
      if !attachment.raw then
        .error alreadyDetached
      else if activeOwner = some attachment.owner then
        .error insideGuestCallback
      else
        .shutdownOwner
  | .shuttingDown => .shutdownOwner

/-- The poll is refused because of the calls on the thread's stack. -/
def Attachment.refuses (attachment : Attachment) (stack : OwnerStack)
    (future : DetachFuture) : Prop :=
  attachment.detach stack.cell future = .error insideGuestCallback

/-- What the guard is there for: the poll is refused exactly inside the
owner's own calls, and does not go on to wait for one of them. -/
def Attachment.detachIsExact (attachment : Attachment)
    (stack : OwnerStack) (future : DetachFuture) : Prop :=
  (attachment.refuses stack future ↔
      attachment.owner ∈ owners stack) ∧
    (attachment.detach stack.cell future = .shutdownOwner →
      attachment.owner ∉ owners stack)

/-- A first poll directly inside a call of the owner, or a poll outside all
calls of the owner. -/
def Attachment.innermostOrOutside (attachment : Attachment)
    (stack : OwnerStack) (future : DetachFuture) : Prop :=
  (future = .unpolled ∧
      (owners stack).head? = some attachment.owner) ∨
    attachment.owner ∉ owners stack

variable {attachment : Attachment} {stack : OwnerStack}
  {future : DetachFuture}

theorem activeOwner_of_nested (nested : Nested stack) :
    stack.cell = (owners stack).head? := by
  rw [cell_of_runs nested, innermost, owners]
  cases stack.frames <;> rfl

theorem refuses_iff (nested : Nested stack)
    (attached : attachment.raw = true) :
    attachment.refuses stack future ↔
      future = .unpolled ∧
        (owners stack).head? = some attachment.owner := by
  rw [Attachment.refuses, activeOwner_of_nested nested]
  cases future with
  | shuttingDown => simp [Attachment.detach]
  | unpolled =>
      by_cases innermost : (owners stack).head? = some attachment.owner
      · simp [Attachment.detach, attached, innermost]
      · simp [Attachment.detach, attached, innermost]

/-- The guard of `detach` sees the innermost owner only. -/
theorem detachIsExact_iff (nested : Nested stack)
    (attached : attachment.raw = true) :
    attachment.detachIsExact stack future ↔
      attachment.innermostOrOutside stack future := by
  have occurs : attachment.refuses stack future →
      attachment.owner ∈ owners stack := fun refused =>
    List.mem_of_mem_head? ((refuses_iff nested attached).mp refused).2
  constructor
  · rintro ⟨exactly, _⟩
    by_cases inside : attachment.owner ∈ owners stack
    · exact Or.inl ((refuses_iff nested attached).mp
        (exactly.mpr inside))
    · exact Or.inr inside
  · rintro (innermost | outside)
    · have refused := (refuses_iff nested attached).mpr innermost
      refine ⟨iff_of_true refused (occurs refused), fun shutsDown => ?_⟩
      exact nomatch refused.symm.trans shutsDown
    · exact ⟨iff_of_false (fun refused => outside (occurs refused))
        outside, fun _ => outside⟩

/-- A plugin that detaches itself inside its own entry is refused. -/
theorem detachIsExact_iff_of_enter :
    (Attachment.mk true 1).detachIsExact
      (threadStart.enter (some 1) ⟨.enter 1, 1⟩) .unpolled :=
  (@detachIsExact_iff ⟨true, 1⟩ _ .unpolled
    (.single (Step.enter (OwnerFrame.mk (.enter 1) 1))) rfl).mpr
    (Or.inl ⟨rfl, rfl⟩)

/-- Plugin 1 calls into plugin 2, which detaches plugin 1. -/
theorem exists_detach_inside :
    ¬ ∀ (attachment : Attachment) (stack : OwnerStack)
      (future : DetachFuture),
      Nested stack → attachment.raw = true →
      attachment.detachIsExact stack future := by
  intro claim
  have outer : Nested (threadStart.enter (some 1) ⟨.enter 1, 1⟩) :=
    .single (Step.enter (OwnerFrame.mk (.enter 1) 1))
  have inner := outer.tail (Step.enter (OwnerFrame.mk (.enter 1) 2))
  have exactly := claim ⟨true, 1⟩ _ .unpolled inner rfl
  exact nomatch exactly.1.mpr (by decide)

end Telekio.Detachment
