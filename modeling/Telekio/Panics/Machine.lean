import Mathlib.Logic.Relation
import Telekio.Crossing.State
import Telekio.Nesting.Linked

/-!
# The panic records of one thread

`PanicContext`, `with_execution_state` and `is_panicking` of
`telekio-abi/src/runtime/context.rs`, `enter` of
`host/runtime/context.rs` and `panicking` of `shared/runtime/context.rs`, with
the records and the execution states at their addresses on the stack.
-/

namespace Telekio.Panics

open Telekio.Nesting
open Telekio.Crossing (Artifact)

structure ExecutionState where
  panic : Option Nat
deriving DecidableEq, Repr

/-- The `Reset` of `with_execution_state`. -/
structure ExecutionReset where
  state : Nat
  previous : Option Nat
  panic : Option Nat
deriving DecidableEq, Repr

/-- `enter` is the host's `enter` with its `Reset`; `execution` a
`with_execution_state` of an artifact, with the address of its record. -/
inductive Frame where
  | enter (state : Nat) (previous : Option Nat)
  | execution (artifact : Artifact) (record : Nat) (reset : ExecutionReset)
deriving DecidableEq, Repr

/-- `records` are the `PanicContext`s: `next` is `previous`, and `value` the
artifact of `panicking`. `active` is the host's `ACTIVE` and `execution` the
`EXECUTION` of every artifact; `panicked` tells which of them are
panicking. -/
structure Machine where
  records : Heap Artifact
  states : Nat → Option ExecutionState
  active : Option Nat
  execution : Artifact → Option Nat
  frames : List Frame
  panicked : Artifact → Bool

namespace Machine

variable (machine : Machine)

/-- A thread that has entered nothing. -/
def start (panicked : Artifact → Bool) : Machine where
  records := fun _ => none
  states := fun _ => none
  active := none
  execution := fun _ => none
  frames := []
  panicked := panicked

/-- The `panic` field of a state. -/
def panic (state : Nat) : Option Nat :=
  (machine.states state).bind ExecutionState.panic

def activePanic : Option Nat :=
  machine.active.bind machine.panic

/-- The host's `enter`, up to its call of `with_execution_state`: the new
state is a copy of the enclosing one. -/
def enter (state : Nat) : Machine :=
  { machine with
    states := Function.update machine.states state
      (some ⟨machine.activePanic⟩)
    active := some state
    frames := .enter state machine.active :: machine.frames }

def withExecutionState (artifact : Artifact) (record state : Nat) :
    Machine :=
  { machine with
    records := Function.update machine.records record
      (some ⟨machine.panic state, artifact⟩)
    states := Function.update machine.states state (some ⟨some record⟩)
    execution := Function.update machine.execution artifact (some state)
    frames := .execution artifact record
      ⟨state, machine.execution artifact, machine.panic state⟩ ::
        machine.frames }

/-- The innermost frame ends, by a return or by unwinding, and its guards are
dropped. -/
def leave : Machine :=
  match machine.frames with
  | [] => machine
  | .enter state previous :: frames =>
      { machine with
        states := Function.update machine.states state none
        active := previous
        frames := frames }
  | .execution artifact record reset :: frames =>
      { machine with
        records := Function.update machine.records record none
        states := Function.update machine.states reset.state
          (some ⟨reset.panic⟩)
        execution := Function.update machine.execution artifact
          reset.previous
        frames := frames }

/-- `execution_state()` of the artifact. -/
def executionState : Artifact → Option Nat
  | .host => machine.active
  | .guest guest => machine.execution (.guest guest)

/-- `is_panicking`, called by `artifact`. -/
def isPanicking (fuel : Nat) (artifact : Artifact) (state : Nat) :
    Option Bool :=
  if machine.panicked artifact then some true
  else anyFrom machine.records machine.panicked fuel (machine.panic state)

/-- `panicking`, called by `artifact`. -/
def panicking (fuel : Nat) (artifact : Artifact) : Option Bool :=
  match machine.executionState artifact with
  | none => some (machine.panicked artifact)
  | some state => machine.isPanicking fuel artifact state

end Machine

/-- A frame begins. The stack gives it addresses that are not in use, and the
host passes on the active state. -/
inductive Opens (machine : Machine) : Machine → Prop
  | enter {state : Nat} (fresh : machine.states state = none) :
      Opens machine (machine.enter state)
  | withExecutionState {artifact : Artifact} {record state : Nat}
      (active : machine.active = some state)
      (fresh : machine.records record = none) :
      Opens machine (machine.withExecutionState artifact record state)

/-- A frame begins or ends, or artifacts start or stop to panic. -/
inductive Step : Machine → Machine → Prop
  | opens {machine next : Machine} (opens : Opens machine next) :
      Step machine next
  | leave {machine : Machine} : Step machine machine.leave
  | panic {machine : Machine} (panicked : Artifact → Bool) :
      Step machine { machine with panicked := panicked }

/-- What well-nested runs reach. -/
def Reachable (machine : Machine) : Prop :=
  ∃ panicked, Relation.ReflTransGen Step (.start panicked) machine

theorem Reachable.opens {machine next : Machine}
    (reached : Reachable machine) (opens : Opens machine next) :
    Reachable next := by
  obtain ⟨panicked, steps⟩ := reached
  exact ⟨panicked, steps.tail (.opens opens)⟩

/-- A run that ends all the frames that it begins. -/
inductive Balanced : Machine → Machine → Prop
  | refl {machine : Machine} : Balanced machine machine
  | panic {machine after : Machine} (before : Balanced machine after)
      (panicked : Artifact → Bool) :
      Balanced machine { after with panicked := panicked }
  | frame {machine after opened last : Machine}
      (before : Balanced machine after) (opens : Opens after opened)
      (inside : Balanced opened last) :
      Balanced machine last.leave

end Telekio.Panics
