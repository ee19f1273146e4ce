import Mathlib.Logic.Function.Basic

/-!
# The per-thread context and its copy in an execution state

The cells of Tokio's thread-local `Context` that cross artifacts, and the
`ExecutionState` that carries their values through the ABI.
-/

namespace Telekio.Crossing

/-- `coop::Budget`; `none` is unconstrained. -/
abbrev Budget := Option UInt8

structure FastRand where
  one : UInt32
  two : UInt32
deriving DecidableEq, Repr

/-- A task id is not zero. -/
structure TaskId where
  value : UInt64
  nonzero : value ≠ 0
deriving DecidableEq, Repr

inductive EnterRuntime where
  | notEntered
  | entered (allowBlockInPlace : Bool)
deriving DecidableEq, Repr

/-- The ABI's form of `EnterRuntime`. -/
inductive RuntimeContext where
  | notEntered
  | entered (allowBlockInPlace : Bool)
deriving DecidableEq, Repr

structure Context where
  budget : Budget
  rng : Option FastRand
  runtime : EnterRuntime
  currentTaskId : Option TaskId
deriving DecidableEq, Repr

/-- Identity of an artifact's `panicking` function. -/
inductive Artifact where
  | host
  | guest (guest : Nat)
deriving DecidableEq, Repr

/-- `panic` lists the artifacts of the panic records, innermost first. -/
structure ExecutionState where
  runtime : RuntimeContext
  taskId : UInt64
  budget : UInt16
  rngOne : UInt32
  rngTwo : UInt32
  rngActive : UInt8
  tracing : Bool
  forcedYields : Nat
  panic : List Artifact
deriving Repr

namespace Budget

def telekioValue (budget : Budget) : UInt16 :=
  budget.elim 0xFFFF UInt8.toUInt16

/-- Panics for a value that no budget has. -/
def fromTelekio (value : UInt16) : Option Budget :=
  if value = 0xFFFF then some none
  else if value < 256 then some (some value.toUInt8)
  else none

@[simp]
theorem fromTelekio_telekioValue (budget : Budget) :
    fromTelekio (telekioValue budget) = some budget := by
  cases budget with
  | none => rfl
  | some budget =>
      have small : budget.toUInt16 < 256 := by
        rw [UInt16.lt_iff_toNat_lt]
        simpa using budget.toNat_lt
      have limited : budget.toUInt16 ≠ 0xFFFF := by
        rintro same
        rw [same] at small
        exact absurd small (by decide)
      simp [fromTelekio, telekioValue, small, limited]

end Budget

namespace TaskId

def telekioValue (id : Option TaskId) : UInt64 :=
  id.elim 0 TaskId.value

def fromTelekio (value : UInt64) : Option TaskId :=
  if nonzero : value ≠ 0 then some ⟨value, nonzero⟩ else none

@[simp]
theorem fromTelekio_telekioValue (id : Option TaskId) :
    fromTelekio (telekioValue id) = id := by
  cases id with
  | none => rfl
  | some id => simp [fromTelekio, telekioValue, id.nonzero]

end TaskId

namespace EnterRuntime

def fromTelekio : RuntimeContext → EnterRuntime
  | .notEntered => .notEntered
  | .entered allowBlockInPlace => .entered allowBlockInPlace

def telekioValue : EnterRuntime → RuntimeContext
  | .notEntered => .notEntered
  | .entered allowBlockInPlace => .entered allowBlockInPlace

@[simp]
theorem fromTelekio_telekioValue (runtime : EnterRuntime) :
    fromTelekio (telekioValue runtime) = runtime := by
  cases runtime <;> rfl

end EnterRuntime

namespace ExecutionState

def rng (state : ExecutionState) : Option FastRand :=
  if state.rngActive ≠ 0 then some ⟨state.rngOne, state.rngTwo⟩ else none

/-- What the state says of the cells, unless a value is invalid. -/
def read (state : ExecutionState) : Option Context :=
  (Budget.fromTelekio state.budget).map fun budget =>
    { budget := budget
      rng := state.rng
      runtime := .fromTelekio state.runtime
      currentTaskId := TaskId.fromTelekio state.taskId }

/-- The state that `enter` makes of a context. -/
def ofContext (context : Context) (tracing : Bool) : ExecutionState where
  runtime := context.runtime.telekioValue
  taskId := TaskId.telekioValue context.currentTaskId
  budget := context.budget.telekioValue
  rngOne := context.rng.elim 0 FastRand.one
  rngTwo := context.rng.elim 0 FastRand.two
  rngActive := if context.rng.isSome then 1 else 0
  tracing := tracing
  forcedYields := 0
  panic := []

@[simp]
theorem read_ofContext (context : Context) (tracing : Bool) :
    (ofContext context tracing).read = some context := by
  obtain ⟨budget, rng, runtime, currentTaskId⟩ := context
  cases rng <;> simp [read, ofContext, ExecutionState.rng]

/-- Write the shared fields back into the state of the enclosing call. -/
def writeBack (state previous : ExecutionState) : ExecutionState :=
  { previous with
    taskId := state.taskId
    budget := state.budget
    runtime := state.runtime
    rngOne := state.rngOne
    rngTwo := state.rngTwo
    rngActive := state.rngActive }

@[simp]
theorem read_writeBack (state previous : ExecutionState) :
    (state.writeBack previous).read = state.read :=
  rfl

end ExecutionState

end Telekio.Crossing
