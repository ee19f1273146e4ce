import Telekio.Crossing.State

/-!
# One thread that crosses artifacts

The thread-locals of the host and of any number of guests, the execution
states on the stack, and the frames that the thread is in. A pointer to an
execution state is its place on the stack.
-/

namespace Telekio.Crossing

/-- What the drop of the host's `Reset` needs. -/
structure HostReset where
  state : Nat
  previous : Option Nat
deriving DecidableEq, Repr

/-- What the drop of the `Reset` of `with_execution_state` needs. -/
structure ExecutionReset where
  state : Nat
  previous : Option Nat
  panic : List Artifact
deriving DecidableEq, Repr

/-- `entered` is a call of a guest by the host, with the resets of `enter`
unless the active state is reused; `nested` is another
`with_execution_state` of the guest; `called` is a call of the host by a
guest. -/
inductive Frame where
  | entered (guest : Nat) (enter : Option (HostReset × ExecutionReset))
      (execution : ExecutionReset)
  | nested (guest : Nat) (execution : ExecutionReset)
  | called (guest : Nat)
deriving DecidableEq, Repr

/-- The artifact whose code runs inside a frame. -/
def Frame.artifact : Frame → Artifact
  | .entered guest _ _ | .nested guest _ => .guest guest
  | .called _ => .host

/-- A value that an accessor has read. -/
inductive Observation where
  | budget (budget : Budget)
  | rng (rng : Option FastRand)
  | runtime (runtime : EnterRuntime)
  | taskId (id : Option TaskId)
deriving DecidableEq, Repr

/-- An entry into a guest: the state that `with` or `with_task` has given to
the call, and what the guest finds in `EXECUTION`. -/
structure Entry where
  guest : Nat
  supplied : Nat
  execution : Option Nat
deriving DecidableEq, Repr

/-- `active` is the host's `ACTIVE`; `execution` the guests' `EXECUTION`, and
`hostExecution` that of the host's own copy of the ABI. `handles` are the
current handles of the artifacts' Tokios, by the runtime, and `recorded` the
forced yields that these have counted in its metrics. `observed` and `entries`
are history. -/
structure Machine where
  host : Context
  guests : Nat → Context
  active : Option Nat
  hostExecution : Option Nat
  execution : Nat → Option Nat
  states : Nat → ExecutionState
  top : Nat
  frames : List Frame
  observed : List Observation
  entries : List Entry
  handles : Artifact → Option Nat
  recorded : Artifact → List Nat

/-- What an accessor works on: the `Context` of its artifact and the state
that `execution_state` points to. -/
abbrev View := Context × Option ExecutionState

/-- Code in the body of an accessor; it panics on an invalid value. -/
abbrev Body (α : Type) := View → Option (View × α)

/-- A cell of the context that an accessor borrows for its body. -/
structure Cell (α : Type) where
  get : Context → α
  set : α → Context → Context
  load : ExecutionState → Option α
  store : α → ExecutionState → ExecutionState

/-- Swap the shared value in, run the body, write it back and restore the
cell. The last two are a drop, so they also happen when the body panics. -/
def Cell.borrow {α β : Type} (cell : Cell α) (body : Body β) : Body β :=
  fun view =>
    match view with
    | (context, none) => body (context, none)
    | (context, some state) =>
        (cell.load state).bind fun current =>
          (body (cell.set current context, some state)).map
            fun ((after, stateAfter), result) =>
              ((cell.set (cell.get context) after,
                stateAfter.map (cell.store (cell.get after))), result)

def budgetCell : Cell Budget where
  get := Context.budget
  set := fun budget context => { context with budget := budget }
  load := fun state => Budget.fromTelekio state.budget
  store := fun budget state => { state with budget := budget.telekioValue }

def rngCell : Cell (Option FastRand) where
  get := Context.rng
  set := fun rng context => { context with rng := rng }
  load := fun state => some state.rng
  store := fun rng state =>
    match rng with
    | some rng =>
        { state with rngOne := rng.one, rngTwo := rng.two, rngActive := 1 }
    | none => { state with rngActive := 0 }

def runtimeCell : Cell EnterRuntime where
  get := Context.runtime
  set := fun runtime context => { context with runtime := runtime }
  load := fun state => some (.fromTelekio state.runtime)
  store := fun runtime state =>
    { state with runtime := runtime.telekioValue }

/-- The accessors, with what their bodies make of the cells. -/
inductive Access where
  | budget (body : Budget → Budget)
  | rng (body : Option FastRand → Option FastRand)
  | runtime (body : EnterRuntime → EnterRuntime)
  | enterRuntime
      (body : EnterRuntime → Option FastRand →
        EnterRuntime × Option FastRand)
  | taskId
  | setTaskId (id : Option TaskId)

/-- What an access reads and writes in one context. -/
def Access.onContext (access : Access) (context : Context) :
    Context × List Observation :=
  match access with
  | .budget body =>
      ({ context with budget := body context.budget },
        [.budget context.budget])
  | .rng body =>
      ({ context with rng := body context.rng }, [.rng context.rng])
  | .runtime body =>
      ({ context with runtime := body context.runtime },
        [.runtime context.runtime])
  | .enterRuntime body =>
      ({ context with
          runtime := (body context.runtime context.rng).1
          rng := (body context.runtime context.rng).2 },
        [.runtime context.runtime, .rng context.rng])
  | .taskId => (context, [.taskId context.currentTaskId])
  | .setTaskId id =>
      ({ context with currentTaskId := id },
        [.taskId context.currentTaskId])

/-- A body that works on the `Context` it is given. -/
def Access.body (access : Access) : Body (List Observation) :=
  fun (context, state) =>
    some (((access.onContext context).1, state),
      (access.onContext context).2)

def Access.run (access : Access) : Body (List Observation) :=
  match access with
  | .budget _ => budgetCell.borrow access.body
  | .rng _ => rngCell.borrow access.body
  | .runtime _ => runtimeCell.borrow access.body
  | .enterRuntime _ => runtimeCell.borrow (rngCell.borrow access.body)
  | .taskId => fun (context, state) =>
      match state with
      | none => access.body (context, none)
      | some state =>
          some ((context, some state),
            [.taskId (TaskId.fromTelekio state.taskId)])
  | .setTaskId id => fun (context, state) =>
      match state with
      | none => access.body (context, none)
      | some state =>
          some ((context,
              some { state with taskId := TaskId.telekioValue id }),
            [.taskId (TaskId.fromTelekio state.taskId)])

/-! ## The frames -/

namespace Machine

variable (machine : Machine)

/-- A thread of the host that has entered nothing. -/
def start (host : Context) (guests : Nat → Context)
    (execution : Nat → Option Nat) : Machine where
  host := host
  guests := guests
  active := none
  hostExecution := none
  execution := execution
  states := fun _ => ExecutionState.ofContext host false
  top := 0
  frames := []
  observed := []
  entries := []
  handles := fun _ => none
  recorded := fun _ => []

/-- The artifact whose code is running. -/
def artifact : Artifact :=
  machine.frames.head?.elim .host Frame.artifact

/-- `execution_state()` of the accessors. -/
def executionState : Option Nat :=
  match machine.artifact with
  | .host => machine.active
  | .guest guest => machine.execution guest

def context : Context :=
  match machine.artifact with
  | .host => machine.host
  | .guest guest => machine.guests guest

def setContext (context : Context) : Machine :=
  match machine.artifact with
  | .host => { machine with host := context }
  | .guest guest =>
      { machine with
        guests := Function.update machine.guests guest context }

def setState (pointer : Nat) (state : ExecutionState) : Machine :=
  { machine with
    states := Function.update machine.states pointer state }

/-- The accessor runs on the context of the running artifact. -/
def access (access : Access) : Option Machine :=
  (access.run (machine.context,
      machine.executionState.map machine.states)).map
    fun ((context, state), observed) =>
      let written := machine.setContext context
      let stored :=
        match machine.executionState, state with
        | some pointer, some state => written.setState pointer state
        | _, _ => written
      { stored with observed := machine.observed ++ observed }

/-- The guest's half of `with_execution_state`. -/
def pushExecution (guest pointer : Nat) : Machine × ExecutionReset :=
  let state := machine.states pointer
  ({ machine.setState pointer
        { state with panic := .guest guest :: state.panic } with
      execution :=
        Function.update machine.execution guest (some pointer) },
    ⟨pointer, machine.execution guest, state.panic⟩)

def popExecution (guest : Nat) (reset : ExecutionReset) : Machine :=
  { machine.setState reset.state
      { machine.states reset.state with panic := reset.panic } with
    execution :=
      Function.update machine.execution guest reset.previous }

/-- `enter` up to its call, with the `with_execution_state` of the host. -/
def enter (tracing : Bool) : Machine × (HostReset × ExecutionReset) :=
  let state :=
    match machine.active with
    | none => ExecutionState.ofContext machine.host tracing
    | some previous =>
        { machine.states previous with
          tracing := tracing
          forcedYields := 0 }
  ({ machine.setState machine.top
        { state with panic := .host :: state.panic } with
      active := some machine.top
      hostExecution := some machine.top
      top := machine.top + 1 },
    (⟨machine.top, machine.active⟩,
      ⟨machine.top, machine.hostExecution, state.panic⟩))

/-- `inc_budget_forced_yield_count` inside `with_current`, so many times;
without a current handle nothing counts. -/
def countYields (artifact : Artifact) (count : Nat) : Machine :=
  { machine with
    recorded :=
      (machine.handles artifact).elim machine.recorded fun runtime =>
        Function.update machine.recorded artifact
          (machine.recorded artifact ++ List.replicate count runtime) }

def recordForcedYields (count : Nat) : Machine :=
  machine.countYields .host count

@[simp]
theorem states_recordForcedYields (count : Nat) :
    (machine.recordForcedYields count).states = machine.states :=
  rfl

/-- `Reset::drop`. -/
def reset (reset : HostReset) : Option Machine :=
  let state := machine.states reset.state
  let popped :=
    { machine with
      active := reset.previous
      top := reset.state }
  match reset.previous with
  | none => state.read.map fun context =>
      { popped with host := context }.recordForcedYields state.forcedYields
  | some previous =>
      some ((popped.setState previous
        (state.writeBack (machine.states previous))).recordForcedYields
          state.forcedYields)

/-- The end of `enter`, after its call. -/
def leave (enter : HostReset × ExecutionReset) : Option Machine :=
  let state := machine.states enter.2.state
  { machine.setState enter.2.state
      { state with panic := enter.2.panic } with
    hostExecution := enter.2.previous }.reset enter.1

end Machine

/-- How a frame or an accessor is left; the drops are the same. -/
inductive Exit where
  | normal
  | panic
deriving DecidableEq, Repr

/-- `enter` is `with_task`, or `with` when `task` is false, together with the
guest's `with_execution_state`. -/
inductive Event where
  | access (access : Access) (exit : Exit)
  | enter (task tracing : Bool) (guest : Nat)
  | nest
  | call
  | leave (exit : Exit)

namespace Machine

variable (machine : Machine)

/-- `with` and `with_task`: the state that is passed to the guest, and the
resets of `enter` when there is a new one. -/
def supply (task tracing : Bool) :
    Machine × Nat × Option (HostReset × ExecutionReset) :=
  match task, machine.active with
  | false, some active => (machine, active, none)
  | _, _ =>
      ((machine.enter tracing).1, machine.top,
        some (machine.enter tracing).2)

/-- The host calls a guest with the state that it is supplied with. -/
def enterGuest (task tracing : Bool) (guest : Nat) : Machine :=
  let (supplied, pointer, enter) := machine.supply task tracing
  let (entered, reset) := supplied.pushExecution guest pointer
  { entered with
    frames := .entered guest enter reset :: machine.frames
    entries := machine.entries ++
      [⟨guest, pointer, entered.execution guest⟩] }

/-- One event; `none` when it cannot happen here, or when it panics on an
invalid value. -/
def step (machine : Machine) : Event → Option Machine
  | .access access _ => machine.access access
  | .enter task tracing guest =>
      match machine.artifact with
      | .host => some (machine.enterGuest task tracing guest)
      | .guest _ => none
  | .nest =>
      match machine.artifact, machine.executionState with
      | .guest guest, some pointer =>
          let (entered, reset) := machine.pushExecution guest pointer
          some { entered with
            frames := .nested guest reset :: machine.frames }
      | _, _ => none
  | .call =>
      match machine.artifact with
      | .guest guest =>
          some { machine with frames := .called guest :: machine.frames }
      | .host => none
  | .leave _ =>
      match machine.frames with
      | [] => none
      | .entered guest enter reset :: frames =>
          let popped :=
            { machine.popExecution guest reset with frames := frames }
          match enter with
          | some enter => popped.leave enter
          | none => some popped
      | .nested guest reset :: frames =>
          some { machine.popExecution guest reset with frames := frames }
      | .called _ :: frames => some { machine with frames := frames }

def run (machine : Machine) (events : List Event) : Option Machine :=
  events.foldlM step machine

end Machine

/-- Where a thread is: the artifacts that it has entered, innermost first. -/
abbrev Places := List Artifact

/-- How an event moves the thread; `none` when it is not nested. -/
def Event.move (places : Places) : Event → Option Places
  | .access _ _ => some places
  | .enter _ _ guest =>
      match places.head? with
      | some (.guest _) => none
      | _ => some (.guest guest :: places)
  | .nest =>
      match places.head? with
      | some (.guest guest) => some (.guest guest :: places)
      | _ => none
  | .call =>
      match places.head? with
      | some (.guest _) => some (.host :: places)
      | _ => none
  | .leave _ =>
      match places with
      | [] => none
      | _ :: places => some places

/-- The run is well nested and ends in `places`. -/
def Nests (events : List Event) (places : Places) : Prop :=
  events.foldlM Event.move [] = some places

/-- A context that all artifacts share, with what has been read. -/
structure SharedContext where
  context : Context
  observed : List Observation

def SharedContext.step (shared : SharedContext) :
    Event → SharedContext
  | .access access _ =>
      ⟨(access.onContext shared.context).1,
        shared.observed ++ (access.onContext shared.context).2⟩
  | _ => shared

def SharedContext.run (shared : SharedContext) (events : List Event) :
    SharedContext :=
  events.foldl step shared

end Telekio.Crossing
