import Telekio.Bridge.System
import Telekio.Interleave.Counting
import Telekio.Interleave.Layer

/-!
# The host threads that call into a plugin

A layer over the system of one owner: the host threads of the runtimes that
the plugin builds, which run its builder callbacks until they end; the calls
of `RuntimeOwner::close` that end them, or do not wait for it; and the worker
observers, which the workers clone out of `WorkerObservers` and call and drop
outside its lock.
-/

namespace Telekio.Hooks

open Telekio.Interleave
open Telekio.Owner

/-- `telekio_abi::Shutdown`. -/
inductive ShutdownMode where
  | wait
  | background
  | timeout
deriving DecidableEq, Repr

/-- Who has taken a `Runtime` out of its `RuntimeOwner`: a call of the
plugin, or the host on a thread of its own. -/
inductive Closer where
  | guest
  | host
deriving DecidableEq, Repr

/-- A `Runtime` that was dropped has `joined` its threads; after the other
modes they are on their own. -/
inductive RuntimeStage where
  | absent
  | running
  | taken (closer : Closer)
  | joined
  | abandoned
deriving DecidableEq, Repr

/-- The end of a `close` that has taken the `Runtime`. -/
def RuntimeStage.finish (mode : ShutdownMode) :
    RuntimeStage → RuntimeStage
  | .taken _ => if mode = .wait then .joined else .abandoned
  | stage => stage

theorem RuntimeStage.finish_eq_running {mode : ShutdownMode}
    {stage : RuntimeStage} (runs : stage.finish mode = .running) :
    stage = .running := by
  cases stage with
  | taken closer => cases mode <;> cases runs
  | _ => exact runs

theorem RuntimeStage.finish_ne_taken {mode : ShutdownMode}
    {stage : RuntimeStage} {closer : Closer} :
    stage.finish mode ≠ .taken closer := by
  intro taken
  cases stage with
  | taken closer => cases mode <;> cases taken
  | _ => cases taken

/-- `threads` counts the host threads of each runtime, each of which holds
its builder callbacks; `observed` tells whether the observer of a context is
in `WorkerObservers`, and `clones` counts its clones outside. -/
structure Shared where
  bridge : Bridge.Shared
  runtimes : RuntimeRef → RuntimeStage
  threads : RuntimeRef → Nat
  observed : ContextRef → Bool
  clones : ContextRef → Nat
  detached : Bool

def Shared.fresh : Shared where
  bridge := Bridge.Shared.fresh
  runtimes := fun _ => .absent
  threads := fun _ => 0
  observed := fun _ => false
  clones := fun _ => 0
  detached := false

/-- The owner accepts a `detach`. -/
def Shared.detachable (shared : Shared) : Prop :=
  (shared.bridge.owner.detach shared.bridge.runtimeClosed
    shared.bridge.resourceClosed).2 = .ok ()

/-- A close by the given thread takes the `Runtime` out. -/
def Shared.takes (shared : Shared) (runtime : RuntimeRef)
    (thread : Nat) : Bool :=
  (shared.runtimes runtime = .running) &&
    (shared.bridge.runtimes runtime).any fun kind =>
      (kind.close thread).1.isClosed

/-- A host thread of the runtime is started by its pool, by another thread
of the runtime, or for a task that the owner has admitted while the pool is
being shut down. -/
def Shared.startable (shared : Shared) (runtime : RuntimeRef) : Prop :=
  shared.runtimes runtime = .running ∨ shared.threads runtime ≠ 0 ∨
    ((∃ closer, shared.runtimes runtime = .taken closer) ∧
      shared.bridge.owner.idle = false)

/-- `release` tells whether it drops the last reference to the
`RuntimeOwner`. -/
inductive Op where
  | bridge (op : Bridge.Op)
  | close (runtime : RuntimeRef) (thread : Nat) (closer : Closer)
  | release (id : Nat) (runtime : RuntimeRef) (last : Bool)
  | finishClose (runtime : RuntimeRef) (mode : ShutdownMode)
  | startThread (runtime : RuntimeRef)
  | callHook (runtime : RuntimeRef)
  | exitThread (runtime : RuntimeRef)
  | cloneObserver (context : ContextRef)
  | dropClone (context : ContextRef)

namespace Op

/-- The operation of the owner's system behind an operation. -/
def below : Op → Option Bridge.Op
  | .bridge op => some op
  | .close runtime thread _ => some (.closeRuntime runtime thread)
  | .release id _ _ => some (.unregisterRuntime id)
  | _ => none

def bridgeState (op : Op) (shared : Shared) : Bridge.Shared :=
  match op.below with
  | some op => op.apply shared.bridge
  | none => shared.bridge

def runtimes (op : Op) (shared : Shared) : RuntimeRef → RuntimeStage :=
  match op with
  | .bridge (.newRuntime runtime _) =>
      Function.update shared.runtimes runtime .running
  | .close runtime thread closer =>
      if shared.takes runtime thread then
        Function.update shared.runtimes runtime (.taken closer)
      else
        shared.runtimes
  | .release _ runtime last =>
      if last && (shared.runtimes runtime = .running) then
        Function.update shared.runtimes runtime (.taken .guest)
      else
        shared.runtimes
  | .finishClose runtime mode =>
      Function.update shared.runtimes runtime
        ((shared.runtimes runtime).finish mode)
  | _ => shared.runtimes

def threads (op : Op) (shared : Shared) : RuntimeRef → Nat :=
  match op with
  | .startThread runtime =>
      Function.update shared.threads runtime
        (shared.threads runtime + 1)
  | .exitThread runtime =>
      Function.update shared.threads runtime
        (shared.threads runtime - 1)
  | _ => shared.threads

/-- The `WorkerObserver` of a context removes its observer when the context
is dropped, with its record. -/
def observed (op : Op) (shared : Shared) : ContextRef → Bool :=
  fun context =>
    (match op with
      | .bridge (.observeWorkers observer) =>
          shared.observed context || (observer = context)
      | _ => shared.observed context) &&
    ((op.bridgeState shared).owner.state.handles.lookup context).isSome

def clones (op : Op) (shared : Shared) : ContextRef → Nat :=
  match op with
  | .cloneObserver context =>
      Function.update shared.clones context (shared.clones context + 1)
  | .dropClone context =>
      Function.update shared.clones context (shared.clones context - 1)
  | _ => shared.clones

def detached (op : Op) (shared : Shared) : Bool :=
  match op with
  | .bridge .detach =>
      shared.detached ||
        ((shared.bridge.owner.detach shared.bridge.runtimeClosed
          shared.bridge.resourceClosed).2.isOk)
  | _ => shared.detached

def apply (op : Op) (shared : Shared) : Shared where
  bridge := op.bridgeState shared
  runtimes := op.runtimes shared
  threads := op.threads shared
  observed := op.observed shared
  clones := op.clones shared
  detached := op.detached shared

/-- The operations that the owner's system performs as they are. -/
def plain : Bridge.Op → Prop
  | .closeRuntime _ _ => False
  | .unregisterRuntime _ => False
  | _ => True

end Op

/-! ## The threads -/

/-- A `RuntimeOwner::close` that has taken the `Runtime` and not returned. -/
structure Closing where
  runtime : RuntimeRef
  mode : ShutdownMode
  closer : Closer
deriving DecidableEq, Repr

/-- An observer on its way through the loop of `start` or `tick`. -/
inductive Observation where
  | called
  | cloned
  | dropped
deriving DecidableEq, Repr

/-- A worker or blocking thread of a runtime. -/
inductive Worker where
  | unborn
  | alive
  | exited
deriving DecidableEq, Repr

inductive Thread where
  | call (thread : Bridge.Thread) (closing : Option Closing)
  | observation (entry : Bridge.Entry) (context : ContextRef)
      (stage : Observation)
  | worker (runtime : RuntimeRef) (stage : Worker)

namespace Thread

/-- The calls of `close`: a `build` call that was refused, a `shutdown` of
the plugin in any mode, and the closure of an owner shutdown. -/
def closes (shared : Shared) (runtime : RuntimeRef) :
    Bridge.Thread → Closer → ShutdownMode → Prop
  | .build build, closer, mode =>
      if build.stage = .refused runtime then
        closer = .host ∧
          mode = if shared.bridge.localOpen runtime then .background
            else .wait
      else
        closer = .guest
  | .shutdown _, closer, mode => closer = .host ∧ mode = .wait
  | _, _, _ => False

inductive Starts : Thread → Prop
  | call {thread : Bridge.Thread} (starts : Bridge.Thread.Starts thread)
      (notObserver :
        thread ≠ .entry (Bridge.Entry.start .workerObserver)) :
      Starts (.call thread none)
  | observation (context : ContextRef) :
      Starts (.observation (Bridge.Entry.start .workerObserver) context
        .called)
  | worker (runtime : RuntimeRef) : Starts (.worker runtime .unborn)

inductive Acts (shared : Shared) : Thread → Op → Thread → Prop
  | call {thread next : Bridge.Thread} {op : Bridge.Op}
      (acts : Bridge.Thread.Acts shared.bridge thread op next)
      (plain : Op.plain op) :
      Acts shared (.call thread none) (.bridge op) (.call next none)
  | close {thread next : Bridge.Thread} {runtime : RuntimeRef}
      {origin : Nat} {closer : Closer} {mode : ShutdownMode}
      (acts : Bridge.Thread.Acts shared.bridge thread
        (.closeRuntime runtime origin) next)
      (closes : closes shared runtime thread closer mode)
      (takes : shared.takes runtime origin = true) :
      Acts shared (.call thread none) (.close runtime origin closer)
        (.call next (some ⟨runtime, mode, closer⟩))
  | closeNothing {thread next : Bridge.Thread} {runtime : RuntimeRef}
      {origin : Nat} {closer : Closer} {mode : ShutdownMode}
      (acts : Bridge.Thread.Acts shared.bridge thread
        (.closeRuntime runtime origin) next)
      (closes : closes shared runtime thread closer mode)
      (takesNot : shared.takes runtime origin = false) :
      Acts shared (.call thread none) (.close runtime origin closer)
        (.call next none)
  -- the drop of the last reference drops the `Runtime` in it
  | releaseLast {build next : Bridge.Build} {runtime : RuntimeRef}
      {id : Nat} (live : build.runtime = .registered runtime id)
      (acts : Bridge.Build.Acts shared.bridge build
        (.unregisterRuntime id) next)
      (running : shared.runtimes runtime = .running) :
      Acts shared (.call (.build build) none) (.release id runtime true)
        (.call (.build next) (some ⟨runtime, .wait, .guest⟩))
  | release {build next : Bridge.Build} {runtime : RuntimeRef}
      {id : Nat} {last : Bool}
      (live : build.runtime = .registered runtime id)
      (acts : Bridge.Build.Acts shared.bridge build
        (.unregisterRuntime id) next)
      (keeps : last = false ∨ shared.runtimes runtime ≠ .running) :
      Acts shared (.call (.build build) none) (.release id runtime last)
        (.call (.build next) none)
  -- the future goes on, or is dropped, while its closure closes a runtime
  | future {run next : Bridge.Shutdown} {op : Bridge.Op}
      {closing : Closing}
      (acts : Bridge.Shutdown.Acts shared.bridge run op next)
      (plain : Op.plain op) (same : next.closure = run.closure) :
      Acts shared (.call (.shutdown run) (some closing)) (.bridge op)
        (.call (.shutdown next) (some closing))
  | finishClose {thread : Bridge.Thread} {closing : Closing}
      (joined : closing.mode = .wait →
        shared.threads closing.runtime = 0) :
      Acts shared (.call thread (some closing))
        (.finishClose closing.runtime closing.mode) (.call thread none)
  | clone {entry : Bridge.Entry} {context : ContextRef}
      (observed : shared.observed context = true) :
      Acts shared (.observation entry context .called)
        (.cloneObserver context) (.observation entry context .cloned)
  | observe {entry next : Bridge.Entry} {context : ContextRef}
      {op : Bridge.Op}
      (acts : Bridge.Entry.Acts shared.bridge entry op next) :
      Acts shared (.observation entry context .cloned) (.bridge op)
        (.observation next context .cloned)
  | dropClone {entry : Bridge.Entry} {context : ContextRef}
      (returned : entry.stage = .returned) :
      Acts shared (.observation entry context .cloned)
        (.dropClone context) (.observation entry context .dropped)
  | start {runtime : RuntimeRef}
      (startable : shared.startable runtime) :
      Acts shared (.worker runtime .unborn) (.startThread runtime)
        (.worker runtime .alive)
  | hook {runtime : RuntimeRef} :
      Acts shared (.worker runtime .alive) (.callHook runtime)
        (.worker runtime .alive)
  | exit {runtime : RuntimeRef} :
      Acts shared (.worker runtime .alive) (.exitThread runtime)
        (.worker runtime .exited)

/-- The move of a host thread calls a callback of the plugin or drops a
reference to one: a host thread of a runtime from its start (which asks for
its name) to its end, an observer inside its call or at its drop, and the
host at the end of a close of its own. -/
def runsGuest : Thread → Op → Prop
  | .worker _ _, _ => True
  | .observation entry _ _, .bridge _ =>
      ∃ wakers, entry.stage = .inside wakers
  | .observation _ _ _, .dropClone _ => True
  | .call _ (some closing), .finishClose _ _ => closing.closer = .host
  | _, _ => False

/-- The part of a thread that the owner's system knows. -/
def down : Thread → Option Bridge.Thread
  | .call thread _ => some thread
  | .observation entry _ _ => some (.entry entry)
  | .worker _ _ => none

end Thread

/-- The code around the callbacks of one plugin. -/
def program : Program Shared Thread Op where
  initial := fun shared => shared = Shared.fresh
  start := Thread.Starts
  act := Thread.Acts
  apply := Op.apply

abbrev World :=
  Interleave.World Shared Thread

/-- The owner's system is the lower part of this one. -/
theorem bridgeLayer : program.Layer Bridge.program Shared.bridge
    Thread.down where
  initially := by
    rintro state rfl
    rfl
  starts := by
    intro first found starts has
    cases starts with
    | call starts notObserver =>
        cases has
        exact starts
    | observation context =>
        cases has
        exact .entry .workerObserver
    | worker runtime => cases has
  moves := by
    intro state current op next acts
    cases acts with
    | call acts plain => exact Or.inl ⟨_, _, _, rfl, rfl, acts, rfl⟩
    | close acts closes takes =>
        exact Or.inl ⟨_, _, _, rfl, rfl, acts, rfl⟩
    | closeNothing acts closes takesNot =>
        exact Or.inl ⟨_, _, _, rfl, rfl, acts, rfl⟩
    | releaseLast live acts running =>
        exact Or.inl ⟨_, _, _, rfl, rfl, .build acts, rfl⟩
    | release live acts keeps =>
        exact Or.inl ⟨_, _, _, rfl, rfl, .build acts, rfl⟩
    | future acts plain same =>
        exact Or.inl ⟨_, _, _, rfl, rfl, .shutdown acts, rfl⟩
    | observe acts => exact Or.inl ⟨_, _, _, rfl, rfl, .entry acts, rfl⟩
    | _ => exact Or.inr ⟨rfl, rfl⟩

end Telekio.Hooks
