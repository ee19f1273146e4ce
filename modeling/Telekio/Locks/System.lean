import Telekio.Locks.State

/-!
# The calls that take the locks

`runtime_block_on`, `shutdown`, `build` and `release_runtime` of
`bridge/runtime/mod.rs`, and `shutdown_owner` and `detach` of
`bridge/owner.rs`, any number of each. The future of a `shutdown_owner` may be
dropped at an `await`, and another run may begin.
-/

namespace Telekio.Locks

open Telekio.Interleave
open Telekio.Owner

/-- `runtime_block_on`. `entered` runs the guest's future; `polling` is in
its `update_activity_waker` and `dropping` in the drop of the activity. A
kind that cannot run panics, which drops the guard first. -/
inductive BlockOn where
  | called
  | counted
  | entered
  | polling
  | dropping
  | leaving
  | refused
  | unwinding
  | returned
deriving DecidableEq, Repr

/-- A `LocalRuntime` runs on the thread that built it. -/
def runs (thread : Nat) : RuntimeKind → Bool
  | .runtime => true
  | .localRuntime origin => thread = origin
  | .closed => false

inductive BlockOn.Acts (shared : Shared) (thread : Nat)
    (runtime : RuntimeRef) : BlockOn → Op → BlockOn → Prop
  | activity (free : shared.scan = none)
      (accepting : shared.accepting = true) :
      BlockOn.Acts shared thread runtime .called .beginActivity .counted
  | notAccepting (free : shared.scan = none)
      (stopped : shared.accepting = false) :
      BlockOn.Acts shared thread runtime .called .beginActivity .returned
  | enter (unwritten : shared.writing runtime = false)
      (runs : runs thread (shared.kind runtime) = true) :
      BlockOn.Acts shared thread runtime .counted (.enter runtime true)
        .entered
  | enterRefused (unwritten : shared.writing runtime = false)
      (refuses : runs thread (shared.kind runtime) = false) :
      BlockOn.Acts shared thread runtime .counted (.enter runtime false)
        .refused
  | poll : BlockOn.Acts shared thread runtime .entered .skip .polling
  | polled (free : shared.scan = none) :
      BlockOn.Acts shared thread runtime .polling .skip .entered
  | ready : BlockOn.Acts shared thread runtime .entered .skip .dropping
  | dropped (free : shared.scan = none) :
      BlockOn.Acts shared thread runtime .dropping (.finish runtime)
        .leaving
  | leave : BlockOn.Acts shared thread runtime .leaving (.leave runtime)
      .returned
  | panicked : BlockOn.Acts shared thread runtime .entered
      (.unwind runtime) .unwinding
  | refused : BlockOn.Acts shared thread runtime .refused
      (.leave runtime) .unwinding
  | unwound (free : shared.scan = none) :
      BlockOn.Acts shared thread runtime .unwinding .endActivity .returned

/-- `build`. A runtime that the owner refuses is closed again, a
`LocalRuntime` on its own thread and another one on a new thread. -/
inductive Build where
  | called
  | building
  | registering (runtime : RuntimeRef)
  | refused (runtime : RuntimeRef)
  | checking (runtime : RuntimeRef)
  | closing (runtime : RuntimeRef) (close : Close)
  | dropping
  | returned
deriving DecidableEq

/-- The kinds that `build_runtime` makes on a thread. -/
inductive Builds (thread : Nat) : RuntimeKind → Prop
  | runtime : Builds thread .runtime
  | localRuntime : Builds thread (.localRuntime thread)

inductive Build.Acts (shared : Shared) (thread : Nat) :
    Build → Op → Build → Prop
  | activity (free : shared.scan = none)
      (accepting : shared.accepting = true) :
      Build.Acts shared thread .called .beginActivity .building
  | notAccepting (free : shared.scan = none)
      (stopped : shared.accepting = false) :
      Build.Acts shared thread .called .beginActivity .returned
  | built {kind : RuntimeKind} (builds : Builds thread kind) :
      Build.Acts shared thread .building (.create kind)
        (.registering shared.built)
  | failed : Build.Acts shared thread .building .skip .dropping
  | register {runtime : RuntimeRef} (free : shared.scan = none)
      (accepting : shared.accepting = true) :
      Build.Acts shared thread (.registering runtime) (.register runtime)
        .dropping
  | refuse {runtime : RuntimeRef} (free : shared.scan = none)
      (stopped : shared.accepting = false) :
      Build.Acts shared thread (.registering runtime) (.register runtime)
        (.refused runtime)
  | check {runtime : RuntimeRef}
      (unwritten : shared.writing runtime = false) :
      Build.Acts shared thread (.refused runtime) (.check runtime)
        (.checking runtime)
  | checked {runtime : RuntimeRef} :
      Build.Acts shared thread (.checking runtime) (.uncheck runtime)
        (.closing runtime .called)
  | close {runtime : RuntimeRef} {close next : Close} {op : Op}
      (acts : Close.Acts shared thread runtime close op next) :
      Build.Acts shared thread (.closing runtime close) op
        (.closing runtime next)
  | closed {runtime : RuntimeRef} {result : Except String Unit} :
      Build.Acts shared thread (.closing runtime (.returned result)) .skip
        .dropping
  | dropped (free : shared.scan = none) :
      Build.Acts shared thread .dropping .endActivity .returned

inductive Verdict where
  | succeeded
  | turnedAway
  | failed
  | dropped
deriving DecidableEq, Repr

/-- `shutdown_owner`. Each stage before `joining` keeps whether the run has
an activity of its own in `cleanup`. -/
inductive Shutdown where
  | called
  | cutoff (cleanup : Bool)
  | cutting (cleanup : Bool) (scanning : Scanning)
  | cut (cleanup : Bool)
  | listing (cleanup : Bool) (scanning : Scanning)
  | submitting (cleanup : Bool) (runtimes : List RuntimeRef)
  | turnedAway (cleanup : Bool)
  | nothing (cleanup : Bool)
  | joining (job : Nat)
  | idling
  | returned (verdict : Verdict)
deriving DecidableEq, Repr

inductive Shutdown.Acts (shared : Shared) : Shutdown → Op → Shutdown → Prop
  | callback (free : shared.scan = none) :
      Shutdown.Acts shared .called .beginActivity
        (.cutoff shared.accepting)
  | lock {cleanup : Bool} (free : shared.scan = none) :
      Shutdown.Acts shared (.cutoff cleanup) .lockState
        (.cutting cleanup (.next ⟨.cutoff, shared.values, []⟩))
  | cutting {cleanup : Bool} {scanning next : Scanning} {op : Op}
      (acts : Scanning.Acts shared scanning op next) :
      Shutdown.Acts shared (.cutting cleanup scanning) op
        (.cutting cleanup next)
  | turnedAway {cleanup : Bool} {found : List RuntimeRef} :
      Shutdown.Acts shared (.cutting cleanup (.done true found))
        .unlockState (.turnedAway cleanup)
  | cutoff {cleanup : Bool} {found : List RuntimeRef} :
      Shutdown.Acts shared (.cutting cleanup (.done false found)) .cutoff
        (.cut cleanup)
  | list {cleanup : Bool} (free : shared.scan = none) :
      Shutdown.Acts shared (.cut cleanup) .lockState
        (.listing cleanup (.next ⟨.runtimes, shared.values, []⟩))
  | listing {cleanup : Bool} {scanning next : Scanning} {op : Op}
      (acts : Scanning.Acts shared scanning op next) :
      Shutdown.Acts shared (.listing cleanup scanning) op
        (.listing cleanup next)
  | listed {cleanup stopped : Bool} {runtime : RuntimeRef}
      {found : List RuntimeRef} :
      Shutdown.Acts shared
        (.listing cleanup (.done stopped (runtime :: found)))
        .unlockState (.submitting cleanup (runtime :: found))
  | noRuntimes {cleanup stopped : Bool} :
      Shutdown.Acts shared (.listing cleanup (.done stopped []))
        .unlockState (.nothing cleanup)
  | submit {cleanup : Bool} {runtimes : List RuntimeRef} :
      Shutdown.Acts shared (.submitting cleanup runtimes)
        (.submit cleanup runtimes) (.joining shared.nextJob)
  | dropNothing (free : shared.scan = none) :
      Shutdown.Acts shared (.nothing true) .endActivity .idling
  | nothing : Shutdown.Acts shared (.nothing false) .skip .idling
  | dropTurnedAway (free : shared.scan = none) :
      Shutdown.Acts shared (.turnedAway true) .endActivity
        (.returned .turnedAway)
  | away : Shutdown.Acts shared (.turnedAway false) .skip
      (.returned .turnedAway)
  | joined {job : Nat} (ended : shared.jobs job = .ended true) :
      Shutdown.Acts shared (.joining job) .skip .idling
  | failed {job : Nat} (ended : shared.jobs job = .ended false) :
      Shutdown.Acts shared (.joining job) .skip (.returned .failed)
  | dropJoining {job : Nat} :
      Shutdown.Acts shared (.joining job) .skip (.returned .dropped)
  | busy (free : shared.scan = none) :
      Shutdown.Acts shared .idling .skip .idling
  | idle (free : shared.scan = none) (none : shared.activities = 0) :
      Shutdown.Acts shared .idling .skip (.returned .succeeded)
  | dropIdling : Shutdown.Acts shared .idling .skip (.returned .dropped)

/-- The closure that closes the runtimes, on a blocking thread. -/
inductive Worker where
  | called (job : Nat)
  | next (job : Nat) (cleanup : Bool) (left : List RuntimeRef)
  | closing (job : Nat) (cleanup : Bool) (left : List RuntimeRef)
      (runtime : RuntimeRef) (close : Close)
  | ending (job : Nat) (cleanup succeeded : Bool)
  | ended
deriving DecidableEq

inductive Worker.Acts (shared : Shared) (thread : Nat) :
    Worker → Op → Worker → Prop
  | take {job : Nat} {cleanup : Bool} {runtimes : List RuntimeRef}
      (waits : shared.jobs job = .waiting cleanup runtimes) :
      Worker.Acts shared thread (.called job) (.setJob job .running)
        (.next job cleanup runtimes)
  | next {job : Nat} {cleanup : Bool} {runtime : RuntimeRef}
      {left : List RuntimeRef} :
      Worker.Acts shared thread (.next job cleanup (runtime :: left)) .skip
        (.closing job cleanup left runtime .called)
  | close {job : Nat} {cleanup : Bool} {left : List RuntimeRef}
      {runtime : RuntimeRef} {close next : Close} {op : Op}
      (acts : Close.Acts shared thread runtime close op next) :
      Worker.Acts shared thread (.closing job cleanup left runtime close) op
        (.closing job cleanup left runtime next)
  | closed {job : Nat} {cleanup : Bool} {left : List RuntimeRef}
      {runtime : RuntimeRef} :
      Worker.Acts shared thread
        (.closing job cleanup left runtime (.returned (.ok ()))) .skip
        (.next job cleanup left)
  | failed {job : Nat} {cleanup : Bool} {left : List RuntimeRef}
      {runtime : RuntimeRef} {error : String} :
      Worker.Acts shared thread
        (.closing job cleanup left runtime (.returned (.error error))) .skip
        (.ending job cleanup false)
  | finished {job : Nat} {cleanup : Bool} :
      Worker.Acts shared thread (.next job cleanup []) .skip
        (.ending job cleanup true)
  | dropped {job : Nat} {succeeded : Bool} (free : shared.scan = none) :
      Worker.Acts shared thread (.ending job true succeeded) .endActivity
        (.ending job false succeeded)
  | ended {job : Nat} {succeeded : Bool} :
      Worker.Acts shared thread (.ending job false succeeded)
        (.setJob job (.ended succeeded)) .ended

/-- `OwnerState::detach`. -/
inductive Detach where
  | called
  | scanning (scanning : Scanning)
  | returned (succeeded : Bool)
deriving DecidableEq, Repr

inductive Detach.Acts (shared : Shared) : Detach → Op → Detach → Prop
  | early (free : shared.scan = none)
      (alive : shared.accepting = true ∨ shared.activities ≠ 0) :
      Detach.Acts shared .called .skip (.returned false)
  | lock (free : shared.scan = none)
      (stopped : shared.accepting = false)
      (idle : shared.activities = 0) :
      Detach.Acts shared .called .lockState
        (.scanning (.next ⟨.detach, shared.values, []⟩))
  | scan {scanning next : Scanning} {op : Op}
      (acts : Scanning.Acts shared scanning op next) :
      Detach.Acts shared (.scanning scanning) op (.scanning next)
  | live {found : List RuntimeRef} :
      Detach.Acts shared (.scanning (.done true found)) .unlockState
        (.returned false)
  | clear {found : List RuntimeRef} :
      Detach.Acts shared (.scanning (.done false found)) .clear
        (.returned true)

/-! ## The program -/

/-- `close` is the guest's `shutdown` of a runtime. -/
inductive Thread where
  | blockOn (thread : Nat) (runtime : RuntimeRef) (call : BlockOn)
  | close (thread : Nat) (runtime : RuntimeRef) (call : Close)
  | build (thread : Nat) (call : Build)
  | release (id : Nat) (released : Bool)
  | shutdown (run : Shutdown)
  | worker (thread : Nat) (worker : Worker)
  | detach (call : Detach)
deriving DecidableEq

inductive Thread.Starts : Thread → Prop
  | blockOn (thread : Nat) (runtime : RuntimeRef) :
      Thread.Starts (.blockOn thread runtime .called)
  | close (thread : Nat) (runtime : RuntimeRef) :
      Thread.Starts (.close thread runtime .called)
  | build (thread : Nat) : Thread.Starts (.build thread .called)
  | release (id : Nat) : Thread.Starts (.release id false)
  | shutdown : Thread.Starts (.shutdown .called)
  | worker (thread job : Nat) :
      Thread.Starts (.worker thread (.called job))
  | detach : Thread.Starts (.detach .called)

inductive Thread.Acts (shared : Shared) : Thread → Op → Thread → Prop
  | blockOn {thread : Nat} {runtime : RuntimeRef} {call next : BlockOn}
      {op : Op} (acts : BlockOn.Acts shared thread runtime call op next) :
      Thread.Acts shared (.blockOn thread runtime call) op
        (.blockOn thread runtime next)
  | close {thread : Nat} {runtime : RuntimeRef} {call next : Close}
      {op : Op} (acts : Close.Acts shared thread runtime call op next) :
      Thread.Acts shared (.close thread runtime call) op
        (.close thread runtime next)
  | build {thread : Nat} {call next : Build} {op : Op}
      (acts : Build.Acts shared thread call op next) :
      Thread.Acts shared (.build thread call) op (.build thread next)
  | release {id : Nat} (free : shared.scan = none) :
      Thread.Acts shared (.release id false) (.unregister id)
        (.release id true)
  | shutdown {run next : Shutdown} {op : Op}
      (acts : Shutdown.Acts shared run op next) :
      Thread.Acts shared (.shutdown run) op (.shutdown next)
  | worker {thread : Nat} {worker next : Worker} {op : Op}
      (acts : Worker.Acts shared thread worker op next) :
      Thread.Acts shared (.worker thread worker) op (.worker thread next)
  | detach {call next : Detach} {op : Op}
      (acts : Detach.Acts shared call op next) :
      Thread.Acts shared (.detach call) op (.detach next)

def program : Program Shared Thread Op where
  initial := fun shared => shared = Shared.fresh
  start := Thread.Starts
  act := Thread.Acts
  apply := Op.apply

abbrev World := Interleave.World Shared Thread

def Scanning.wants : Scanning → Option (Lock × Mode)
  | .waiting _ runtime => some (.kind runtime, .read)
  | _ => none

/-- The runtime whose kind a scan reads. -/
def Scanning.reads : Scanning → Option RuntimeRef
  | .reading _ runtime => some runtime
  | _ => none

def Close.wants (runtime : RuntimeRef) : Close → Option (Lock × Mode)
  | .queued => some (.kind runtime, .write)
  | _ => none

def BlockOn.wants (runtime : RuntimeRef) : BlockOn → Option (Lock × Mode)
  | .called => some (.state, .write)
  | .counted => some (.kind runtime, .read)
  | .polling => some (.state, .write)
  | .dropping => some (.state, .write)
  | .unwinding => some (.state, .write)
  | _ => none

def BlockOn.reads : BlockOn → Bool
  | .entered => true
  | .polling => true
  | .dropping => true
  | .leaving => true
  | .refused => true
  | _ => false

def Build.wants : Build → Option (Lock × Mode)
  | .called => some (.state, .write)
  | .registering _ => some (.state, .write)
  | .refused runtime => some (.kind runtime, .read)
  | .closing runtime close => close.wants runtime
  | .dropping => some (.state, .write)
  | _ => none

def Shutdown.wants : Shutdown → Option (Lock × Mode)
  | .called => some (.state, .write)
  | .cutoff _ => some (.state, .write)
  | .cutting _ scan => scan.wants
  | .cut _ => some (.state, .write)
  | .listing _ scan => scan.wants
  | .turnedAway true => some (.state, .write)
  | .nothing true => some (.state, .write)
  | .idling => some (.state, .write)
  | _ => none

def Worker.wants : Worker → Option (Lock × Mode)
  | .closing _ _ _ runtime close => close.wants runtime
  | .ending _ true _ => some (.state, .write)
  | _ => none

def Detach.wants : Detach → Option (Lock × Mode)
  | .called => some (.state, .write)
  | .scanning scan => scan.wants
  | _ => none

def Thread.wants : Thread → Option (Lock × Mode)
  | .blockOn _ runtime call => call.wants runtime
  | .close _ runtime call => call.wants runtime
  | .build _ call => call.wants
  | .release _ false => some (.state, .write)
  | .shutdown run => run.wants
  | .worker _ closure => closure.wants
  | .detach call => call.wants
  | _ => none

/-- The scan that a thread makes; it holds `state`. -/
def Thread.scanning : Thread → Option Scanning
  | .shutdown (.cutting _ scan) => some scan
  | .shutdown (.listing _ scan) => some scan
  | .detach (.scanning scan) => some scan
  | _ => none

/-- The kind that a thread has for reading. -/
def Thread.reads : Thread → Option RuntimeRef
  | .blockOn _ runtime call => if call.reads then some runtime else none
  | .build _ (.checking runtime) => some runtime
  | .shutdown (.cutting _ scan) => scan.reads
  | .shutdown (.listing _ scan) => scan.reads
  | .detach (.scanning scan) => scan.reads
  | _ => none

/-- The kind that a thread has for writing. -/
def Thread.writes : Thread → Option RuntimeRef
  | .close _ runtime .writing => some runtime
  | .build _ (.closing runtime .writing) => some runtime
  | .worker _ (.closing _ _ _ runtime .writing) => some runtime
  | _ => none

def Thread.holds (thread : Thread) : Lock → Option Mode
  | .state => if thread.scanning.isSome then some .write else none
  | .kind runtime =>
      if thread.writes = some runtime then
        some .write
      else if thread.reads = some runtime then
        some .read
      else
        none

/-- The locks of the threads. -/
def locking : Locking Thread Lock where
  holds := Thread.holds
  wants := Thread.wants

end Telekio.Locks
