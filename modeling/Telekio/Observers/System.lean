import Telekio.Interleave.Layer
import Telekio.Observers.State

/-!
# The threads that run the workers

Whoever takes the core of a worker starts a tenure of it: `run` calls `start`
and then polls tasks, with a `tick` in every turn. A task in `block_in_place`
puts the core back for another thread, keeps its scheduler context, and takes
the core again if it is still there when the blocking is over. Observers are
added and removed by tasks and by threads outside the runtime.
-/

namespace Telekio.Observers

open Telekio.Interleave

/-- `core worker` tells whether the core is in its slot. The rest is history:
the tenures so far, the one that has called `start` last for each worker, and
the ids whose `add` has returned. -/
structure Shared where
  state : WorkerObservers
  core : Nat → Bool
  tenures : Nat
  tenant : Nat → Option Nat
  returned : Finset Nat

namespace Shared

structure Initial (shared : Shared) : Prop where
  state : shared.state = .new shared.state.workers
  core : ∀ worker, shared.core worker = true →
    worker < shared.state.workers
  tenures : shared.tenures = 0
  tenant : ∀ worker, shared.tenant worker = none
  returned : shared.returned = ∅

end Shared

/-- One tenure of `worker` on one thread: the ids that have been called with
`worker` on the thread since its `start`, and those whose `add` had returned
when its latest complete tick began. -/
structure Tenure where
  worker : Nat
  number : Nat
  heard : List Nat
  covered : Finset Nat

/-- A turn of a thread inside `run`, `polling` while it holds the core and
`blocked` while it does not. `calls` are the observers still to call; `seen`
are the ids whose `add` had returned when the tick began. In `adding` the
observer is called first, if it is `told`. -/
inductive Stage where
  | taken
  | starting (calls : List Nat)
  | polling
  | swapped (seen : Finset Nat)
  | ticking (calls : List Nat) (seen : Finset Nat)
  | blocked
  | adding (id : Nat) (told : Bool) (core : Bool)

/-- Where an `add` leaves a thread. -/
def Stage.back : Bool → Stage
  | true => .polling
  | false => .blocked

inductive Thread where
  | outside
  | adding (id : Nat)
  | worker (tenure : Tenure) (stage : Stage)

/-- The atomic operations, by the source's names. -/
inductive Op where
  | skip
  | takeCore (worker : Nat)
  | setCore (worker : Nat)
  | retakeCore (worker number : Nat)
  | start (worker number : Nat)
  | swap (worker : Nat)
  | take (worker : Nat)
  | add (current : Option Nat)
  | addAsWorker (worker number : Nat)
  | remove (id : Nat)
  | returned (id : Nat)

def Op.apply (op : Op) (shared : Shared) : Shared :=
  match op with
  | .skip => shared
  | .takeCore worker =>
      { shared with
        core := Function.update shared.core worker false
        tenures := shared.tenures + 1 }
  | .setCore worker =>
      { shared with core := Function.update shared.core worker true }
  | .retakeCore worker _ =>
      { shared with core := Function.update shared.core worker false }
  | .start worker number =>
      { shared with
        state := shared.state.start worker
        tenant := Function.update shared.tenant worker (some number) }
  | .swap worker => { shared with state := shared.state.swap worker }
  | .take worker => { shared with state := shared.state.take worker }
  | .add current => { shared with state := shared.state.add current }
  | .addAsWorker worker _ =>
      { shared with state := shared.state.add (some worker) }
  | .remove id => { shared with state := shared.state.remove id }
  | .returned id =>
      { shared with returned := insert id shared.returned }

namespace Tenure

variable (tenure : Tenure)

/-- The observer `id` is called with the worker. -/
def hear (id : Nat) : Tenure :=
  { tenure with heard := id :: tenure.heard }

/-- A tick is complete. -/
def cover (seen : Finset Nat) : Tenure :=
  { tenure with covered := seen }

end Tenure

/-- One step inside `run`. -/
inductive Stage.Acts (shared : Shared) :
    Tenure → Stage → Op → Thread → Prop
  | start {tenure : Tenure} {calls : List Nat} (distinct : calls.Nodup)
      (all : calls.toFinset = shared.state.observers) :
      Stage.Acts shared tenure .taken
        (.start tenure.worker tenure.number)
        (.worker tenure (.starting calls))
  | callStarting {tenure : Tenure} {id : Nat} {calls : List Nat} :
      Stage.Acts shared tenure (.starting (id :: calls)) .skip
        (.worker (tenure.hear id) (.starting calls))
  -- the observer panics, and the core is dropped with the thread's `run`
  | unwindStarting {tenure : Tenure} {id : Nat} {calls : List Nat} :
      Stage.Acts shared tenure (.starting (id :: calls)) .skip .outside
  | started {tenure : Tenure} :
      Stage.Acts shared tenure (.starting []) .skip
        (.worker tenure .polling)
  | tickEarly {tenure : Tenure}
      (clear : shared.state.flag tenure.worker = false) :
      Stage.Acts shared tenure .polling (.swap tenure.worker)
        (.worker (tenure.cover shared.returned) .polling)
  | swap {tenure : Tenure}
      (raised : shared.state.flag tenure.worker = true) :
      Stage.Acts shared tenure .polling (.swap tenure.worker)
        (.worker tenure (.swapped shared.returned))
  | take {tenure : Tenure} {seen : Finset Nat} :
      Stage.Acts shared tenure (.swapped seen) (.take tenure.worker)
        (.worker tenure
          (.ticking (shared.state.taken tenure.worker) seen))
  | callTicking {tenure : Tenure} {id : Nat} {calls : List Nat}
      {seen : Finset Nat} :
      Stage.Acts shared tenure (.ticking (id :: calls) seen) .skip
        (.worker (tenure.hear id) (.ticking calls seen))
  | unwindTicking {tenure : Tenure} {id : Nat} {calls : List Nat}
      {seen : Finset Nat} :
      Stage.Acts shared tenure (.ticking (id :: calls) seen) .skip .outside
  | ticked {tenure : Tenure} {seen : Finset Nat} :
      Stage.Acts shared tenure (.ticking [] seen) .skip
        (.worker (tenure.cover seen) .polling)
  | shutdown {tenure : Tenure} :
      Stage.Acts shared tenure .polling .skip .outside
  | blockInPlace {tenure : Tenure} :
      Stage.Acts shared tenure .polling (.setCore tenure.worker)
        (.worker tenure .blocked)
  | retake {tenure : Tenure} (there : shared.core tenure.worker = true) :
      Stage.Acts shared tenure .blocked
        (.retakeCore tenure.worker tenure.number)
        (.worker tenure .polling)
  | leave {tenure : Tenure} :
      Stage.Acts shared tenure .blocked .skip .outside
  | add {tenure : Tenure} :
      Stage.Acts shared tenure .polling
        (.addAsWorker tenure.worker tenure.number)
        (.worker tenure (.adding shared.state.nextId true true))
  | addBlocked {tenure : Tenure} :
      Stage.Acts shared tenure .blocked
        (.addAsWorker tenure.worker tenure.number)
        (.worker tenure (.adding shared.state.nextId true false))
  -- inside another runtime the scheduler context is not the worker's
  | addElsewhere {tenure : Tenure} :
      Stage.Acts shared tenure .blocked (.add none)
        (.worker tenure (.adding shared.state.nextId false false))
  | callAdding {tenure : Tenure} {id : Nat} {core : Bool} :
      Stage.Acts shared tenure (.adding id true core) .skip
        (.worker (tenure.hear id) (.adding id false core))
  -- the observer panics, and `add` does not return
  | unwindAdding {tenure : Tenure} {id : Nat} {core : Bool} :
      Stage.Acts shared tenure (.adding id true core) .skip
        (.worker (tenure.hear id) (.back core))
  | added {tenure : Tenure} {id : Nat} {core : Bool} :
      Stage.Acts shared tenure (.adding id false core) (.returned id)
        (.worker tenure (.back core))
  | remove {tenure : Tenure} {id : Nat} :
      Stage.Acts shared tenure .polling (.remove id)
        (.worker tenure .polling)
  | removeBlocked {tenure : Tenure} {id : Nat} :
      Stage.Acts shared tenure .blocked (.remove id)
        (.worker tenure .blocked)

inductive Thread.Acts (shared : Shared) : Thread → Op → Thread → Prop
  | run {worker : Nat} (there : shared.core worker = true) :
      Thread.Acts shared .outside (.takeCore worker)
        (.worker ⟨worker, shared.tenures, [], ∅⟩ .taken)
  | worker {tenure : Tenure} {stage : Stage} {op : Op} {next : Thread}
      (acts : Stage.Acts shared tenure stage op next) :
      Thread.Acts shared (.worker tenure stage) op next
  | add :
      Thread.Acts shared .outside (.add none)
        (.adding shared.state.nextId)
  | added {id : Nat} :
      Thread.Acts shared (.adding id) (.returned id) .outside
  | remove {id : Nat} :
      Thread.Acts shared .outside (.remove id) .outside

/-- The threads that run the workers of one runtime, and the others. -/
def program : Program Shared Thread Op where
  initial := Shared.Initial
  start := fun first => first = .outside
  act := Thread.Acts
  apply := Op.apply

abbrev World :=
  Interleave.World Shared Thread

/-- No other thread has called `start` for the worker since the tenure
did. -/
def Allowed (shared : Shared) : Op → Prop
  | .addAsWorker worker number | .retakeCore worker number =>
      shared.tenant worker = some number
  | _ => True

end Telekio.Observers
