import Telekio.Interleave.Waiting
import Telekio.Owner.Objects

/-!
# The locks of an owner and of its runtimes

The mutex `state` of `OwnerState` and the `RwLock` `kind` of every
`RuntimeOwner`. A section of `state` that takes no other lock is one step;
`local_open` and `is_closed` are called inside one, so the scans of the
runtimes hold it over many. Of `OwnerStatus` only the runtimes and the number
of activities matter here.
-/

namespace Telekio.Locks

open Telekio.Interleave
open Telekio.Owner

inductive Lock where
  | state
  | kind (runtime : RuntimeRef)
deriving DecidableEq, Repr

/-- A closure of `spawn_blocking` in `shutdown_owner`. -/
inductive Job where
  | none
  | waiting (cleanup : Bool) (runtimes : List RuntimeRef)
  | running
  | ended (succeeded : Bool)
deriving DecidableEq, Repr

/-- `scan` is the mutex `state`: free, or held by a scan that waits for the
kind of some runtime or for none. `readers`, `writing` and `queued` are the
locks `kind` with the writers that wait. `entered` counts the calls of
`runtime_block_on` that read a kind and have still to take `state`. The
runtimes built so far are the numbers below `built`. -/
structure Shared where
  accepting : Bool
  activities : Nat
  runtimes : Table RuntimeRef
  nextId : Nat
  built : Nat
  kind : RuntimeRef → RuntimeKind
  scan : Option (Option RuntimeRef)
  readers : RuntimeRef → Nat
  writing : RuntimeRef → Bool
  queued : RuntimeRef → Nat
  entered : RuntimeRef → Nat
  jobs : Nat → Job
  nextJob : Nat

namespace Shared

def fresh : Shared where
  accepting := true
  activities := 0
  runtimes := ∅
  nextId := 1
  built := 0
  kind := fun _ => .closed
  scan := none
  readers := fun _ => 0
  writing := fun _ => false
  queued := fun _ => 0
  entered := fun _ => 0
  jobs := fun _ => .none
  nextJob := 0

variable (shared : Shared)

/-- `state.runtimes.values()`. -/
def values : List RuntimeRef :=
  Table.values shared.runtimes

def setJob (job : Nat) (next : Job) : Shared :=
  { shared with jobs := Function.update shared.jobs job next }

end Shared

/-- `n - 1` and `n + 1` at one place of a counter. -/
def increment (counter : RuntimeRef → Nat) (runtime : RuntimeRef) :
    RuntimeRef → Nat :=
  Function.update counter runtime (counter runtime + 1)

def decrement (counter : RuntimeRef → Nat) (runtime : RuntimeRef) :
    RuntimeRef → Nat :=
  Function.update counter runtime (counter runtime - 1)

/-- The steps. `beginActivity` is `activity` and `callback`, `endActivity`
the drop of what they return; `enter` and `leave` take and drop the guard of
`runtime_block_on`, `finish` drops its activity under the guard and `unwind`
the guard before the activity. `check` and `uncheck` are the `local_open` of
`build`, `look` and `unlook` the guards of a scan. -/
inductive Op where
  | skip
  | beginActivity
  | endActivity
  | enter (runtime : RuntimeRef) (runs : Bool)
  | finish (runtime : RuntimeRef)
  | unwind (runtime : RuntimeRef)
  | leave (runtime : RuntimeRef)
  | queue (runtime : RuntimeRef)
  | write (runtime : RuntimeRef)
  | close (runtime : RuntimeRef) (thread : Nat)
  | lockState
  | wait (runtime : RuntimeRef)
  | look (runtime : RuntimeRef)
  | unlook (runtime : RuntimeRef)
  | unlockState
  | cutoff
  | clear
  | create (kind : RuntimeKind)
  | register (runtime : RuntimeRef)
  | check (runtime : RuntimeRef)
  | uncheck (runtime : RuntimeRef)
  | unregister (id : Nat)
  | submit (cleanup : Bool) (runtimes : List RuntimeRef)
  | setJob (job : Nat) (next : Job)
deriving DecidableEq, Repr

namespace Op

def apply (op : Op) (shared : Shared) : Shared :=
  match op with
  | .skip => shared
  | .beginActivity =>
      if shared.accepting then
        { shared with activities := shared.activities + 1 }
      else
        shared
  | .endActivity => { shared with activities := shared.activities - 1 }
  | .enter runtime runs =>
      { shared with
        readers := increment shared.readers runtime
        entered :=
          if runs then
            increment shared.entered runtime
          else
            shared.entered }
  | .finish runtime =>
      { shared with
        activities := shared.activities - 1
        entered := decrement shared.entered runtime }
  | .unwind runtime =>
      { shared with
        readers := decrement shared.readers runtime
        entered := decrement shared.entered runtime }
  | .leave runtime =>
      { shared with readers := decrement shared.readers runtime }
  | .queue runtime =>
      { shared with queued := increment shared.queued runtime }
  | .write runtime =>
      { shared with
        queued := decrement shared.queued runtime
        writing := Function.update shared.writing runtime true }
  | .close runtime thread =>
      { shared with
        kind :=
          Function.update shared.kind runtime
            ((shared.kind runtime).close thread).1
        writing := Function.update shared.writing runtime false }
  | .lockState => { shared with scan := some none }
  | .wait runtime => { shared with scan := some (some runtime) }
  | .look runtime =>
      { shared with
        readers := increment shared.readers runtime
        scan := some none }
  | .unlook runtime =>
      { shared with readers := decrement shared.readers runtime }
  | .unlockState => { shared with scan := none }
  | .cutoff => { shared with accepting := false, scan := none }
  | .clear => { shared with runtimes := ∅, scan := none }
  | .create kind =>
      { shared with
        kind := Function.update shared.kind shared.built kind
        built := shared.built + 1 }
  | .register runtime =>
      if shared.accepting then
        { shared with
          runtimes := shared.runtimes.insert shared.nextId runtime
          nextId := shared.nextId + 1 }
      else
        shared
  | .check runtime =>
      { shared with readers := increment shared.readers runtime }
  | .uncheck runtime =>
      { shared with readers := decrement shared.readers runtime }
  | .unregister id =>
      { shared with runtimes := shared.runtimes.erase id }
  | .submit cleanup runtimes =>
      { shared.setJob shared.nextJob (.waiting cleanup runtimes) with
        nextJob := shared.nextJob + 1 }
  | .setJob job next => shared.setJob job next

end Op

/-- `RuntimeOwner::close`, called on the given thread. -/
inductive Close where
  | called
  | queued
  | writing
  | returned (result : Except String Unit)
deriving DecidableEq

/-- The thread takes `kind` for writing, closes it and drops the guard. -/
inductive Close.Acts (shared : Shared) (thread : Nat)
    (runtime : RuntimeRef) : Close → Op → Close → Prop
  | queue : Close.Acts shared thread runtime .called (.queue runtime) .queued
  | write (unwritten : shared.writing runtime = false)
      (unread : shared.readers runtime = 0) :
      Close.Acts shared thread runtime .queued (.write runtime) .writing
  | close : Close.Acts shared thread runtime .writing
      (.close runtime thread)
      (.returned ((shared.kind runtime).close thread).2)

/-- The scans: `local_open` at the cutoff, `is_closed` in `runtimes` and in
`detach`. -/
inductive Purpose where
  | cutoff
  | runtimes
  | detach
deriving DecidableEq, Repr

/-- `any` stops at the first runtime that it looks for. -/
def Purpose.stops (purpose : Purpose) (kind : RuntimeKind) : Bool :=
  match purpose with
  | .cutoff => kind.localOpen
  | .runtimes => false
  | .detach => !kind.isClosed

/-- A scan with the runtimes left and the open ones found. -/
structure Scan where
  purpose : Purpose
  left : List RuntimeRef
  found : List RuntimeRef
deriving DecidableEq, Repr

/-- `filter` keeps the open runtimes. -/
def Scan.keep (scan : Scan) (runtime : RuntimeRef) (kind : RuntimeKind) :
    Scan :=
  if kind.isClosed then
    scan
  else
    { scan with found := scan.found ++ [runtime] }

inductive Scanning where
  | next (scan : Scan)
  | waiting (scan : Scan) (runtime : RuntimeRef)
  | reading (scan : Scan) (runtime : RuntimeRef)
  | done (stopped : Bool) (found : List RuntimeRef)
deriving DecidableEq, Repr

/-- A scan takes the kinds for reading, one after the other. -/
inductive Scanning.Acts (shared : Shared) :
    Scanning → Op → Scanning → Prop
  | wait {purpose : Purpose} {runtime : RuntimeRef}
      {left found : List RuntimeRef} :
      Scanning.Acts shared (.next ⟨purpose, runtime :: left, found⟩)
        (.wait runtime) (.waiting ⟨purpose, left, found⟩ runtime)
  | look {scan : Scan} {runtime : RuntimeRef}
      (unwritten : shared.writing runtime = false) :
      Scanning.Acts shared (.waiting scan runtime) (.look runtime)
        (.reading scan runtime)
  | pass {scan : Scan} {runtime : RuntimeRef}
      (passes : scan.purpose.stops (shared.kind runtime) = false) :
      Scanning.Acts shared (.reading scan runtime) (.unlook runtime)
        (.next (scan.keep runtime (shared.kind runtime)))
  | stop {scan : Scan} {runtime : RuntimeRef}
      (stops : scan.purpose.stops (shared.kind runtime) = true) :
      Scanning.Acts shared (.reading scan runtime) (.unlook runtime)
        (.done true scan.found)
  | finish {purpose : Purpose} {found : List RuntimeRef} :
      Scanning.Acts shared (.next ⟨purpose, [], found⟩) .skip
        (.done false found)

end Telekio.Locks
