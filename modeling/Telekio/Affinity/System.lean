import Telekio.Interleave.Program
import Telekio.Affinity.Slot

/-!
# The holders of a runtime

`build`, `runtime_block_on`, `shutdown`, `release_runtime` and the part of
`shutdown_owner` that looks at runtimes, with every `Arc` of a `RuntimeOwner`:
the owner's map, a `build` call, a `release_runtime` call and the snapshot of
an owner shutdown. The drop of the last one drops what the runtime still
holds. Every call knows the thread it runs on; an owner shutdown is a future
and a blocking closure, whose moves may each be on another thread.
-/

namespace Telekio.Affinity

open Telekio.Interleave
open Telekio.Owner

/-- A `RuntimeOwner` behind its `Arc`s. -/
structure RuntimeOwner where
  kind : RuntimeKind
  strong : Nat
deriving DecidableEq, Repr

namespace RuntimeOwner

variable (runtime : RuntimeOwner)

def clone : RuntimeOwner :=
  { runtime with strong := runtime.strong + 1 }

/-- Dropping an `Arc`, and the `LocalRuntime` that goes with the last. -/
def dropArc : RuntimeOwner × Option LocalRuntime :=
  if runtime.strong ≤ 1 then
    (⟨.closed, 0⟩, runtime.kind.held)
  else
    ({ runtime with strong := runtime.strong - 1 }, none)

end RuntimeOwner

inductive Contact where
  | use
  | moveOut
  | drop
deriving DecidableEq, Repr

/-- A `LocalRuntime` was used, moved or dropped on a thread. -/
structure Touch where
  contact : Contact
  thread : Nat
  runtime : LocalRuntime
deriving DecidableEq, Repr

structure Shared where
  owner : OwnerState
  runtimes : RuntimeRef → Option RuntimeOwner
  touches : List Touch

namespace Shared

def fresh : Shared where
  owner := ownerState
  runtimes := fun _ => none
  touches := []

variable (shared : Shared)

def kind (runtime : RuntimeRef) : Option RuntimeKind :=
  (shared.runtimes runtime).map (·.kind)

def localOpen (runtime : RuntimeRef) : Bool :=
  (shared.kind runtime).any RuntimeKind.localOpen

def isClosed (runtime : RuntimeRef) : Bool :=
  (shared.kind runtime).any RuntimeKind.isClosed

/-- Change one `RuntimeOwner`. -/
def modify (runtime : RuntimeRef)
    (change : RuntimeOwner → RuntimeOwner) : Shared :=
  { shared with
    runtimes := Function.update shared.runtimes runtime
      ((shared.runtimes runtime).map change) }

/-- Record that a thread touches a `LocalRuntime`, if there is one. -/
def touch (contact : Contact) (thread : Nat) :
    Option LocalRuntime → Shared
  | some runtime =>
      { shared with
        touches := ⟨contact, thread, runtime⟩ :: shared.touches }
  | none => shared

end Shared

inductive Op where
  | skip
  | new (runtime : RuntimeRef) (kind : RuntimeKind)
  | registerRuntime (runtime : RuntimeRef)
  | unregisterRuntime (id : Nat)
  | close (runtime : RuntimeRef) (thread : Nat)
  | shutdownLocal (moved : LocalRuntime) (thread : Nat)
  | blockOn (runtime : RuntimeRef) (thread : Nat)
  | dropArc (runtime : RuntimeRef) (thread : Nat)
  | cutoff
  | cloneRuntimes (runtimes : List RuntimeRef)

namespace Op

/-- The `LocalRuntime` that an `Ok` result carries. -/
def carried : Except String (Option LocalRuntime) → Option LocalRuntime
  | .ok runtime => runtime
  | .error _ => none

def apply (op : Op) (shared : Shared) : Shared :=
  match op with
  | .skip => shared
  | .new runtime kind =>
      { shared with
        runtimes := Function.update shared.runtimes runtime
          (some ⟨kind, 1⟩) }
  -- a refused registration drops the clone it was given
  | .registerRuntime runtime =>
      match shared.owner.registerRuntime runtime with
      | (owner, .ok _) =>
          { shared with owner }.modify runtime RuntimeOwner.clone
      | (owner, .error _) => { shared with owner }
  | .unregisterRuntime id =>
      { shared with owner := shared.owner.unregisterRuntime id }
  | .close runtime thread =>
      match shared.runtimes runtime with
      | some held =>
          (shared.modify runtime fun held =>
            { held with kind := (held.kind.close thread).1 }).touch
            .moveOut thread (carried (held.kind.close thread).2)
      | none => shared
  | .shutdownLocal moved thread => shared.touch .drop thread (some moved)
  | .blockOn runtime thread =>
      match shared.runtimes runtime with
      | some held =>
          shared.touch .use thread (carried (held.kind.blockOn thread))
      | none => shared
  | .dropArc runtime thread =>
      match shared.runtimes runtime with
      | some held =>
          (shared.modify runtime fun held => held.dropArc.1).touch .drop
            thread held.dropArc.2
      | none => shared
  | .cutoff =>
      { shared with owner := (shared.owner.cutoff shared.localOpen).1 }
  | .cloneRuntimes runtimes =>
      runtimes.foldl
        (fun shared runtime => shared.modify runtime RuntimeOwner.clone)
        shared

end Op

/-! ## The calls -/

/-- `closed` holds what `close` has moved out, for `shutdown_local`; a call
that is `leaving` has its `Arc` to drop. -/
inductive BuildStage where
  | called
  | built (runtime : RuntimeRef)
  | leaving (runtime : RuntimeRef)
  | refused (runtime : RuntimeRef)
  | closing (runtime : RuntimeRef)
  | closed (runtime : RuntimeRef) (moved : Option LocalRuntime)
  | returned

inductive ShutdownStage where
  | called
  | closed (moved : LocalRuntime)
  | returned (result : Except String Unit)

inductive ReleaseStage where
  | called (id : Nat)
  | holding (runtime : RuntimeRef)
  | returned

/-- An owner shutdown; `closing` and `dropping` have the snapshot left. -/
inductive OwnerStage where
  | called
  | refused
  | cut
  | closing (runtimes : List RuntimeRef)
  | closed (runtime : RuntimeRef) (moved : Option LocalRuntime)
      (runtimes : List RuntimeRef)
  | dropping (runtimes : List RuntimeRef)

inductive Call where
  | build (thread : Nat) (stage : BuildStage)
  | blockOn (thread : Nat) (runtime : RuntimeRef)
      (result : Option (Except String Unit))
  | shutdown (thread : Nat) (runtime : RuntimeRef)
      (stage : ShutdownStage)
  | release (thread : Nat) (stage : ReleaseStage)
  | shutdownOwner (stage : OwnerStage)

namespace Call

inductive Starts : Call → Prop
  | build (thread : Nat) : Starts (.build thread .called)
  | blockOn (thread : Nat) (runtime : RuntimeRef) :
      Starts (.blockOn thread runtime none)
  | shutdown (thread : Nat) (runtime : RuntimeRef) :
      Starts (.shutdown thread runtime .called)
  | release (thread id : Nat) : Starts (.release thread (.called id))
  | shutdownOwner : Starts (.shutdownOwner .called)

/-- The plugin releases a `LocalRuntime` that is open on its own thread. -/
def OwnThread (shared : Shared) (id thread : Nat) : Prop :=
  ∀ runtime slot, shared.owner.state.runtimes.lookup id = some runtime →
    shared.kind runtime = some (.localSlot slot) → thread = slot.thread

inductive Acts (shared : Shared) : Call → Op → Call → Prop
  -- the owner refuses an activity, or `build_runtime` fails
  | buildFails {thread : Nat} :
      Acts shared (.build thread .called) .skip (.build thread .returned)
  | buildRuntime {thread : Nat} (runtime : RuntimeRef)
      (kind : RuntimeKind)
      (flavor : kind = .runtime ∨ kind = .localSlot (.new thread))
      (fresh : shared.runtimes runtime = none) :
      Acts shared (.build thread .called) (.new runtime kind)
        (.build thread (.built runtime))
  | register {thread : Nat} {runtime : RuntimeRef} {id : Nat}
      (admitted : (shared.owner.registerRuntime runtime).2 = .ok id) :
      Acts shared (.build thread (.built runtime))
        (.registerRuntime runtime) (.build thread (.leaving runtime))
  | refuse {thread : Nat} {runtime : RuntimeRef} {error : String}
      (refused :
        (shared.owner.registerRuntime runtime).2 = .error error) :
      Acts shared (.build thread (.built runtime))
        (.registerRuntime runtime) (.build thread (.refused runtime))
  | leave {thread : Nat} {runtime : RuntimeRef} :
      Acts shared (.build thread (.leaving runtime))
        (.dropArc runtime thread) (.build thread .returned)
  | closeHere {thread : Nat} {runtime : RuntimeRef}
      (localOpen : shared.localOpen runtime = true) :
      Acts shared (.build thread (.refused runtime)) .skip
        (.build thread (.closing runtime))
  | closeElsewhere {thread : Nat} {runtime : RuntimeRef} (other : Nat)
      (notLocal : shared.localOpen runtime = false) :
      Acts shared (.build thread (.refused runtime)) .skip
        (.build other (.closing runtime))
  | closeRefused {thread : Nat} {runtime : RuntimeRef}
      {held : RuntimeOwner} {moved : Option LocalRuntime}
      (known : shared.runtimes runtime = some held)
      (succeeded : (held.kind.close thread).2 = .ok moved) :
      Acts shared (.build thread (.closing runtime))
        (.close runtime thread) (.build thread (.closed runtime moved))
  | closeRefusedFails {thread : Nat} {runtime : RuntimeRef}
      {held : RuntimeOwner} {error : String}
      (known : shared.runtimes runtime = some held)
      (failed : (held.kind.close thread).2 = .error error) :
      Acts shared (.build thread (.closing runtime))
        (.close runtime thread) (.build thread (.leaving runtime))
  | shutdownRefused {thread : Nat} {runtime : RuntimeRef}
      {moved : LocalRuntime} :
      Acts shared (.build thread (.closed runtime (some moved)))
        (.shutdownLocal moved thread)
        (.build thread (.leaving runtime))
  | nothingMoved {thread : Nat} {runtime : RuntimeRef} :
      Acts shared (.build thread (.closed runtime none)) .skip
        (.build thread (.leaving runtime))
  | blockOn {thread : Nat} {runtime : RuntimeRef} {held : RuntimeOwner}
      (known : shared.runtimes runtime = some held) :
      Acts shared (.blockOn thread runtime none)
        (.blockOn runtime thread)
        (.blockOn thread runtime
          (some ((held.kind.blockOn thread).map fun _ => ())))
  | shutdown {thread : Nat} {runtime : RuntimeRef} {held : RuntimeOwner}
      {moved : LocalRuntime}
      (known : shared.runtimes runtime = some held)
      (succeeded : (held.kind.close thread).2 = .ok (some moved)) :
      Acts shared (.shutdown thread runtime .called)
        (.close runtime thread)
        (.shutdown thread runtime (.closed moved))
  | shutdownNothing {thread : Nat} {runtime : RuntimeRef}
      {held : RuntimeOwner} (known : shared.runtimes runtime = some held)
      (succeeded : (held.kind.close thread).2 = .ok none) :
      Acts shared (.shutdown thread runtime .called)
        (.close runtime thread)
        (.shutdown thread runtime (.returned (.ok ())))
  | shutdownFails {thread : Nat} {runtime : RuntimeRef}
      {held : RuntimeOwner} {error : String}
      (known : shared.runtimes runtime = some held)
      (failed : (held.kind.close thread).2 = .error error) :
      Acts shared (.shutdown thread runtime .called)
        (.close runtime thread)
        (.shutdown thread runtime (.returned (.error error)))
  | shutdownLocal {thread : Nat} {runtime : RuntimeRef}
      {moved : LocalRuntime} :
      Acts shared (.shutdown thread runtime (.closed moved))
        (.shutdownLocal moved thread)
        (.shutdown thread runtime (.returned (.ok ())))
  | release {thread id : Nat} {runtime : RuntimeRef}
      (registered :
        shared.owner.state.runtimes.lookup id = some runtime)
      (ownThread : OwnThread shared id thread) :
      Acts shared (.release thread (.called id)) (.unregisterRuntime id)
        (.release thread (.holding runtime))
  | releaseNothing {thread id : Nat}
      (absent : shared.owner.state.runtimes.lookup id = none) :
      Acts shared (.release thread (.called id)) (.unregisterRuntime id)
        (.release thread .returned)
  | dropReleased {thread : Nat} {runtime : RuntimeRef} :
      Acts shared (.release thread (.holding runtime))
        (.dropArc runtime thread) (.release thread .returned)
  | refuseCutoff {error : String}
      (refused :
        (shared.owner.cutoff shared.localOpen).2 = .error error) :
      Acts shared (.shutdownOwner .called) .cutoff
        (.shutdownOwner .refused)
  | cutoff {snapshot : Snapshot}
      (succeeded :
        (shared.owner.cutoff shared.localOpen).2 = .ok snapshot) :
      Acts shared (.shutdownOwner .called) .cutoff (.shutdownOwner .cut)
  | list :
      Acts shared (.shutdownOwner .cut)
        (.cloneRuntimes (shared.owner.runtimes shared.isClosed))
        (.shutdownOwner
          (.closing (shared.owner.runtimes shared.isClosed)))
  | ownerCloses (thread : Nat) {runtime : RuntimeRef}
      {runtimes : List RuntimeRef} {held : RuntimeOwner}
      {moved : Option LocalRuntime}
      (known : shared.runtimes runtime = some held)
      (succeeded : (held.kind.close thread).2 = .ok moved) :
      Acts shared (.shutdownOwner (.closing (runtime :: runtimes)))
        (.close runtime thread)
        (.shutdownOwner (.closed runtime moved runtimes))
  | ownerFails (thread : Nat) {runtime : RuntimeRef}
      {runtimes : List RuntimeRef} {held : RuntimeOwner} {error : String}
      (known : shared.runtimes runtime = some held)
      (failed : (held.kind.close thread).2 = .error error) :
      Acts shared (.shutdownOwner (.closing (runtime :: runtimes)))
        (.close runtime thread)
        (.shutdownOwner (.dropping (runtime :: runtimes)))
  | ownerShutsDown (thread : Nat) {runtime : RuntimeRef}
      {moved : LocalRuntime} {runtimes : List RuntimeRef} :
      Acts shared
        (.shutdownOwner (.closed runtime (some moved) runtimes))
        (.shutdownLocal moved thread)
        (.shutdownOwner (.closed runtime none runtimes))
  | ownerDrops (thread : Nat) {runtime : RuntimeRef}
      {runtimes : List RuntimeRef} :
      Acts shared (.shutdownOwner (.closed runtime none runtimes))
        (.dropArc runtime thread) (.shutdownOwner (.closing runtimes))
  -- the closure panics, or the host drops it unrun
  | abandon {runtimes : List RuntimeRef} :
      Acts shared (.shutdownOwner (.closing runtimes)) .skip
        (.shutdownOwner (.dropping runtimes))
  | dropSnapshot (thread : Nat) {runtime : RuntimeRef}
      {runtimes : List RuntimeRef} :
      Acts shared (.shutdownOwner (.dropping (runtime :: runtimes)))
        (.dropArc runtime thread) (.shutdownOwner (.dropping runtimes))

/-- The `Arc`s that a call holds. -/
def arcs : Call → List RuntimeRef
  | .build _ (.built runtime) => [runtime]
  | .build _ (.leaving runtime) => [runtime]
  | .build _ (.refused runtime) => [runtime]
  | .build _ (.closing runtime) => [runtime]
  | .build _ (.closed runtime _) => [runtime]
  | .release _ (.holding runtime) => [runtime]
  | .shutdownOwner (.closing runtimes) => runtimes
  | .shutdownOwner (.closed runtime _ runtimes) => runtime :: runtimes
  | .shutdownOwner (.dropping runtimes) => runtimes
  | _ => []

/-- The `LocalRuntime` that a call has moved out of its slot. -/
def moved : Call → Option LocalRuntime
  | .build _ (.closed _ moved) => moved
  | .shutdown _ _ (.closed moved) => some moved
  | .shutdownOwner (.closed _ moved _) => moved
  | _ => none

/-- The thread of a call that stays on one. -/
def thread : Call → Option Nat
  | .build thread _ => some thread
  | .blockOn thread _ _ => some thread
  | .shutdown thread _ _ => some thread
  | .release thread _ => some thread
  | .shutdownOwner _ => none

/-- An owner shutdown past its cutoff. -/
def pastCutoff : Call → Prop
  | .shutdownOwner .called => False
  | .shutdownOwner .refused => False
  | .shutdownOwner _ => True
  | _ => False

end Call

/-- The code around the runtimes of one owner. -/
def program : Program Shared Call Op where
  initial := fun shared => shared = Shared.fresh
  start := Call.Starts
  act := Call.Acts
  apply := Op.apply

abbrev World :=
  Interleave.World Shared Call

theorem reachable_fresh : program.Reachable (World.quiet Shared.fresh) :=
  Program.Reachable.quiet rfl

end Telekio.Affinity
