import Telekio.Interleave.Ownership
import Telekio.Interleave.Balancing
import Telekio.Interleave.Layer
import Telekio.Owner.State

/-!
# References to host handles

One plugin and the owners that try to attach it. A reference to a
`HandleContext` is a `Handle`, a `Runtime` or a raw handle on its way through
the ABI. A value that no call is moving rests somewhere in the plugin; the
static `ATTACHED` is a place of its own. The calls are `attach` with the
plugin's attach entry, the build of a runtime, and the operations of a client
on one value.
-/

namespace Telekio.Handles

open Telekio.Interleave
open Telekio.Owner

inductive RefKind where
  | handle
  | runtime
  | raw
deriving DecidableEq, Repr

structure Ref where
  kind : RefKind
  context : ContextRef
deriving DecidableEq, Repr

/-- `published` tells which owners a plugin is attached to; `failed` that a
`retain_handle` or `release_handle` has returned an error. -/
structure Shared where
  owners : Nat → Option OwnerState
  contextOwner : ContextRef → Option Nat
  attached : Option ContextRef
  published : Nat → Bool
  resting : List Ref
  failed : Bool

namespace Shared

def fresh : Shared where
  owners := fun _ => none
  contextOwner := fun _ => none
  attached := none
  published := fun _ => false
  resting := []
  failed := false

variable (shared : Shared)

/-- The owner behind `context.owner`. -/
def ownerOf (context : ContextRef) : Option OwnerState :=
  (shared.contextOwner context).bind shared.owners

def setOwner (owner : Nat) (state : OwnerState) : Shared :=
  { shared with owners := Function.update shared.owners owner state }

def retainHandle (context : ContextRef) : Except String Unit :=
  match shared.ownerOf context with
  | some state => (state.retainHandle context).2
  | none => .error handleDetached

/-- The references that the record of a context counts. -/
def references (context : ContextRef) : Nat :=
  match shared.ownerOf context with
  | some state =>
      (state.state.handles.lookup context).elim 0 HandleRecord.references
  | none => 0

/-- The context has a record. -/
def recorded (context : ContextRef) : Prop :=
  ∃ state handle, shared.ownerOf context = some state ∧
    state.state.handles.lookup context = some handle

end Shared

/-- `newContext` is `handle_context` and `raw_handle`; `newOwner` is
`owner_state` and then the same, at the beginning of `attach`. -/
inductive Op where
  | skip
  | newOwner (owner : Nat) (context : ContextRef)
  | newContext (owner : Nat) (context : ContextRef)
  | retain (context : ContextRef)
  | release (context : ContextRef)
  | install (context : ContextRef) (owner : Nat)
  | put (ref : Ref)
  | take (ref : Ref)
  | releaseRuntimeFails

def Op.apply (op : Op) (shared : Shared) : Shared :=
  match op with
  | .skip => shared
  | .newOwner owner context =>
      { shared.setOwner owner (ownerState.exportHandle context) with
        contextOwner :=
          Function.update shared.contextOwner context owner }
  | .newContext owner context =>
      match shared.owners owner with
      | some state =>
          { shared.setOwner owner (state.exportHandle context) with
            contextOwner :=
              Function.update shared.contextOwner context owner }
      | none => shared
  | .retain context =>
      match shared.contextOwner context, shared.ownerOf context with
      | some owner, some state =>
          { shared.setOwner owner (state.retainHandle context).1 with
            failed :=
              shared.failed || !(state.retainHandle context).2.isOk }
      | _, _ => { shared with failed := true }
  | .release context =>
      match shared.contextOwner context, shared.ownerOf context with
      | some owner, some state =>
          { shared.setOwner owner (state.releaseHandle context).1 with
            failed :=
              shared.failed || !(state.releaseHandle context).2.isOk }
      | _, _ => { shared with failed := true }
  | .install context owner =>
      { shared with
        attached := some context
        published := Function.update shared.published owner true }
  | .put ref => { shared with resting := ref :: shared.resting }
  | .take ref => { shared with resting := shared.resting.erase ref }
  | .releaseRuntimeFails => shared

/-! ## The calls -/

/-- What the plugin was built with: the guest runtime, the guest without a
runtime, or no guest. -/
inductive AttachEntry where
  | runtime
  | plain
  | disabled
deriving DecidableEq, Repr

/-- `cloned` while the clone is an argument of `build_attached_context`,
`built` once it is in the `Connection` of the built `Runtime`; `failing` and
`refusing` on the two ways out with one reference left. -/
inductive AttachStage where
  | called
  | entered
  | owned
  | cloned
  | built
  | failing
  | refusing
  | attached
  | failed
deriving DecidableEq, Repr

structure Attach where
  entry : AttachEntry
  owner : Nat
  context : ContextRef
  stage : AttachStage
deriving DecidableEq, Repr

/-- A build through the attached handle: the `Clone` of the handle, which is
dropped after the host has built. -/
inductive Build where
  | called
  | cloned (context : ContextRef)
  | built (context runtime : ContextRef)
  | failed (context : ContextRef)
  | carried (runtime : ContextRef)
  | returned
deriving DecidableEq, Repr

/-- A client with a value in its hands; `released` is inside the drop of a
`Runtime`, after `release_runtime`. -/
inductive Client where
  | idle
  | holding (ref : Ref)
  | released (context : ContextRef)
deriving DecidableEq, Repr

inductive Thread where
  | attach (attach : Attach)
  | build (build : Build)
  | client (client : Client)
deriving DecidableEq, Repr

/-- The references in the hands of an attach call; after a success, the
`Connection` of the `Runtime` behind the `RawAttachment` has one. -/
def Attach.refs (attach : Attach) : List Ref :=
  match attach.stage with
  | .entered => [⟨.raw, attach.context⟩]
  | .owned => [⟨.handle, attach.context⟩]
  | .cloned => [⟨.handle, attach.context⟩, ⟨.handle, attach.context⟩]
  | .built => [⟨.handle, attach.context⟩, ⟨.handle, attach.context⟩]
  | .failing => [⟨.handle, attach.context⟩]
  | .refusing => [⟨.handle, attach.context⟩]
  | .attached =>
      if attach.entry = .runtime then [⟨.handle, attach.context⟩] else []
  | _ => []

def Build.refs : Build → List Ref
  | .cloned context => [⟨.handle, context⟩]
  | .built context runtime => [⟨.handle, context⟩, ⟨.raw, runtime⟩]
  | .failed context => [⟨.handle, context⟩]
  | .carried runtime => [⟨.raw, runtime⟩]
  | _ => []

def Client.refs : Client → List Ref
  | .holding ref => [ref]
  | .released context => [⟨.runtime, context⟩]
  | .idle => []

namespace Thread

def refs : Thread → List Ref
  | .attach call => call.refs
  | .build call => call.refs
  | .client call => call.refs

inductive Starts : Thread → Prop
  | attach (entry : AttachEntry) (owner : Nat) (context : ContextRef) :
      Starts (.attach ⟨entry, owner, context, .called⟩)
  | build : Starts (.build .called)
  | client : Starts (.client .idle)

end Thread

inductive Attach.Acts (shared : Shared) : Attach → Op → Attach → Prop
  | enter {attach : Attach} (called : attach.stage = .called)
      (newOwner : shared.owners attach.owner = none)
      (fresh : shared.contextOwner attach.context = none) :
      Attach.Acts shared attach (.newOwner attach.owner attach.context)
        { attach with stage := .entered }
  | fromAbi {attach : Attach} (entered : attach.stage = .entered) :
      Attach.Acts shared attach .skip { attach with stage := .owned }
  | dropDisabled {attach : Attach} (disabled : attach.entry = .disabled)
      (owned : attach.stage = .owned) :
      Attach.Acts shared attach (.release attach.context)
        { attach with stage := .failed }
  | clone {attach : Attach} (isRuntime : attach.entry = .runtime)
      (owned : attach.stage = .owned)
      (succeeded : shared.retainHandle attach.context = .ok ()) :
      Attach.Acts shared attach (.retain attach.context)
        { attach with stage := .cloned }
  | cloneFails {attach : Attach} {error : String}
      (isRuntime : attach.entry = .runtime)
      (owned : attach.stage = .owned)
      (failed : shared.retainHandle attach.context = .error error) :
      Attach.Acts shared attach (.retain attach.context)
        { attach with stage := .failing }
  | build {attach : Attach} (cloned : attach.stage = .cloned) :
      Attach.Acts shared attach .skip { attach with stage := .built }
  -- the guest context cannot be built, or its build panics
  | buildFails {attach : Attach} (cloned : attach.stage = .cloned) :
      Attach.Acts shared attach (.release attach.context)
        { attach with stage := .failing }
  | leaveFailing {attach : Attach} (failing : attach.stage = .failing) :
      Attach.Acts shared attach (.release attach.context)
        { attach with stage := .failed }
  | install {attach : Attach} (isRuntime : attach.entry = .runtime)
      (built : attach.stage = .built)
      (vacant : shared.attached = none) :
      Attach.Acts shared attach (.install attach.context attach.owner)
        { attach with stage := .attached }
  -- `install_handle` gives the handle back, or panics
  | refuse {attach : Attach} (built : attach.stage = .built) :
      Attach.Acts shared attach (.release attach.context)
        { attach with stage := .refusing }
  | leaveRefusing {attach : Attach}
      (refusing : attach.stage = .refusing) :
      Attach.Acts shared attach (.release attach.context)
        { attach with stage := .failed }
  | installPlain {attach : Attach} (plain : attach.entry = .plain)
      (owned : attach.stage = .owned)
      (vacant : shared.attached = none) :
      Attach.Acts shared attach (.install attach.context attach.owner)
        { attach with stage := .attached }
  | refusePlain {attach : Attach} (plain : attach.entry = .plain)
      (owned : attach.stage = .owned) :
      Attach.Acts shared attach (.release attach.context)
        { attach with stage := .failed }

inductive Build.Acts (shared : Shared) : Build → Op → Build → Prop
  | clone {context : ContextRef} (attached : shared.attached = context)
      (succeeded : shared.retainHandle context = .ok ()) :
      Build.Acts shared .called (.retain context) (.cloned context)
  | cloneFails {context : ContextRef} {error : String}
      (attached : shared.attached = context)
      (failed : shared.retainHandle context = .error error) :
      Build.Acts shared .called (.retain context) .returned
  | build {context : ContextRef} {owner : Nat} (runtime : ContextRef)
      (known : shared.contextOwner context = some owner)
      (fresh : shared.contextOwner runtime = none) :
      Build.Acts shared (.cloned context) (.newContext owner runtime)
        (.built context runtime)
  | buildFails {context : ContextRef} :
      Build.Acts shared (.cloned context) .skip (.failed context)
  | dropClone {context runtime : ContextRef} :
      Build.Acts shared (.built context runtime) (.release context)
        (.carried runtime)
  | dropFailed {context : ContextRef} :
      Build.Acts shared (.failed context) (.release context) .returned
  | intoRuntime {runtime : ContextRef} :
      Build.Acts shared (.carried runtime) (.put ⟨.runtime, runtime⟩)
        .returned

/-- A value may be cloned that rests somewhere or is in `ATTACHED`. -/
def Shared.clonable (shared : Shared) (context : ContextRef) : Prop :=
  shared.attached = some context ∨
    ∃ kind, kind ≠ .raw ∧ ⟨kind, context⟩ ∈ shared.resting

inductive Client.Acts (shared : Shared) : Client → Op → Client → Prop
  -- `Handle::clone` and `Runtime::handle`
  | clone {context : ContextRef} (clonable : shared.clonable context)
      (succeeded : shared.retainHandle context = .ok ()) :
      Client.Acts shared .idle (.retain context)
        (.holding ⟨.handle, context⟩)
  | cloneFails {context : ContextRef} {error : String}
      (clonable : shared.clonable context)
      (failed : shared.retainHandle context = .error error) :
      Client.Acts shared .idle (.retain context) .idle
  | put {ref : Ref} : Client.Acts shared (.holding ref) (.put ref) .idle
  | take {ref : Ref} (resting : ref ∈ shared.resting) :
      Client.Acts shared .idle (.take ref) (.holding ref)
  | intoAbi {context : ContextRef} :
      Client.Acts shared (.holding ⟨.handle, context⟩) .skip
        (.holding ⟨.raw, context⟩)
  | fromAbi {context : ContextRef} :
      Client.Acts shared (.holding ⟨.raw, context⟩) .skip
        (.holding ⟨.handle, context⟩)
  | dropHandle {context : ContextRef} :
      Client.Acts shared (.holding ⟨.handle, context⟩) (.release context)
        .idle
  | releaseRuntime {context : ContextRef} :
      Client.Acts shared (.holding ⟨.runtime, context⟩) .skip
        (.released context)
  -- the drop of the `Runtime` unwinds here
  | releaseRuntimeFails {context : ContextRef} :
      Client.Acts shared (.holding ⟨.runtime, context⟩)
        .releaseRuntimeFails .idle
  | releaseHandle {context : ContextRef} :
      Client.Acts shared (.released context) (.release context) .idle

inductive Thread.Acts (shared : Shared) : Thread → Op → Thread → Prop
  | attach {attach next : Attach} {op : Op}
      (acts : Attach.Acts shared attach op next) :
      Acts shared (.attach attach) op (.attach next)
  | build {build next : Build} {op : Op}
      (acts : Build.Acts shared build op next) :
      Acts shared (.build build) op (.build next)
  | client {client next : Client} {op : Op}
      (acts : Client.Acts shared client op next) :
      Acts shared (.client client) op (.client next)

/-- The code around the host handles of one plugin. -/
def program : Program Shared Thread Op where
  initial := fun shared => shared = Shared.fresh
  start := Thread.Starts
  act := Thread.Acts
  apply := Op.apply

abbrev World :=
  Interleave.World Shared Thread

/-- The runs in which every `release_runtime` of a drop succeeds. -/
def Allowed (_ : Shared) (op : Op) : Prop :=
  op ≠ .releaseRuntimeFails

theorem reachable_fresh : program.Reachable (World.quiet Shared.fresh) :=
  Program.Reachable.quiet rfl

/-- The references to a context that rest in the plugin. -/
def Shared.rests (shared : Shared) (context : ContextRef) : Nat :=
  shared.resting.countP (·.context = context) +
    if shared.attached = some context then 1 else 0

/-- The references to a context in the hands of a call. -/
def Thread.holds (context : ContextRef) (thread : Thread) : Nat :=
  thread.refs.countP (·.context = context)

end Telekio.Handles
