import Mathlib.Data.List.Basic

/-!
# The descriptors of one waker

`Waker` of `telekio-abi/src/abi/waker.rs`, with its callbacks and the vtable
of its wrappers. An artifact keeps the Rust wakers that it makes; only
descriptors pass from one to another. The native references to the waker that
they all come from are numbered: `0` is the waker itself, the others are its
clones.
-/

namespace Telekio.Wakers

/-- `std::task::Waker`: a native reference, or a wrapper with the
`RAW_WAKER_VTABLE` of `artifact` around a descriptor with the callbacks of
another and the waker that they interpret. -/
inductive RustWaker where
  | native (reference : Nat)
  | wrapper (artifact callbacks : Nat) (target : RustWaker)
deriving DecidableEq, Repr

/-- `Waker`: whose callbacks it has, and its `data` and `vtable`. -/
structure Descriptor where
  callbacks : Nat
  target : RustWaker
deriving DecidableEq, Repr

namespace RustWaker

def depth : RustWaker → Nat
  | .native _ => 0
  | .wrapper _ _ target => target.depth + 1

/-- The native reference at the bottom. -/
def reference : RustWaker → Nat
  | .native reference => reference
  | .wrapper _ _ target => target.reference

/-- What `clone` makes of a waker, with a new native reference. -/
def clone (fresh : Nat) : RustWaker → RustWaker
  | .native _ => .native fresh
  | .wrapper artifact callbacks target =>
      .wrapper artifact callbacks (target.clone fresh)

/-- How often `wake` or `wake_by_ref` reaches the originating waker. -/
def wakes : RustWaker → Nat
  | .native _ => 1
  | .wrapper _ _ target => target.wakes

end RustWaker

namespace Descriptor

/-- `from_ref` in `artifact`, which knows its own vtable. -/
def fromRef (artifact : Nat) : RustWaker → Descriptor
  | .native reference => ⟨artifact, .native reference⟩
  | .wrapper owner callbacks target =>
      if owner = artifact then
        ⟨callbacks, target⟩
      else
        ⟨artifact, .wrapper owner callbacks target⟩

variable (descriptor : Descriptor)

/-- The waker that `borrow` makes in `artifact`. -/
def borrow (artifact : Nat) : RustWaker :=
  .wrapper artifact descriptor.callbacks descriptor.target

/-- An artifact unwraps the wrappers that it has made. -/
@[simp]
theorem fromRef_borrow (artifact : Nat) :
    fromRef artifact (descriptor.borrow artifact) = descriptor := by
  rw [borrow, fromRef, if_pos rfl]

/-- The descriptor that the callback `clone` writes. -/
def clone (fresh : Nat) : Descriptor :=
  { descriptor with target := descriptor.target.clone fresh }

end Descriptor

/-- `originating` tells whether the waker itself is alive, `owned` has the
live owned wrappers, and `descriptors` those that have been made, each with
the reference that has to outlive it. The rest is history: the native clones,
the references that have been woken or dropped by value, the latest first, the
wakes that have reached the originating waker, and whether a reference was
used that is not alive. -/
structure State where
  origin : Nat
  originating : Bool
  owned : List RustWaker
  descriptors : List (Descriptor × Nat)
  clones : Nat
  consumed : List Nat
  wakes : Nat
  stale : Bool

namespace State

/-- The waker has not been passed to anybody. -/
def start (origin : Nat) : State where
  origin := origin
  originating := true
  owned := []
  descriptors := []
  clones := 0
  consumed := []
  wakes := 0
  stale := false

variable (state : State)

def isAlive (reference : Nat) : Bool :=
  if reference = 0 then
    state.originating
  else
    reference ≤ state.clones ∧ reference ∉ state.consumed

/-- A callback works on a native reference. -/
def use (reference : Nat) : State :=
  { state with stale := state.stale || !state.isAlive reference }

def describe (descriptor : Descriptor) (source : Nat) : State :=
  { state with
    descriptors := (descriptor, source) :: state.descriptors }

/-- `raw_clone` in `artifact`; the native clone may panic. -/
def rawClone (artifact : Nat) (descriptor : Descriptor)
    (panics : Bool) : State :=
  let used := state.use descriptor.target.reference
  if panics then
    used
  else
    { used with
      owned := (descriptor.clone (state.clones + 1)).borrow artifact ::
        state.owned
      clones := state.clones + 1 }

def rawWakeByRef (descriptor : Descriptor) : State :=
  { state.use descriptor.target.reference with
    wakes := state.wakes + descriptor.target.wakes }

/-- The native reference is moved into the callback. -/
def consume (descriptor : Descriptor) (owned : List RustWaker) : State :=
  { state.use descriptor.target.reference with
    owned := owned
    consumed := descriptor.target.reference :: state.consumed }

/-- `raw_wake` of a wrapper that leaves the others. -/
def rawWake (descriptor : Descriptor) (owned : List RustWaker) : State :=
  { state.consume descriptor owned with
    wakes := state.wakes + descriptor.target.wakes }

/-- `raw_drop` of a wrapper that leaves the others. -/
def rawDrop (descriptor : Descriptor) (owned : List RustWaker) : State :=
  state.consume descriptor owned

end State

/-- What an artifact does. A wake or a drop by value is that of an owned
wrapper around a native reference. -/
inductive Operation where
  | describe
  | clone (panics : Bool)
  | wakeByRef
  | wake (reference : Nat)
  | drop (reference : Nat)
  | endOriginating
deriving DecidableEq, Repr

namespace Operation

/-- Somebody asks for a wake. -/
def isWake : Operation → Bool
  | .wakeByRef => true
  | .wake _ => true
  | _ => false

/-- The reference of the wrapper that is given up. -/
def consumed : Operation → Option Nat
  | .wake reference => some reference
  | .drop reference => some reference
  | _ => none

end Operation

/-- One operation of some artifact. A descriptor is used only while the waker
it was made from is alive. A `wake` or a release that panics has consumed its
reference all the same. -/
inductive Step (state : State) : Operation → State → Prop
  | fromOriginating (alive : state.originating = true) :
      Step state .describe
        (state.describe (.fromRef state.origin (.native 0)) 0)
  | fromOwned {artifact callbacks : Nat} {target : RustWaker}
      (owned : .wrapper artifact callbacks target ∈ state.owned) :
      Step state .describe
        (state.describe
          (.fromRef artifact (.wrapper artifact callbacks target))
          target.reference)
  | fromBorrowed (artifact : Nat) {descriptor : Descriptor} {source : Nat}
      (known : (descriptor, source) ∈ state.descriptors)
      (alive : state.isAlive source = true) :
      Step state .describe
        (state.describe (.fromRef artifact (descriptor.borrow artifact))
          source)
  -- `clone_rust_waker`, and `clone` of a borrowed wrapper
  | cloneBorrowed (artifact : Nat) (panics : Bool)
      {descriptor : Descriptor} {source : Nat}
      (known : (descriptor, source) ∈ state.descriptors)
      (alive : state.isAlive source = true) :
      Step state (.clone panics)
        (state.rawClone artifact descriptor panics)
  | cloneOwned (panics : Bool) {artifact callbacks : Nat}
      {target : RustWaker}
      (owned : .wrapper artifact callbacks target ∈ state.owned) :
      Step state (.clone panics)
        (state.rawClone artifact ⟨callbacks, target⟩ panics)
  | wakeByRefBorrowed {descriptor : Descriptor} {source : Nat}
      (known : (descriptor, source) ∈ state.descriptors)
      (alive : state.isAlive source = true) :
      Step state .wakeByRef (state.rawWakeByRef descriptor)
  | wakeByRefOwned {artifact callbacks : Nat} {target : RustWaker}
      (owned : .wrapper artifact callbacks target ∈ state.owned) :
      Step state .wakeByRef (state.rawWakeByRef ⟨callbacks, target⟩)
  | wake {artifact callbacks : Nat} {target : RustWaker}
      {before after : List RustWaker}
      (owned : state.owned =
        before ++ .wrapper artifact callbacks target :: after) :
      Step state (.wake target.reference)
        (state.rawWake ⟨callbacks, target⟩ (before ++ after))
  | drop {artifact callbacks : Nat} {target : RustWaker}
      {before after : List RustWaker}
      (owned : state.owned =
        before ++ .wrapper artifact callbacks target :: after) :
      Step state (.drop target.reference)
        (state.rawDrop ⟨callbacks, target⟩ (before ++ after))
  | endOriginating :
      Step state .endOriginating { state with originating := false }

/-- The operations of any artifacts, in any order, on one originating waker;
the latest comes first. -/
inductive Runs (origin : Nat) : List Operation → State → Prop
  | start : Runs origin [] (.start origin)
  | step {operations : List Operation} {operation : Operation}
      {state next : State} (runs : Runs origin operations state)
      (step : Step state operation next) :
      Runs origin (operation :: operations) next

end Telekio.Wakers
