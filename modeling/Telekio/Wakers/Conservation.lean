import Mathlib.Data.List.Range
import Mathlib.Data.List.Nodup
import Telekio.Wakers.System

/-!
# Native references are conserved

Every native clone is either with one live owned wrapper or has been
consumed, once, by the wake or the drop of that wrapper; and every wake comes
through.
-/

namespace Telekio.Wakers

variable {state next : State} {operation : Operation}

namespace State

variable (state : State)

/-- The native references that owned wrappers have or have had. -/
def references : List Nat :=
  state.consumed ++ state.owned.map RustWaker.reference

/-- A descriptor leads to the native reference of the waker it was made
from. -/
def Direct (entry : Descriptor × Nat) : Prop :=
  entry.1 = ⟨state.origin, .native entry.2⟩

structure Sound : Prop where
  owned : ∀ waker ∈ state.owned, ∃ artifact reference,
    waker = .wrapper artifact state.origin (.native reference)
  descriptors : ∀ entry ∈ state.descriptors, state.Direct entry
  references : state.references.Perm (List.range' 1 state.clones)
  fresh : state.stale = false

end State

theorem sound_start (origin : Nat) : (State.start origin).Sound where
  owned := nofun
  descriptors := nofun
  references := List.Perm.nil
  fresh := rfl

theorem State.use_of_isAlive {reference : Nat}
    (alive : state.isAlive reference = true) :
    state.use reference = state := by
  simp [use, alive]

namespace State.Sound

theorem nodup (sound : state.Sound) : state.references.Nodup :=
  sound.references.nodup_iff.mpr List.nodup_range'

/-- The references of owned wrappers are clones. -/
theorem bounds (sound : state.Sound) {reference : Nat}
    (member : reference ∈ state.references) :
    1 ≤ reference ∧ reference ≤ state.clones := by
  have inside := sound.references.mem_iff.mp member
  rw [List.mem_range'_1] at inside
  omega

theorem unconsumed (sound : state.Sound) {waker : RustWaker}
    (owned : waker ∈ state.owned) :
    waker.reference ∉ state.consumed := by
  intro consumed
  obtain ⟨-, -, disjoint⟩ := List.nodup_append.mp sound.nodup
  exact disjoint _ consumed _ (List.mem_map_of_mem owned) rfl

theorem isAlive_of_owned (sound : state.Sound)
    {artifact callbacks : Nat} {target : RustWaker}
    (owned : .wrapper artifact callbacks target ∈ state.owned) :
    state.isAlive target.reference = true := by
  obtain ⟨positive, bounded⟩ := sound.bounds
    (List.mem_append_right state.consumed (List.mem_map_of_mem owned))
  have unconsumed := sound.unconsumed owned
  simp only [RustWaker.reference] at positive bounded unconsumed
  rw [isAlive, if_neg (by omega)]
  exact decide_eq_true ⟨bounded, unconsumed⟩

/-- An owned wrapper is a wrapper of a native reference. -/
theorem target_of_owned (sound : state.Sound)
    {artifact callbacks : Nat} {target : RustWaker}
    (owned : .wrapper artifact callbacks target ∈ state.owned) :
    callbacks = state.origin ∧ target = .native target.reference := by
  obtain ⟨_, _, same⟩ := sound.owned _ owned
  cases same
  exact ⟨rfl, rfl⟩

/-- The callbacks of a descriptor that is used work on a live reference. -/
theorem isAlive_of_known (sound : state.Sound)
    {descriptor : Descriptor} {source : Nat}
    (known : (descriptor, source) ∈ state.descriptors)
    (alive : state.isAlive source = true) :
    descriptor = ⟨state.origin, .native source⟩ ∧
      state.isAlive descriptor.target.reference = true := by
  have same : descriptor = ⟨state.origin, .native source⟩ :=
    sound.descriptors _ known
  rw [same]
  exact ⟨rfl, alive⟩

theorem describe (sound : state.Sound) {descriptor : Descriptor}
    {source : Nat} (direct : descriptor = ⟨state.origin, .native source⟩) :
    (state.describe descriptor source).Sound :=
  { sound with
    descriptors := List.forall_mem_cons.mpr
      ⟨direct, sound.descriptors⟩ }

theorem rawClone (sound : state.Sound) (artifact : Nat)
    (descriptor : Descriptor) (panics : Bool)
    (callbacks : descriptor.callbacks = state.origin)
    (target : descriptor.target = .native descriptor.target.reference)
    (alive : state.isAlive descriptor.target.reference = true) :
    (state.rawClone artifact descriptor panics).Sound := by
  rw [State.rawClone, State.use_of_isAlive alive]
  cases panics with
  | true => exact sound
  | false =>
      have wrapper :
          (descriptor.clone (state.clones + 1)).borrow artifact =
            .wrapper artifact state.origin (.native (state.clones + 1)) := by
        rw [Descriptor.borrow, Descriptor.clone, callbacks, target]
        rfl
      exact
        { sound with
          owned := List.forall_mem_cons.mpr
            ⟨⟨_, _, wrapper⟩, sound.owned⟩
          references := by
            change (state.consumed ++ RustWaker.reference
              ((descriptor.clone (state.clones + 1)).borrow artifact) ::
                state.owned.map RustWaker.reference).Perm
              (List.range' 1 (state.clones + 1))
            rw [wrapper, List.range'_concat, Nat.one_mul, Nat.add_comm 1]
            exact List.perm_middle.trans
              ((sound.references.cons _).trans
                (List.perm_append_singleton _ _).symm) }

theorem rawWakeByRef (sound : state.Sound) {descriptor : Descriptor}
    (alive : state.isAlive descriptor.target.reference = true) :
    (state.rawWakeByRef descriptor).Sound := by
  rw [State.rawWakeByRef, State.use_of_isAlive alive]
  exact { sound with }

theorem consume (sound : state.Sound) {artifact callbacks : Nat}
    {target : RustWaker} {before after : List RustWaker}
    (owned : state.owned =
      before ++ .wrapper artifact callbacks target :: after) :
    (state.consume ⟨callbacks, target⟩ (before ++ after)).Sound := by
  have member : .wrapper artifact callbacks target ∈ state.owned := by
    rw [owned]
    exact List.mem_append_right _ List.mem_cons_self
  have alive : state.isAlive target.reference = true :=
    sound.isAlive_of_owned member
  rw [State.consume, State.use_of_isAlive alive]
  exact
    { sound with
      owned := by
        intro waker others
        refine sound.owned waker ?_
        rw [owned]
        rcases List.mem_append.mp others with left | right
        · exact List.mem_append_left _ left
        · exact List.mem_append_right _ (List.mem_cons_of_mem _ right)
      references := by
        refine List.Perm.trans ?_ sound.references
        simp only [State.references, owned, List.map_append,
          List.map_cons, List.cons_append, ← List.append_assoc]
        exact List.perm_middle.symm }

end State.Sound

theorem State.mem_owned {artifact callbacks : Nat} {target : RustWaker}
    {before after : List RustWaker}
    (owned : state.owned =
      before ++ .wrapper artifact callbacks target :: after) :
    .wrapper artifact callbacks target ∈ state.owned := by
  rw [owned]
  exact List.mem_append_right _ List.mem_cons_self

theorem sound_of_step (step : Step state operation next)
    (sound : state.Sound) : next.Sound := by
  cases step with
  | fromOriginating alive => exact sound.describe rfl
  | fromOwned owned =>
      obtain ⟨callbacks, target⟩ := sound.target_of_owned owned
      refine sound.describe ?_
      rw [Descriptor.fromRef, if_pos rfl, callbacks, ← target]
  | fromBorrowed artifact known alive =>
      obtain ⟨same, -⟩ := sound.isAlive_of_known known alive
      rw [Descriptor.fromRef_borrow]
      exact sound.describe same
  | cloneBorrowed artifact panics known alive =>
      obtain ⟨rfl, reachable⟩ := sound.isAlive_of_known known alive
      exact sound.rawClone artifact _ panics rfl rfl reachable
  | cloneOwned panics owned =>
      obtain ⟨callbacks, target⟩ := sound.target_of_owned owned
      exact sound.rawClone _ _ panics callbacks target
        (sound.isAlive_of_owned owned)
  | wakeByRefBorrowed known alive =>
      obtain ⟨rfl, reachable⟩ := sound.isAlive_of_known known alive
      exact sound.rawWakeByRef reachable
  | wakeByRefOwned owned =>
      exact sound.rawWakeByRef (sound.isAlive_of_owned owned)
  | wake owned => exact { sound.consume owned with }
  | drop owned => exact sound.consume owned
  | endOriginating => exact { sound with }

theorem sound_of_runs {origin : Nat} {operations : List Operation}
    (runs : Runs origin operations state) : state.Sound := by
  induction runs with
  | start => exact sound_start origin
  | step earlier step inductionHypothesis =>
      exact sound_of_step step inductionHypothesis

/-- What one operation adds to the account: a clone that does not panic is one
more native reference with one more owned wrapper, a wake reaches the
originating waker once, and a wrapper that is woken or dropped by value gives
up its own reference. -/
structure Accounts (state : State) (operation : Operation)
    (next : State) : Prop where
  clones : next.clones = state.clones +
    if operation = .clone false then 1 else 0
  wakes : next.wakes = state.wakes + if operation.isWake then 1 else 0
  consumed : next.consumed = operation.consumed.toList ++ state.consumed
  owned : (operation.consumed.toList ++
      next.owned.map RustWaker.reference).Perm
    ((if operation = .clone false then [next.clones] else []) ++
      state.owned.map RustWaker.reference)

/-- An operation that leaves the account alone. -/
theorem Accounts.of_same (noClone : operation ≠ .clone false)
    (noWake : operation.isWake = false)
    (none : operation.consumed = none)
    (clones : next.clones = state.clones) (wakes : next.wakes = state.wakes)
    (consumed : next.consumed = state.consumed)
    (owned : next.owned = state.owned) : Accounts state operation next where
  clones := by
    rw [if_neg noClone, clones, Nat.add_zero]
  wakes := by
    rw [noWake, wakes]
    rfl
  consumed := by
    rw [none, consumed]
    rfl
  owned := by
    rw [none, if_neg noClone, owned]
    exact List.Perm.refl _

theorem accounts_rawClone (artifact : Nat) {descriptor : Descriptor}
    (panics : Bool)
    (target : descriptor.target = .native descriptor.target.reference) :
    Accounts state (.clone panics)
      (state.rawClone artifact descriptor panics) := by
  cases panics with
  | true => exact .of_same (by simp) rfl rfl rfl rfl rfl rfl
  | false =>
      have fresh : RustWaker.reference
          ((descriptor.clone (state.clones + 1)).borrow artifact) =
            state.clones + 1 := by
        rw [Descriptor.borrow, Descriptor.clone, target]
        rfl
      exact
        { clones := rfl
          wakes := rfl
          consumed := rfl
          owned := by
            change (RustWaker.reference
              ((descriptor.clone (state.clones + 1)).borrow artifact) ::
                state.owned.map RustWaker.reference).Perm _
            rw [fresh]
            exact List.Perm.refl _ }

theorem accounts_rawWakeByRef {descriptor : Descriptor}
    (target : descriptor.target = .native descriptor.target.reference) :
    Accounts state .wakeByRef (state.rawWakeByRef descriptor) where
  clones := rfl
  wakes := by
    change state.wakes + descriptor.target.wakes = state.wakes + 1
    rw [target]
    rfl
  consumed := rfl
  owned := List.Perm.refl _

/-- The wrapper that is given up was one of the owned ones. -/
theorem owned_given {artifact callbacks : Nat} {target : RustWaker}
    {before after : List RustWaker}
    (owned : state.owned =
      before ++ .wrapper artifact callbacks target :: after) :
    (target.reference ::
      (before ++ after).map RustWaker.reference).Perm
      (state.owned.map RustWaker.reference) := by
  rw [owned, List.map_append, List.map_append, List.map_cons]
  exact List.perm_middle.symm

theorem accounts_of_step (sound : state.Sound)
    (step : Step state operation next) : Accounts state operation next := by
  cases step with
  | fromOriginating alive =>
      exact .of_same (by simp) rfl rfl rfl rfl rfl rfl
  | fromOwned owned => exact .of_same (by simp) rfl rfl rfl rfl rfl rfl
  | fromBorrowed artifact known alive =>
      exact .of_same (by simp) rfl rfl rfl rfl rfl rfl
  | cloneBorrowed artifact panics known alive =>
      obtain ⟨rfl, -⟩ := sound.isAlive_of_known known alive
      exact accounts_rawClone artifact panics rfl
  | cloneOwned panics owned =>
      exact accounts_rawClone _ panics (sound.target_of_owned owned).2
  | wakeByRefBorrowed known alive =>
      obtain ⟨rfl, -⟩ := sound.isAlive_of_known known alive
      exact accounts_rawWakeByRef rfl
  | wakeByRefOwned owned =>
      exact accounts_rawWakeByRef (sound.target_of_owned owned).2
  | @wake artifact callbacks target before after owned =>
      obtain ⟨-, native⟩ := sound.target_of_owned (State.mem_owned owned)
      exact
        { clones := rfl
          wakes := by
            change state.wakes + target.wakes = state.wakes + 1
            rw [native]
            rfl
          consumed := rfl
          owned := owned_given owned }
  | drop owned =>
      exact
        { clones := rfl
          wakes := rfl
          consumed := rfl
          owned := owned_given owned }
  | endOriginating => exact .of_same (by simp) rfl rfl rfl rfl rfl rfl

/-- Native clones, wakes and consumed references are those of the operations,
and clones and consumed references balance the live owned wrappers. No
reference is consumed twice or used after that, those of owned wrappers alone
are consumed, and nothing is wrapped twice. -/
structure Conserved (operations : List Operation) (state : State) :
    Prop where
  clones : state.clones = operations.count (.clone false)
  wakes : state.wakes = operations.countP Operation.isWake
  consumed : state.consumed = operations.filterMap Operation.consumed
  balance : state.clones = state.consumed.length + state.owned.length
  once : state.consumed.Nodup
  owned : (state.owned.map RustWaker.reference).Nodup ∧
    ∀ waker ∈ state.owned, waker.reference ∉ state.consumed
  cloned : ∀ reference ∈ state.consumed,
    1 ≤ reference ∧ reference ≤ state.clones
  fresh : state.stale = false
  direct : ∀ entry ∈ state.descriptors,
    entry.1 = ⟨state.origin, .native entry.2⟩
  depth : ∀ waker ∈ state.owned, waker.depth = 1

/-- The account of a run is that of its operations. -/
theorem totals_of_runs {origin : Nat} {operations : List Operation}
    (runs : Runs origin operations state) :
    state.clones = operations.count (.clone false) ∧
      state.wakes = operations.countP Operation.isWake ∧
      state.consumed = operations.filterMap Operation.consumed := by
  induction runs with
  | start => exact ⟨rfl, rfl, rfl⟩
  | @step operations operation before after earlier step
      inductionHypothesis =>
      obtain ⟨clones, wakes, consumed⟩ := inductionHypothesis
      have account := accounts_of_step (sound_of_runs earlier) step
      refine ⟨?_, ?_, ?_⟩
      · rw [account.clones, clones, List.count_cons]
        simp
      · rw [account.wakes, wakes, List.countP_cons]
      · rw [account.consumed, consumed, List.filterMap_cons]
        cases operation.consumed <;> rfl

/-- Every run is conserved, and every operation after it adds to the account
what it should. -/
theorem wakers_areConserved {origin : Nat} {operations : List Operation}
    {state : State} (runs : Runs origin operations state) :
    Conserved operations state ∧
      ∀ operation next, Step state operation next →
        Accounts state operation next := by
  have sound := sound_of_runs runs
  obtain ⟨clones, wakes, consumed⟩ := totals_of_runs runs
  obtain ⟨once, distinct, -⟩ := List.nodup_append.mp sound.nodup
  refine ⟨?_, fun operation next => accounts_of_step sound⟩
  exact
    { clones := clones
      wakes := wakes
      consumed := consumed
      balance := by
        have length := sound.references.length_eq
        rw [State.references, List.length_append, List.length_map,
          List.length_range'] at length
        exact length.symm
      once := once
      owned := ⟨distinct, fun waker owned => sound.unconsumed owned⟩
      cloned := fun reference consumed =>
        sound.bounds (List.mem_append_left _ consumed)
      fresh := sound.fresh
      direct := sound.descriptors
      depth := by
        intro waker owned
        obtain ⟨_, _, rfl⟩ := sound.owned waker owned
        rfl }

/-- Artifact `7` clones the waker of artifact `5`, passes its clone on and
wakes it. -/
theorem wakers_areConserved_of_wake :
    ∃ state, state.clones = 1 ∧ state.consumed = [1] ∧ state.wakes = 1 ∧
      Conserved [.wake 1, .describe, .clone false, .describe] state := by
  have described := Runs.start.step (@Step.fromOriginating (.start 5) rfl)
  have cloned := described.step
    (.cloneBorrowed 7 false List.mem_cons_self rfl)
  have passed := cloned.step (.fromOwned List.mem_cons_self)
  have woken := passed.step (@Step.wake _ 7 5 (.native 1) [] [] rfl)
  exact ⟨_, rfl, rfl, rfl, (wakers_areConserved woken).1⟩

end Telekio.Wakers
