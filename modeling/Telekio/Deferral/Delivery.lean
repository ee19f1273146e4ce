import Telekio.Interleave.Ownership
import Telekio.Deferral.System

/-!
# A deferred wake is delivered once

Until somebody has woken the `Deferred`, it has the guest waker; until the
cleanup is dropped, it is with `defer`, in the `Deferred` or with a wake. No
step makes a second one or loses the only one.
-/

namespace Telekio.Deferral

open Telekio.Interleave
open Telekio.Owner

variable {world : World} {shared : Shared} {op : Op}
variable {current next : Thread}

namespace Shared

variable (shared : Shared)

/-- A wake has been through its locked part. -/
def Woken : Prop :=
  ∃ state, shared.deferred = some state ∧ state.woken = true

/-- The waker is given away only under an activity, whose record stays until
the cleanup is dropped. -/
structure Sound : Prop where
  made : shared.activity ≠ none ∨ shared.refused = true →
    shared.deferred ≠ none
  unset : ∀ state, shared.deferred = some state →
    shared.activity = none → state = .new shared.guest
  handed : shared.handed = true → shared.activity ≠ none
  installed : shared.installed = true → shared.activity ≠ none
  finished : shared.finished ≠ 0 → shared.Woken
  refused : shared.refused = true → shared.activity = none
  unremoved : shared.activity = none → shared.removed = 0
  below : ∀ id, shared.owner.state.nextId ≤ id →
    shared.activities.lookup id = none
  listed : ∀ id, shared.activities.lookup id = some (some shared.waker) →
    shared.activity = some id
  known : ∀ id, shared.activity = some id → id < shared.owner.state.nextId
  emptied : ∀ state, shared.deferred = some state → state.woken = true →
    state.waker = none ∧ state.cleanup = none
  stored : ∀ state id, shared.deferred = some state →
    state.cleanup = some id → shared.activity = some id
  present : ∀ id, shared.activity = some id →
    shared.activities.lookup id =
      if shared.removed = 0 then some (some shared.waker) else none

end Shared

def Defer.Fits (shared : Shared) : Defer → Prop
  | .called | .returned => True
  | .created => shared.activity = none ∧ shared.refused = false ∧
      shared.deferred ≠ none
  | .refused => shared.refused = true
  | .accepted id | .dropping id => shared.activity = some id
  | .notifying | .leaving | .handing => shared.activity ≠ none

def Waking.Fits (shared : Shared) : Waking → Prop
  | .called => True
  | .taken _ cleanup | .dropping cleanup =>
      shared.Woken ∧ ∀ id, cleanup = some id → shared.activity = some id
  | _ => shared.Woken

/-- Whoever has the waker of the `Deferred` has it from its activity. -/
def Thread.Fits (shared : Shared) : Thread → Prop
  | .defer call => call.Fits shared
  | .sweeping rest => shared.waker ∈ rest → shared.activity ≠ none
  | .waking call _ => shared.activity ≠ none ∧ call.Fits shared
  | _ => True

/-- What no step undoes. -/
structure Later (before after : Shared) : Prop where
  address : after.address = before.address
  activity : ∀ id, before.activity = some id → after.activity = some id
  refused : before.refused = true → after.refused = true
  woken : before.Woken → after.Woken

theorem Later.activity_ne_none {before after : Shared}
    (later : Later before after) (set : before.activity ≠ none) :
    after.activity ≠ none := by
  obtain ⟨id, found⟩ := Option.ne_none_iff_exists'.mp set
  rw [later.activity id found]
  exact nofun

theorem Later.of_same {before after : Shared}
    (address : after.address = before.address)
    (activity : after.activity = before.activity)
    (refused : after.refused = before.refused)
    (deferred : after.deferred = before.deferred) :
    Later before after where
  address := address
  activity := fun _ found => activity.trans found
  refused := fun held => refused.trans held
  woken := by
    intro ⟨state, found, woken⟩
    exact ⟨state, deferred.trans found, woken⟩

theorem Waking.Fits.later {call : Waking} {before after : Shared}
    (fits : call.Fits before) (later : Later before after) :
    call.Fits after := by
  cases call with
  | called => exact fits
  | taken waker cleanup =>
      exact ⟨later.woken fits.1, fun id held =>
        later.activity id (fits.2 id held)⟩
  | dropping cleanup =>
      exact ⟨later.woken fits.1, fun id held =>
        later.activity id (fits.2 id held)⟩
  | notifying | leaving | returned => exact later.woken fits

/-- Only the call that is about to ask the owner cares who asks it. -/
theorem Thread.Fits.later {found : Thread} {before after : Shared}
    (fits : found.Fits before) (later : Later before after)
    (asked : found ≠ .defer .created) : found.Fits after := by
  cases found with
  | defer call =>
      cases call with
      | called | returned => exact fits
      | created => exact absurd rfl asked
      | refused => exact later.refused fits
      | accepted id | dropping id => exact later.activity id fits
      | notifying | leaving | handing => exact later.activity_ne_none fits
  | sweeping rest =>
      intro listed
      refine later.activity_ne_none (fits ?_)
      rwa [Shared.waker, ← later.address]
  | waking call rest =>
      exact ⟨later.activity_ne_none fits.1, fits.2.later later⟩
  | _ => exact fits

def Thread.made : Thread → Prop
  | .defer .called => False
  | .defer _ => True
  | _ => False

theorem deferred_apply (made : shared.deferred ≠ none) :
    (op.apply shared).deferred ≠ none := by
  cases op with
  | wake | install => simpa [Op.apply] using made
  | new => exact nofun
  | _ => exact made

/-- The `Deferred` is made once. -/
theorem making : program.Owning (fun shared (_ : Unit) =>
    shared.deferred ≠ none) (fun thread _ => thread.made) where
  starts := by
    intro first _ starts
    cases starts <;> exact id
  acquires := by
    intro world thread current op next _ reached running acts made
    cases acts with
    | defer acts =>
        cases acts with
        | new unmade => exact Or.inr (fun there => there unmade)
        | _ => exact Or.inl trivial
    | _ => cases made
  keeps := by
    intro world thread current op next _ reached running acts before made
    cases acts with
    | defer acts =>
        cases acts with
        | new unmade => exact nofun
        | _ => exact deferred_apply (before trivial)
    | _ => cases made
  releases := by
    intro world thread current op next _ reached running acts there gone
    exact absurd (deferred_apply there) gone

/-! ## Every step is sound -/

theorem Shared.Initial.sound (initial : shared.Initial) :
    shared.Sound where
  made := by
    rw [initial.activity, initial.refused]
    rintro (set | refused)
    · exact absurd rfl set
    · cases refused
  unset := by
    rw [initial.deferred]
    exact nofun
  handed := by
    rw [initial.handed]
    exact nofun
  installed := by
    rw [initial.installed]
    exact nofun
  finished := fun some => absurd initial.finished some
  refused := by
    rw [initial.refused]
    exact nofun
  unremoved := fun _ => initial.removed
  below := initial.below
  listed := fun id found => absurd found (initial.unlisted id)
  known := by
    rw [initial.activity]
    exact nofun
  emptied := by
    rw [initial.deferred]
    exact nofun
  stored := by
    rw [initial.deferred]
    exact nofun
  present := by
    rw [initial.activity]
    exact nofun

theorem callback_refused
    (refused : (shared.owner.callback shared.waker).2 = none) :
    Op.callback.apply shared =
      { shared with activity := none, refused := true } := by
  have kept : (shared.owner.callback shared.waker).1 = shared.owner := by
    cases accepting : shared.owner.accepting <;>
      simp [OwnerState.callback, OwnerState.isAccepting, accepting]
        at refused ⊢
  simp only [Op.apply, refused, kept, Option.isNone_none]

theorem callback_accepted {id : Nat}
    (accepted : (shared.owner.callback shared.waker).2 = some id) :
    id = shared.owner.state.nextId ∧ Op.callback.apply shared =
      { shared with
        owner := shared.owner.addActivity (some shared.waker)
        activity := some id
        refused := false } := by
  obtain ⟨-, same, kept⟩ := OwnerState.callback_eq_some accepted
  refine ⟨same, ?_⟩
  simp only [Op.apply, accepted, kept, Option.isNone_some]

theorem sound_refused (sound : shared.Sound)
    (unset : shared.activity = none) (made : shared.deferred ≠ none)
    (refused : (shared.owner.callback shared.waker).2 = none) :
    (Op.callback.apply shared).Sound := by
  have unlisted : ∀ id,
      shared.activities.lookup id ≠ some (some shared.waker) := by
    intro id found
    rw [sound.listed id found] at unset
    cases unset
  rw [callback_refused refused]
  exact
    { sound with
      made := fun _ => made
      unset := fun state known _ => sound.unset state known unset
      handed := fun handed => absurd unset (sound.handed handed)
      installed := fun installed => absurd unset (sound.installed installed)
      refused := fun _ => rfl
      unremoved := fun _ => sound.unremoved unset
      listed := fun id found => absurd found (unlisted id)
      known := nofun
      stored := by
        intro state id known held
        rw [sound.unset state known unset] at held
        cases held
      present := nofun }

theorem sound_accepted (sound : shared.Sound)
    (unset : shared.activity = none) (made : shared.deferred ≠ none)
    {id : Nat}
    (accepted : (shared.owner.callback shared.waker).2 = some id) :
    (Op.callback.apply shared).Sound := by
  obtain ⟨rfl, same⟩ := callback_accepted accepted
  rw [same]
  exact
    { sound with
      made := fun _ => made
      unset := nofun
      handed := fun _ => nofun
      installed := fun _ => nofun
      refused := nofun
      unremoved := nofun
      below := by
        intro other above
        have different : other ≠ shared.owner.state.nextId :=
          Nat.ne_of_gt above
        refine (Table.lookup_insert_eq _ _ _ _).trans ?_
        rw [if_neg different]
        exact sound.below other (Nat.le_of_succ_le above)
      listed := by
        intro other found
        rw [Shared.activities, OwnerState.addActivity,
          Table.lookup_insert_eq] at found
        split at found
        · next same => rw [same]
        · have set := sound.listed other found
          rw [unset] at set
          cases set
      known := by
        rintro other ⟨⟩
        exact Nat.lt_succ_self _
      stored := by
        intro state other known held
        rw [sound.unset state known unset] at held
        cases held
      present := by
        rintro other ⟨⟩
        rw [if_pos (sound.unremoved unset)]
        exact AList.lookup_insert _ }

/-- The locked part of a wake empties the `Deferred`. -/
theorem sound_wake (sound : shared.Sound)
    (set : shared.activity ≠ none) : (Op.wake.apply shared).Sound := by
  have inside : ∀ state, (Op.wake.apply shared).deferred = some state →
      state = ⟨none, none, true⟩ := by
    intro state found
    obtain ⟨before, -, rfl⟩ := Option.map_eq_some_iff.mp found
    rfl
  exact
    { sound with
      made := fun there => deferred_apply (sound.made there)
      unset := fun _ _ unset => absurd unset set
      finished := by
        intro finished
        obtain ⟨state, found, -⟩ := sound.finished finished
        exact ⟨_, congrArg (Option.map _) found, rfl⟩
      emptied := by
        intro state found _
        rw [inside state found]
        exact ⟨rfl, rfl⟩
      stored := by
        intro state id found held
        rw [inside state found] at held
        cases held }

theorem sound_install (sound : shared.Sound) {id : Nat}
    (set : shared.activity = some id) :
    ((Op.install id).apply shared).Sound := by
  have inside : ∀ state,
      ((Op.install id).apply shared).deferred = some state →
      ∃ before, shared.deferred = some before ∧
        state.woken = before.woken ∧
        ((before.woken = true ∧ state = before) ∨
          (before.woken = false ∧ state.cleanup = some id)) := by
    intro state found
    obtain ⟨before, known, rfl⟩ := Option.map_eq_some_iff.mp found
    cases woken : before.woken <;>
      exact ⟨before, known, by simp [DeferredState.install, woken]⟩
  exact
    { sound with
      made := fun there => deferred_apply (sound.made there)
      unset := fun _ _ unset =>
        absurd (set.symm.trans unset) (Option.some_ne_none id)
      finished := by
        intro finished
        obtain ⟨state, found, woken⟩ := sound.finished finished
        refine ⟨_, congrArg (Option.map _) found, ?_⟩
        simp [DeferredState.install, woken]
      emptied := by
        intro state found woken
        obtain ⟨before, known, same, ⟨-, rfl⟩ | ⟨calm, -⟩⟩ :=
          inside state found
        · exact sound.emptied state known woken
        · rw [same, calm] at woken
          cases woken
      stored := by
        intro state other found held
        obtain ⟨before, known, -, ⟨-, rfl⟩ | ⟨-, stored⟩⟩ :=
          inside state found
        · exact sound.stored state other known held
        · rw [stored] at held
          rw [← Option.some.inj held]
          exact set }

theorem sound_removeActivity (sound : shared.Sound) {id : Nat}
    (set : shared.activity = some id) :
    ((Op.removeActivity id).apply shared).Sound := by
  have erased : ∀ other,
      ((Op.removeActivity id).apply shared).activities.lookup other =
        if other = id then none else shared.activities.lookup other :=
    fun other => Table.lookup_erase_eq id other _
  exact
    { sound with
      unremoved := fun unset =>
        absurd (set.symm.trans unset) (Option.some_ne_none id)
      below := by
        intro other above
        rw [erased]
        split
        · rfl
        · exact sound.below other above
      listed := by
        intro other found
        rw [erased] at found
        split at found
        · cases found
        · exact sound.listed other found
      present := by
        intro other found
        obtain rfl := Option.some.inj (set.symm.trans found)
        rw [erased, if_pos rfl]
        rfl }

theorem sound_other (sound : shared.Sound) {owner : OwnerState}
    (spares : shared.Spares owner) :
    ((Op.other owner).apply shared).Sound :=
  { sound with
    below := spares.below
    listed := fun id found => sound.listed id (spares.unlisted id found)
    known := fun id found => (spares.kept id found).2
    present := fun id found =>
      (spares.kept id found).1.trans (sound.present id found) }

theorem sound_of_defer {call after : Defer}
    (acts : Defer.Acts shared call op after) (sound : shared.Sound)
    (fits : call.Fits shared) : (op.apply shared).Sound := by
  cases acts with
  | new unmade =>
      have unset : shared.activity = none := by
        by_contra set
        exact sound.made (Or.inl set) unmade
      exact
        { sound with
          made := fun _ => nofun
          unset := by
            rintro state ⟨⟩ _
            rfl
          finished := by
            intro finished
            obtain ⟨state, known, -⟩ := sound.finished finished
            rw [unmade] at known
            cases known
          emptied := by
            rintro state ⟨⟩ woken
            cases woken
          stored := by
            rintro state id ⟨⟩ held
            cases held }
  | refuse refused =>
      obtain ⟨unset, -, made⟩ := fits
      exact sound_refused sound unset made refused
  | accept accepted =>
      obtain ⟨unset, -, made⟩ := fits
      exact sound_accepted sound unset made accepted
  | wakeGuest => exact { sound with }
  | store known stored => exact sound_install sound fits
  | giveBack known given => exact sound_install sound fits
  | remove => exact sound_removeActivity sound fits
  | notify => exact { sound with }
  | leave => exact { sound with installed := fun _ => fits }
  | hand => exact { sound with handed := fun _ => fits }

theorem sound_of_waking {call after : Waking}
    (acts : Waking.Acts shared call op after) (sound : shared.Sound)
    (set : shared.activity ≠ none) (fits : call.Fits shared) :
    (op.apply shared).Sound := by
  cases acts with
  | wake known => exact sound_wake sound set
  | wakeGuest => exact { sound with }
  | noWaker => exact sound
  | remove => exact sound_removeActivity sound (fits.2 _ rfl)
  | noCleanup => exact sound
  | notify => exact { sound with }
  | leave => exact { sound with finished := fun _ => fits }

theorem sound_cutoff (sound : shared.Sound)
    (localOpen : RuntimeRef → Bool) :
    ((Op.cutoff localOpen).apply shared).Sound := by
  cases cut : (shared.owner.cutoff localOpen).2 with
  | ok snapshot =>
      obtain ⟨kept, -⟩ := OwnerState.cutoff_eq_ok cut
      simp only [Op.apply, kept]
      exact { sound with }
  | error error =>
      have kept := OwnerState.cutoff_eq_error cut
      simp only [Op.apply, kept]
      exact sound

theorem sound_of_acts (acts : Thread.Acts shared current op next)
    (sound : shared.Sound) (fits : current.Fits shared) :
    (op.apply shared).Sound := by
  cases acts with
  | defer acts => exact sound_of_defer acts sound fits
  | waking acts => exact sound_of_waking acts sound fits.1 fits.2
  | shutdown cut => exact sound_cutoff sound _
  | refuse refused => exact sound_cutoff sound _
  | unwind => exact { sound with }
  | other spares => exact sound_other sound spares
  | _ => exact sound

theorem later_of_defer {call after : Defer}
    (acts : Defer.Acts shared call op after)
    (fits : call.Fits shared) : Later shared (op.apply shared) := by
  cases acts with
  | new unmade =>
      refine ⟨rfl, fun _ found => found, id, ?_⟩
      intro ⟨state, known, _⟩
      rw [unmade] at known
      cases known
  | refuse | accept =>
      obtain ⟨unset, unrefused, -⟩ := fits
      refine ⟨rfl, ?_, ?_, id⟩
      · intro id found
        rw [unset] at found
        cases found
      · intro refused
        rw [unrefused] at refused
        cases refused
  | store | giveBack =>
      refine ⟨rfl, fun _ found => found, id, ?_⟩
      intro ⟨state, known, woken⟩
      refine ⟨_, congrArg (Option.map _) known, ?_⟩
      simp [DeferredState.install, woken]
  | _ => exact .of_same rfl rfl rfl rfl

theorem later_of_acts (acts : Thread.Acts shared current op next)
    (fits : current.Fits shared) :
    Later shared (op.apply shared) := by
  cases acts with
  | defer acts => exact later_of_defer acts fits
  | waking acts =>
      cases acts with
      | wake known =>
          refine ⟨rfl, fun _ found => found, id, ?_⟩
          intro _
          exact ⟨_, congrArg (Option.map _) known, rfl⟩
      | _ => exact .of_same rfl rfl rfl rfl
  | _ => exact .of_same rfl rfl rfl rfl

/-- The thread that has moved still fits. -/
theorem fits_of_acts (acts : Thread.Acts shared current op next)
    (sound : shared.Sound) (fits : current.Fits shared) :
    next.Fits (op.apply shared) := by
  have later := later_of_acts acts fits
  cases acts with
  | defer acts =>
      cases acts with
      | new unmade =>
          have unset : shared.activity = none := by
            by_contra set
            exact sound.made (Or.inl set) unmade
          refine ⟨unset, Bool.eq_false_iff.mpr ?_, nofun⟩
          exact fun refused => sound.made (Or.inr refused) unmade
      | refuse refused =>
          rw [callback_refused refused]
          rfl
      | accept accepted =>
          rw [(callback_accepted accepted).2]
          rfl
      | wakeGuest => trivial
      | store known stored =>
          exact later.activity_ne_none (by rw [fits]; exact nofun)
      | @giveBack state id back known given =>
          have same : back = id := by
            simp only [DeferredState.install] at given
            split at given
            · exact (Option.some.inj given).symm
            · cases given
          rw [same]
          exact fits
      | remove =>
          exact later.activity_ne_none (by rw [fits]; exact nofun)
      | notify => exact fits
      | leave => exact fits
      | hand => trivial
  | scheduler handed => exact ⟨sound.handed handed, trivial⟩
  | activities =>
      intro listed
      obtain ⟨slot, inTable, rfl⟩ := List.mem_filterMap.mp listed
      obtain ⟨id, found⟩ := Table.mem_values.mp inTable
      exact later.activity_ne_none
        (by rw [sound.listed id found]; exact nofun)
  | shutdown cut =>
      obtain ⟨-, rfl, -⟩ := OwnerState.cutoff_eq_ok cut
      intro listed
      obtain ⟨slot, inTable, rfl⟩ := List.mem_filterMap.mp listed
      obtain ⟨id, found⟩ := Table.mem_values.mp inTable
      exact later.activity_ne_none
        (by rw [sound.listed id found]; exact nofun)
  | next => exact ⟨fits List.mem_cons_self, trivial⟩
  | pass => exact fun listed => fits (List.mem_cons_of_mem _ listed)
  | waking acts =>
      refine ⟨later.activity_ne_none fits.1, ?_⟩
      cases acts with
      | @wake state known =>
          refine ⟨⟨_, congrArg (Option.map _) known, rfl⟩, ?_⟩
          exact fun id held => sound.stored state id known held
      | wakeGuest | noWaker =>
          exact fits.2.later later
      | remove => exact later.woken fits.2.1
      | noCleanup => exact fits.2.1
      | notify => exact later.woken fits.2
      | leave => exact later.woken fits.2
  | unwind => exact ⟨fits.1, fits.2⟩
  | woken => exact fun _ => fits.1
  | _ => trivial

/-- Nobody else makes the owner accept or refuse the callback. -/
theorem created_of_acts (acts : Thread.Acts shared current op next)
    (fits : current.Fits shared) (alone : ¬ current.made)
    (created : Defer.created.Fits shared) :
    Defer.created.Fits (op.apply shared) := by
  obtain ⟨unset, unrefused, made⟩ := created
  cases acts with
  | defer acts =>
      cases acts with
      | new unmade => exact absurd unmade made
      | _ => exact absurd trivial alone
  | waking acts => exact absurd unset fits.1
  | unwind => exact absurd unset fits.1
  | _ => exact ⟨unset, unrefused, made⟩

/-- Every reachable world is sound and all its threads fit. -/
theorem fits_of_reachable (reached : program.Reachable world) :
    world.shared.Sound ∧ ∀ thread found,
      world.threads thread = some found → found.Fits world.shared := by
  refine Program.fits_invariant Shared.Sound Thread.Fits
    (fun _ => Shared.Initial.sound) ?_ ?_ ?_ reached
  · intro shared first _ starts
    cases starts <;> trivial
  · intro world thread current op next _ _ acts sound fits
    exact ⟨sound_of_acts acts sound fits, fits_of_acts acts sound fits⟩
  · intro world thread bystander current op next held reached different
      running otherRunning acts sound fits here
    by_cases asked : held = .defer .created
    · subst asked
      exact created_of_acts acts fits
        ((making.ownedOnce reached).2 bystander thread _ _ () different
          otherRunning running trivial)
        here
    · exact here.later (later_of_acts acts fits) asked

/-! ## One waker and one cleanup -/

namespace Shared

variable (shared : Shared)

/-- The guest waker is in the `Deferred` and can be reached. -/
def waits : Bool :=
  !shared.refused && shared.deferred.any fun state => state.waker.isSome

/-- The cleanup is in the `Deferred`. -/
def stores : Bool :=
  shared.deferred.any fun state => state.cleanup.isSome

end Shared

/-- The thread has the guest waker and has still to wake it. -/
def Thread.wakes : Thread → Nat
  | .defer .refused => 1
  | .waking (.taken waker _) _ => waker.isSome.toNat
  | _ => 0

/-- The thread has the cleanup and has still to store or to drop it. -/
def Thread.drops : Thread → Nat
  | .defer (.accepted _) | .defer (.dropping _) => 1
  | .waking (.taken _ cleanup) _ | .waking (.dropping cleanup) _ =>
      cleanup.isSome.toNat
  | _ => 0

/-- The guest waker waits, is about to be woken or has been woken. -/
theorem wakerBalance : program.Balancing
    (fun shared => shared.deferred.isSome.toNat)
    (fun shared => shared.woken + shared.waits.toNat) Thread.wakes where
  initially := by
    intro shared initial
    simp [Shared.waits, initial.deferred, initial.woken]
  starts := by
    intro first starts
    cases starts <;> rfl
  moves := by
    intro world thread current op next reached running acts _
    obtain ⟨sound, fits⟩ := fits_of_reachable reached
    have here := fits thread _ running
    generalize world.shared = shared at *
    change (op.apply shared).deferred.isSome.toNat + _ = _ +
      ((op.apply shared).woken + (op.apply shared).waits.toNat + _)
    cases acts with
    | defer acts =>
        cases acts with
        | new unmade =>
            have unrefused : shared.refused = false :=
              Bool.eq_false_iff.mpr
                (fun refused => sound.made (Or.inr refused) unmade)
            simp [Op.apply, Shared.waits, unmade, unrefused,
              DeferredState.new, Thread.wakes, Nat.add_comm]
        | refuse refused =>
            obtain ⟨unset, unrefused, made⟩ := here
            obtain ⟨state, known⟩ := Option.ne_none_iff_exists'.mp made
            have new := sound.unset state known unset
            rw [callback_refused refused]
            simp [Shared.waits, known, new, unrefused,
              DeferredState.new, Thread.wakes]
        | accept accepted =>
            rw [(callback_accepted accepted).2]
            simp [Shared.waits, here.2.1, Thread.wakes]
        | wakeGuest =>
            have refused : shared.refused = true := here
            simp [Op.apply, Shared.waits, refused, Thread.wakes]
        | @store state id known stored | @giveBack state id _ known stored =>
            simp only [Op.apply, Shared.waits, Thread.wakes, known,
              DeferredState.install, Option.map_some]
            split <;> rfl
        | _ => rfl
    | waking acts =>
        have unrefused : shared.refused = false :=
          Bool.eq_false_iff.mpr
            (fun refused => here.1 (sound.refused refused))
        cases acts with
        | @wake state known =>
            cases waker : state.waker <;>
              simp [Op.apply, Shared.waits, known, unrefused, waker,
                DeferredState.wake, Thread.wakes]
        | wakeGuest =>
            simp [Op.apply, Shared.waits, Thread.wakes]
            omega
        | _ => rfl
    | unwind =>
        simp [Op.apply, Shared.waits, Thread.wakes]
        omega
    | _ => rfl

theorem install_stores {state : DeferredState} {id : Nat}
    (stored : (state.install id).2 = none) : state.woken = false := by
  by_contra woken
  rw [Bool.not_eq_false] at woken
  simp [DeferredState.install, woken] at stored

theorem install_givesBack {state : DeferredState} {id back : Nat}
    (given : (state.install id).2 = some back) : state.woken = true := by
  by_contra calm
  simp [DeferredState.install, calm] at given

/-- The cleanup of an accepted callback is with a thread or in the
`Deferred`, or it has been dropped. -/
theorem cleanupBalance : program.Balancing
    (fun shared => shared.activity.isSome.toNat)
    (fun shared => shared.removed + shared.stores.toNat) Thread.drops where
  initially := by
    intro shared initial
    simp [Shared.stores, initial.deferred, initial.activity,
      initial.removed]
  starts := by
    intro first starts
    cases starts <;> rfl
  moves := by
    intro world thread current op next reached running acts bound
    obtain ⟨sound, fits⟩ := fits_of_reachable reached
    have here := fits thread _ running
    generalize world.shared = shared at *
    change (op.apply shared).activity.isSome.toNat + _ = _ +
      ((op.apply shared).removed + (op.apply shared).stores.toNat + _)
    cases acts with
    | defer acts =>
        cases acts with
        | new unmade =>
            simp [Op.apply, Shared.stores, unmade, DeferredState.new,
              Thread.drops]
        | refuse refused =>
            rw [callback_refused refused]
            simp [Shared.stores, here.1, Thread.drops]
        | accept accepted =>
            rw [(callback_accepted accepted).2]
            simp [Shared.stores, here.1, Thread.drops]
            omega
        | @store state id known stored =>
            -- the only cleanup is here, so the `Deferred` has none
            have alone : shared.stores.toNat = 0 := by
              have most := Bool.toNat_le shared.activity.isSome
              simp only [Thread.drops] at bound
              omega
            have calm := install_stores stored
            simp only [Op.apply, alone]
            simp [Shared.stores, known, DeferredState.install, calm,
              Thread.drops]
        | @giveBack state id back known given =>
            have woken := install_givesBack given
            simp [Op.apply, Shared.stores, known, DeferredState.install,
              woken, Thread.drops]
        | remove =>
            simp [Op.apply, Shared.stores, Thread.drops]
            omega
        | _ => rfl
    | waking acts =>
        cases acts with
        | @wake state known =>
            cases cleanup : state.cleanup <;>
              simp [Op.apply, Shared.stores, known, cleanup,
                DeferredState.wake, Thread.drops]
        | remove =>
            simp [Op.apply, Shared.stores, Thread.drops]
            omega
        | _ => rfl
    | _ => rfl

/-- No wake and no refused `defer` is about to wake the guest waker. -/
def Quiet (world : World) : Prop :=
  ∀ thread found, world.threads thread = some found → found.wakes = 0

/-- No call has the cleanup in hand. -/
def Dropped (world : World) : Prop :=
  ∀ thread found, world.threads thread = some found → found.drops = 0

/-- What the wakes and `install` leave behind. -/
structure Delivered (world : World) : Prop where
  wokenOnce : world.shared.woken ≤ 1
  droppedOnce : world.shared.removed ≤ 1
  woken : world.shared.finished ≠ 0 ∨ world.shared.refused = true →
    Quiet world → world.shared.woken = 1
  emptied : world.shared.finished ≠ 0 →
    ∀ state, world.shared.deferred = some state →
      state.waker = none ∧ state.cleanup = none
  removed : world.shared.installed = true → world.shared.finished ≠ 0 →
    Dropped world → world.shared.removed = 1 ∧
      ∀ id, world.shared.activity = some id →
        world.shared.activities.lookup id = none

theorem woken_le_one (reached : program.Reachable world) :
    world.shared.woken ≤ 1 := by
  have bound := Program.rests_le_of_balanced (wakerBalance.balanced reached)
  have most := Bool.toNat_le world.shared.deferred.isSome
  omega

theorem removed_le_one (reached : program.Reachable world) :
    world.shared.removed ≤ 1 := by
  have bound :=
    Program.rests_le_of_balanced (cleanupBalance.balanced reached)
  have most := Bool.toNat_le world.shared.activity.isSome
  omega

theorem emptied_of_finished (reached : program.Reachable world)
    (finished : world.shared.finished ≠ 0) :
    ∀ state, world.shared.deferred = some state →
      state.waker = none ∧ state.cleanup = none := by
  obtain ⟨sound, -⟩ := fits_of_reachable reached
  obtain ⟨state, known, woken⟩ := sound.finished finished
  intro found same
  obtain rfl := Option.some.inj (known.symm.trans same)
  exact sound.emptied state known woken

/-- Nothing waits any more, so the one waker has been woken. -/
theorem woken_of_quiet (reached : program.Reachable world)
    (ended : world.shared.finished ≠ 0 ∨ world.shared.refused = true)
    (quiet : Quiet world) : world.shared.woken = 1 := by
  obtain ⟨sound, -⟩ := fits_of_reachable reached
  have counted :=
    Program.eq_rests_of_balanced (wakerBalance.balanced reached) quiet
  have made : world.shared.deferred ≠ none := by
    rcases ended with finished | refused
    · obtain ⟨state, known, -⟩ := sound.finished finished
      rw [known]
      exact nofun
    · exact sound.made (Or.inr refused)
  have unwaiting : world.shared.waits = false := by
    rcases ended with finished | refused
    · obtain ⟨state, known, woken⟩ := sound.finished finished
      simp [Shared.waits, known, (sound.emptied state known woken).1]
    · simp [Shared.waits, refused]
  obtain ⟨state, known⟩ := Option.ne_none_iff_exists'.mp made
  simp only [known, unwaiting, Option.isSome_some, Bool.toNat_true,
    Bool.toNat_false] at counted
  omega

theorem removed_of_dropped (reached : program.Reachable world)
    (installed : world.shared.installed = true)
    (finished : world.shared.finished ≠ 0) (dropped : Dropped world) :
    world.shared.removed = 1 ∧
      ∀ id, world.shared.activity = some id →
        world.shared.activities.lookup id = none := by
  obtain ⟨sound, -⟩ := fits_of_reachable reached
  have counted :=
    Program.eq_rests_of_balanced (cleanupBalance.balanced reached) dropped
  obtain ⟨id, set⟩ :=
    Option.ne_none_iff_exists'.mp (sound.installed installed)
  obtain ⟨state, known, woken⟩ := sound.finished finished
  have unstored : world.shared.stores = false := by
    simp [Shared.stores, known, (sound.emptied state known woken).2]
  have once : world.shared.removed = 1 := by
    simp only [set, unstored, Option.isSome_some, Bool.toNat_true,
      Bool.toNat_false] at counted
    omega
  refine ⟨once, fun other found => ?_⟩
  rw [sound.present other found, if_neg (by omega)]

/-- At most one call wakes the guest waker and at most one drops the cleanup,
and both have happened once the calls that took them are through. -/
theorem deferredWake_isDelivered (reached : program.Reachable world) :
    Delivered world where
  wokenOnce := woken_le_one reached
  droppedOnce := removed_le_one reached
  woken := woken_of_quiet reached
  emptied := emptied_of_finished reached
  removed := removed_of_dropped reached

namespace Shared

/-- An owner without work, and a guest waker `4`. -/
def fresh : Shared where
  owner := ownerState
  address := 3
  guest := 4
  deferred := none
  handed := false
  activity := none
  refused := false
  woken := 0
  removed := 0
  installed := false
  finished := 0

theorem fresh_initial : fresh.Initial where
  deferred := rfl
  handed := rfl
  activity := rfl
  refused := rfl
  woken := rfl
  removed := rfl
  installed := rfl
  finished := rfl
  below := fun _ _ => rfl
  unlisted := fun _ => nofun

end Shared

/-- No other thread has the guest waker or the cleanup. -/
def OnlyOn (thread : Nat) (world : World) : Prop :=
  ∀ other found, other ≠ thread → world.threads other = some found →
    found.wakes = 0 ∧ found.drops = 0

namespace OnlyOn

variable {thread : Nat} {found : Thread}

theorem put {shared : Shared} (only : OnlyOn thread world) :
    OnlyOn thread (world.put shared thread found) := by
  intro other held different running
  rw [World.put_threads_of_ne _ _ _ different] at running
  exact only other held different running

theorem quiet (only : OnlyOn thread world)
    (running : world.threads thread = some found)
    (through : found.wakes = 0) : Quiet world := by
  intro other held here
  by_cases same : other = thread
  · subst same
    cases running.symm.trans here
    exact through
  · exact (only other held same here).1

theorem dropped (only : OnlyOn thread world)
    (running : world.threads thread = some found)
    (through : found.drops = 0) : Dropped world := by
  intro other held here
  by_cases same : other = thread
  · subst same
    cases running.symm.trans here
    exact through
  · exact (only other held same here).2

end OnlyOn

/-- One wake has taken the waker and the cleanup and has used neither, while
another has come and gone. -/
theorem exists_overtaken :
    ∃ world, program.Reachable world ∧
      world.shared.installed = true ∧ world.shared.finished = 1 ∧
      world.shared.woken = 0 ∧ world.shared.activity = some 1 ∧
      world.shared.activities.lookup 1 ≠ none ∧
      world.threads 1 = some (.waking (.taken (some 4) (some 1)) []) ∧
      OnlyOn 1 world := by
  have fresh : program.Reachable (World.quiet Shared.fresh) :=
    .quiet Shared.fresh_initial
  have called := fresh.fork 0 rfl .defer
  have created := called.move 0 rfl (.defer (.new rfl))
  have accepted := created.move 0 rfl (.defer (.accept rfl))
  have stored := accepted.move 0 rfl (.defer (.store rfl rfl))
  have installed := stored.move 0 rfl (.defer .leave)
  have handed := installed.move 0 rfl (.defer .hand)
  have first := handed.fork 1 rfl .scheduler
  have waking := first.move 1 rfl (.scheduler rfl)
  have taken := waking.move 1 rfl (.waking (.wake rfl))
  have second := taken.fork 2 rfl .activities
  have sweeping := second.move 2 rfl .activities
  have next := sweeping.move 2 rfl .next
  have woken := next.move 2 rfl (.waking (.wake rfl))
  have passed := woken.move 2 rfl (.waking .noWaker)
  have leaving := passed.move 2 rfl (.waking .noCleanup)
  have finished := leaving.move 2 rfl (.waking .leave)
  refine ⟨_, finished, rfl, rfl, rfl, rfl, nofun, rfl, ?_⟩
  intro other found different running
  match other with
  | 0 =>
      obtain rfl := Option.some.inj running
      exact ⟨rfl, rfl⟩
  | 1 => exact absurd rfl different
  | 2 =>
      obtain rfl := Option.some.inj running
      exact ⟨rfl, rfl⟩
  | other + 3 => cases running

/-- The wake that was overtaken wakes the guest and drops the cleanup. -/
theorem deferredWake_isDelivered_of_overtaken :
    ∃ world : World, world.shared.finished = 2 ∧
      world.shared.woken = 1 ∧ world.shared.removed = 1 ∧
      world.shared.activities.lookup 1 = none := by
  obtain ⟨world, reached, isInstalled, finished, -, activity, -, taken,
    only⟩ := exists_overtaken
  have woken := reached.move 1 taken (.waking .wakeGuest)
  have removed := woken.move 1 (World.put_threads_self _ _ _ _)
    (.waking .remove)
  have notified := removed.move 1 (World.put_threads_self _ _ _ _)
    (.waking .notify)
  have left := notified.move 1 (World.put_threads_self _ _ _ _)
    (.waking .leave)
  have delivered := deferredWake_isDelivered left
  have ended : world.shared.finished + 1 ≠ 0 := Nat.succ_ne_zero _
  have woke := delivered.woken (.inl ended)
    (only.put.put.put.put.quiet (World.put_threads_self _ _ _ _) rfl)
  have dropped := delivered.removed isInstalled ended
    (only.put.put.put.put.dropped (World.put_threads_self _ _ _ _) rfl)
  exact ⟨_, congrArg (· + 1) finished, woke, dropped.1,
    dropped.2 1 activity⟩

theorem not_forall_delivered :
    ¬ ∀ world, program.Reachable world →
      world.shared.finished ≠ 0 →
      world.shared.woken = 1 ∧
        (world.shared.installed = true →
          ∀ id, world.shared.activity = some id →
            world.shared.activities.lookup id = none) := by
  intro claim
  obtain ⟨world, reached, installed, finished, unwoken, -⟩ :=
    exists_overtaken
  have woken := (claim world reached (by omega)).1
  omega

end Telekio.Deferral
