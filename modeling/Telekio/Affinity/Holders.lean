import Telekio.Affinity.System

/-!
# Who holds an open `LocalRuntime`

A call that holds an `Arc` of an open `LocalRuntime` runs on the thread of
its slot, so whichever drop turns out to be the last is on that thread. No
owner shutdown is among these calls.
-/

namespace Telekio.Affinity

open Telekio.Interleave
open Telekio.Owner

variable {shared : Shared} {current next : Call} {op : Op}

theorem Shared.kind_modify (runtime other : RuntimeRef)
    (change : RuntimeOwner → RuntimeOwner) :
    (shared.modify runtime change).kind other =
      if other = runtime then
        (shared.runtimes runtime).map fun held => (change held).kind
      else shared.kind other := by
  by_cases same : other = runtime
  · subst same
    cases found : shared.runtimes other <;>
      simp [Shared.kind, Shared.modify, found]
  · simp [Shared.kind, Shared.modify, same]

@[simp]
theorem Shared.kind_touch (contact : Contact) (thread : Nat)
    (touched : Option LocalRuntime) (runtime : RuntimeRef) :
    (shared.touch contact thread touched).kind runtime =
      shared.kind runtime := by
  cases touched <;> rfl

@[simp]
theorem Shared.owner_touch (contact : Contact) (thread : Nat)
    (touched : Option LocalRuntime) :
    (shared.touch contact thread touched).owner = shared.owner := by
  cases touched <;> rfl

/-- Runtimes stay what they are until they are closed, and a cutoff stays. -/
structure Later (before after : Shared) : Prop where
  kinds : ∀ runtime kind, before.kind runtime = some kind →
    ∃ found, after.kind runtime = some found ∧
      (found = kind ∨ found.localOpen = false)
  refusing : before.owner.accepting = false →
    after.owner.accepting = false

theorem Later.refl (shared : Shared) : Later shared shared where
  kinds := fun _ kind found => ⟨kind, found, Or.inl rfl⟩
  refusing := id

theorem Later.trans {first second third : Shared}
    (before : Later first second) (after : Later second third) :
    Later first third where
  kinds := by
    intro runtime kind found
    obtain ⟨middle, foundMiddle, same | closed⟩ :=
      before.kinds runtime kind found
    · subst same
      exact after.kinds runtime middle foundMiddle
    · obtain ⟨last, foundLast, same | closedLast⟩ :=
        after.kinds runtime middle foundMiddle
      · exact ⟨last, foundLast, Or.inr (same ▸ closed)⟩
      · exact ⟨last, foundLast, Or.inr closedLast⟩
  refusing := after.refusing ∘ before.refusing

theorem later_modify (runtime : RuntimeRef)
    {change : RuntimeOwner → RuntimeOwner}
    (keeps : ∀ held, (change held).kind = held.kind ∨
      (change held).kind.localOpen = false) :
    Later shared (shared.modify runtime change) where
  kinds := by
    intro other kind found
    rw [Shared.kind_modify]
    by_cases same : other = runtime
    · subst same
      obtain ⟨held, known, rfl⟩ := Option.map_eq_some_iff.mp found
      exact ⟨_, by simp [known], keeps held⟩
    · exact ⟨kind, by simpa [same] using found, Or.inl rfl⟩
  refusing := id

theorem later_touch (contact : Contact) (thread : Nat)
    (touched : Option LocalRuntime) :
    Later shared (shared.touch contact thread touched) where
  kinds := fun _ kind found => ⟨kind, by simpa using found, Or.inl rfl⟩
  refusing := by simp

theorem later_owner {owner : OwnerState}
    (refusing : shared.owner.accepting = false →
      owner.accepting = false) :
    Later shared { shared with owner } where
  kinds := fun _ kind found => ⟨kind, found, Or.inl rfl⟩
  refusing := refusing

theorem RuntimeOwner.kind_dropArc (held : RuntimeOwner) :
    held.dropArc.1.kind = held.kind ∨
      held.dropArc.1.kind.localOpen = false := by
  unfold RuntimeOwner.dropArc
  split
  · exact Or.inr rfl
  · exact Or.inl rfl

theorem RuntimeKind.close_cases (kind : RuntimeKind) (thread : Nat) :
    (kind.close thread).1 = kind ∨
      (kind.close thread).1.localOpen = false := by
  cases stillOpen : (kind.close thread).1.localOpen with
  | true => exact Or.inl (RuntimeKind.eq_of_localOpen_close stillOpen)
  | false => exact Or.inr rfl

theorem later_clone (runtime : RuntimeRef) :
    Later shared (shared.modify runtime RuntimeOwner.clone) :=
  later_modify runtime fun _ => Or.inl rfl

theorem later_register {owner : OwnerState} (runtime : RuntimeRef)
    (refusing : shared.owner.accepting = false →
      owner.accepting = false) :
    Later shared
      (Shared.modify { shared with owner } runtime RuntimeOwner.clone) :=
  (later_owner refusing).trans (later_clone runtime)

theorem registerRuntime_accepting (owner : OwnerState)
    (runtime : RuntimeRef) :
    (owner.registerRuntime runtime).1.accepting = owner.accepting := by
  unfold OwnerState.registerRuntime
  split <;> rfl

theorem later_cloneRuntimes (runtimes : List RuntimeRef) :
    Later shared (Op.apply (.cloneRuntimes runtimes) shared) := by
  change Later shared (runtimes.foldl _ shared)
  induction runtimes generalizing shared with
  | nil => exact .refl shared
  | cons runtime runtimes inductionHypothesis =>
      exact (later_clone runtime).trans inductionHypothesis

theorem later_of_acts (acts : Call.Acts shared current op next) :
    Later shared (op.apply shared) := by
  cases op with
  | skip => exact .refl shared
  | new runtime kind =>
      cases acts with
      | buildRuntime _ _ flavor fresh =>
          refine ⟨?_, id⟩
          intro other found known
          have different : other ≠ runtime := by
            rintro rfl
            simp [Shared.kind, fresh] at known
          refine ⟨found, ?_, Or.inl rfl⟩
          simpa [Op.apply, Shared.kind, different] using known
  | registerRuntime runtime =>
      have same := registerRuntime_accepting shared.owner runtime
      simp only [Op.apply]
      split
      · next owner id registered =>
          rw [registered] at same
          exact later_register runtime fun refusing =>
            same.trans refusing
      · next owner error registered =>
          rw [registered] at same
          exact later_owner fun refusing => same.trans refusing
  | unregisterRuntime id => exact later_owner fun refusing => refusing
  | close runtime thread =>
      simp only [Op.apply]
      split
      · exact (later_modify runtime fun held =>
          held.kind.close_cases thread).trans (later_touch _ _ _)
      · exact .refl shared
  | shutdownLocal moved thread =>
      exact later_touch .drop thread (some moved)
  | blockOn runtime thread =>
      simp only [Op.apply]
      split
      · exact later_touch _ _ _
      · exact .refl shared
  | dropArc runtime thread =>
      simp only [Op.apply]
      split
      · exact (later_modify runtime
          RuntimeOwner.kind_dropArc).trans (later_touch _ _ _)
      · exact .refl shared
  | cutoff =>
      refine later_owner fun refusing => ?_
      unfold OwnerState.cutoff
      split
      · exact refusing
      · rfl
  | cloneRuntimes runtimes => exact later_cloneRuntimes runtimes

/-! ## Who holds an open `LocalRuntime` -/

/-- A runtime that is there, and if it is a `LocalRuntime` that is open, on
the given thread. -/
def Held (thread : Option Nat) (shared : Shared)
    (runtime : RuntimeRef) : Prop :=
  ∃ kind, shared.kind runtime = some kind ∧
    ∀ slot, kind = .localSlot slot → thread = some slot.thread

theorem Held.later {thread : Option Nat} {before after : Shared}
    {runtime : RuntimeRef} (held : Held thread before runtime)
    (later : Later before after) : Held thread after runtime := by
  obtain ⟨kind, found, own⟩ := held
  obtain ⟨next, foundNext, same | closed⟩ :=
    later.kinds runtime kind found
  · exact ⟨next, foundNext, same ▸ own⟩
  · refine ⟨next, foundNext, ?_⟩
    rintro slot rfl
    cases closed

/-- What a call holds is its own: its thread is the thread of every open
`LocalRuntime` it has an `Arc` to, and of the one it has moved out. -/
structure Call.Safe (shared : Shared) (call : Call) : Prop where
  arcs : ∀ runtime ∈ call.arcs, Held call.thread shared runtime
  moved : ∀ runtime, call.moved = some runtime →
    call.thread = some runtime.origin
  cut : call.pastCutoff → shared.owner.accepting = false

/-- No open `LocalRuntime` is registered after the cutoff, and all touches
so far were on the right thread. -/
structure Shared.Safe (shared : Shared) : Prop where
  sound : ∀ runtime kind, shared.kind runtime = some kind → kind.Sound
  registered : ∀ id runtime,
    shared.owner.state.runtimes.lookup id = some runtime →
    (shared.kind runtime).isSome
  cut : shared.owner.accepting = false → ∀ id runtime,
    shared.owner.state.runtimes.lookup id = some runtime →
    shared.localOpen runtime = false
  touched : ∀ touch ∈ shared.touches,
    touch.thread = touch.runtime.origin

/-- A call that has moved nothing out and is not past a cutoff. -/
theorem Call.safe_of_arcs {call : Call}
    (arcs : ∀ runtime ∈ call.arcs, Held call.thread shared runtime)
    (kept : call.moved = none) (early : ¬ call.pastCutoff) :
    call.Safe shared where
  arcs := arcs
  moved := by
    intro runtime held
    rw [kept] at held
    cases held
  cut := fun past => absurd past early

/-- A call that has moved nothing out, after the cutoff. -/
theorem Call.safe_of_cut {call : Call}
    (arcs : ∀ runtime ∈ call.arcs, Held call.thread shared runtime)
    (kept : call.moved = none) (cut : shared.owner.accepting = false) :
    call.Safe shared where
  arcs := arcs
  moved := by
    intro runtime held
    rw [kept] at held
    cases held
  cut := fun _ => cut

/-- A call that has no `Arc` is safe outside an owner shutdown. -/
theorem Call.safe_of_nil {call : Call} (unheld : call.arcs = [])
    (kept : call.moved = none) (early : ¬ call.pastCutoff) :
    call.Safe shared := by
  refine safe_of_arcs ?_ kept early
  intro runtime found
  rw [unheld] at found
  cases found

theorem Call.Safe.later {call : Call} {before after : Shared}
    (safe : call.Safe before) (later : Later before after) :
    call.Safe after where
  arcs := fun runtime found => (safe.arcs runtime found).later later
  moved := safe.moved
  cut := later.refusing ∘ safe.cut

theorem kind_eq_of_known {runtime : RuntimeRef} {held : RuntimeOwner}
    (known : shared.runtimes runtime = some held) :
    shared.kind runtime = some held.kind := by
  simp [Shared.kind, known]

/-- What a close moves out was built on the closing thread. -/
theorem origin_of_close (safe : shared.Safe) {runtime : RuntimeRef}
    {held : RuntimeOwner} {thread : Nat} {moved : LocalRuntime}
    (known : shared.runtimes runtime = some held)
    (succeeded : (held.kind.close thread).2 = .ok (some moved)) :
    thread = moved.origin := by
  obtain ⟨slot, isSlot, own, inSlot⟩ :=
    RuntimeKind.held_of_close succeeded
  have sound := safe.sound runtime held.kind (kind_eq_of_known known)
  exact own.symm.trans (sound slot isSlot moved inSlot).symm

/-- A call without a thread of its own moves no `LocalRuntime` out. -/
theorem moved_eq_none {runtime : RuntimeRef} {held : RuntimeOwner}
    {thread : Nat} {moved : Option LocalRuntime}
    (own : Held none shared runtime)
    (known : shared.runtimes runtime = some held)
    (succeeded : (held.kind.close thread).2 = .ok moved) :
    moved = none := by
  cases moved with
  | none => rfl
  | some moved =>
      obtain ⟨slot, isSlot, -⟩ := RuntimeKind.held_of_close succeeded
      obtain ⟨kind, found, never⟩ := own
      rw [kind_eq_of_known known] at found
      obtain rfl := Option.some.inj found
      cases never slot isSlot

theorem mem_runtimes {closed : RuntimeRef → Bool} {runtime : RuntimeRef}
    (found : runtime ∈ shared.owner.runtimes closed) :
    ∃ id, shared.owner.state.runtimes.lookup id = some runtime := by
  obtain ⟨listed, -⟩ := List.mem_filter.mp found
  exact Table.mem_values.mp listed

/-- The call that has moved is safe again. -/
theorem callSafe_of_acts (acts : Call.Acts shared current op next)
    (safe : current.Safe shared) (shared_safe : shared.Safe) :
    next.Safe (op.apply shared) := by
  have later := later_of_acts acts
  obtain ⟨arcs, moved, cut⟩ := safe
  cases acts with
  | buildRuntime runtime kind flavor fresh =>
      refine Call.safe_of_arcs ?_ rfl id
      intro other found
      obtain rfl := List.mem_singleton.mp found
      refine ⟨kind, by simp [Op.apply, Shared.kind], ?_⟩
      rintro slot rfl
      rcases flavor with other | same
      · cases other
      · cases same
        rfl
  | closeElsewhere other notLocal =>
      refine Call.safe_of_arcs ?_ rfl id
      intro runtime found
      obtain ⟨kind, known, -⟩ := arcs runtime found
      refine ⟨kind, known, ?_⟩
      rintro slot rfl
      obtain rfl := List.mem_singleton.mp found
      simp [Shared.localOpen, known, RuntimeKind.localOpen] at notLocal
  | closeRefused known succeeded =>
      refine ⟨fun runtime found => (arcs runtime found).later later, ?_,
        False.elim⟩
      intro runtime held
      obtain rfl : _ = some runtime := held
      exact congrArg some (origin_of_close shared_safe known succeeded)
  | shutdown known succeeded =>
      refine ⟨fun _ found => absurd found List.not_mem_nil, ?_,
        False.elim⟩
      intro runtime held
      obtain rfl := Option.some.inj held
      exact congrArg some (origin_of_close shared_safe known succeeded)
  | release registered ownThread =>
      refine Call.safe_of_arcs ?_ rfl id
      intro runtime found
      obtain rfl := List.mem_singleton.mp found
      obtain ⟨kind, known⟩ := Option.isSome_iff_exists.mp
        (shared_safe.registered _ _ registered)
      refine ⟨kind, known, ?_⟩
      rintro slot rfl
      exact congrArg some (ownThread _ slot registered known)
  | cutoff succeeded =>
      refine Call.safe_of_cut
        (fun _ found => absurd found List.not_mem_nil) rfl ?_
      change (shared.owner.cutoff shared.localOpen).1.accepting = false
      rw [(OwnerState.cutoff_eq_ok succeeded).1]
  | list =>
      have refusing := cut trivial
      refine Call.safe_of_cut ?_ rfl (later.refusing refusing)
      intro runtime found
      obtain ⟨id, registered⟩ := mem_runtimes found
      obtain ⟨kind, known⟩ := Option.isSome_iff_exists.mp
        (shared_safe.registered _ _ registered)
      refine Held.later ⟨kind, known, ?_⟩ later
      rintro slot rfl
      have closed := shared_safe.cut refusing id runtime registered
      simp [Shared.localOpen, known, RuntimeKind.localOpen] at closed
  | ownerCloses thread known succeeded =>
      have own := arcs _ (List.mem_cons_self)
      obtain rfl := moved_eq_none own known succeeded
      exact Call.safe_of_cut
        (fun runtime found => (arcs runtime found).later later) rfl
        (later.refusing (cut trivial))
  | ownerShutsDown thread =>
      cases moved _ rfl
  | ownerDrops thread =>
      exact Call.safe_of_cut
        (fun runtime found =>
          (arcs runtime (List.mem_cons_of_mem _ found)).later later)
        rfl (later.refusing (cut trivial))
  | dropSnapshot thread =>
      exact Call.safe_of_cut
        (fun runtime found =>
          (arcs runtime (List.mem_cons_of_mem _ found)).later later)
        rfl (later.refusing (cut trivial))
  | ownerFails thread known failed =>
      exact Call.safe_of_cut
        (fun runtime found => (arcs runtime found).later later) rfl
        (later.refusing (cut trivial))
  | abandon =>
      exact Call.safe_of_cut arcs rfl (cut trivial)
  | refuseCutoff refused => exact Call.safe_of_nil rfl rfl id
  | leave => exact Call.safe_of_nil rfl rfl id
  | dropReleased => exact Call.safe_of_nil rfl rfl id
  | _ =>
      exact Call.safe_of_arcs
        (fun runtime found => (arcs runtime found).later later) rfl id

end Telekio.Affinity
