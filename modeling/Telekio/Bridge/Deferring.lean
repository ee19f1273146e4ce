import Telekio.Bridge.System

/-!
# Deferred wakes

A `Deferred` is reached through the waker in the owner's activity table and
through the waker the host scheduler has. Whoever wakes it first takes the
guest waker out, and the cleanup is dropped only by a wake or after one.
-/

namespace Telekio.Bridge

open Telekio.Interleave
open Telekio.Owner

variable {world : World}

/-- The operations on the `Deferred` at an address. -/
def Op.deferred : Op → Option Nat
  | .newDeferred address _ => some address
  | .wakeDeferred address => some address
  | .installDeferred address _ => some address
  | .dropDeferred address => some address
  | _ => none

theorem deferreds_apply {shared : Shared} {op : Op} {address : Nat}
    (other : op.deferred ≠ some address) :
    (op.apply shared).deferreds address = shared.deferreds address := by
  change op.deferreds shared address = shared.deferreds address
  have different : ∀ found, op.deferred = some found →
      address ≠ found := by
    rintro found touched rfl
    exact other touched
  cases op with
  | newDeferred found waker =>
      exact Function.update_of_ne (different found rfl) _ _
  | wakeDeferred found =>
      exact Function.update_of_ne (different found rfl) _ _
  | installDeferred found cleanup =>
      exact Function.update_of_ne (different found rfl) _ _
  | dropDeferred found =>
      exact Function.update_of_ne (different found rfl) _ _
  | _ => rfl

/-- A `Deferred` that was made stays at its address. -/
theorem deferreds_apply_ne_none {shared : Shared} {op : Op}
    {address : Nat} (made : shared.deferreds address ≠ none) :
    (op.apply shared).deferreds address ≠ none := by
  by_cases same : op.deferred = some address
  · change op.deferreds shared address ≠ none
    cases op <;> cases same <;> simp [Op.deferreds, made]
  · rwa [deferreds_apply same]

/-- Only the thread of a `Deferred` touches it. -/
theorem deferred_of_acts {shared : Shared} {current next : Thread}
    {op : Op} {address : Nat}
    (acts : Thread.Acts shared current op next)
    (touches : op.deferred = some address) :
    ∃ defer, current = .defer defer ∧ defer.address = address := by
  have performs : ∃ defer, current = .defer defer := by
    have performs := Thread.performs_of_acts acts
    cases op <;> first | exact performs | cases touches
  obtain ⟨defer, rfl⟩ := performs
  refine ⟨defer, rfl, ?_⟩
  cases acts with
  | defer acts =>
      cases acts with
      | drop dropping drops => cases drops <;> cases touches
      | callback created admitted => cases touches
      | refuse created refused => cases touches
      | _ => exact Option.some.inj touches

/-- The thread has made its `Deferred` at this address. -/
def OwnsDeferred (thread : Thread) (address : Nat) : Prop :=
  ∃ defer, thread = .defer defer ∧ defer.stage ≠ .called ∧
    defer.address = address

theorem deferredOwning : program.Owning
    (fun shared address => shared.deferreds address ≠ none)
    OwnsDeferred where
  starts := by
    rintro first address starts ⟨defer, rfl, stage, _⟩
    cases starts
    exact stage rfl
  acquires := by
    rintro world thread current op next address reached running acts
      ⟨after, rfl, stage, rfl⟩
    cases acts with
    | @defer before _ _ acts =>
        by_cases called : before.stage = .called
        · cases acts with
          | new first fresh => exact Or.inr (by simp [fresh])
          | drop dropping drops => exact absurd called stage
          | wake admitted known => exact absurd called stage
          | _ => simp_all
        · refine Or.inl ⟨before, rfl, called, ?_⟩
          cases acts <;> rfl
  keeps := by
    rintro world thread current op next address reached running acts
      present ⟨after, rfl, stage, rfl⟩
    cases acts with
    | @defer before _ _ acts =>
        by_cases called : before.stage = .called
        · cases acts with
          | new first fresh => simp [program, Op.apply, Op.deferreds]
          | drop dropping drops => exact absurd called stage
          | wake admitted known => exact absurd called stage
          | _ => simp_all
        · refine deferreds_apply_ne_none (present
            ⟨before, rfl, called, ?_⟩)
          cases acts <;> rfl
  releases := by
    intro world thread current op next address _ _ _ present gone
    exact absurd (deferreds_apply_ne_none present) gone

/-- What a `Deferred` holds, by the stage of its `defer` call. -/
structure Defer.Settled (defer : Defer) (state : DeferredState) :
    Prop where
  woken : state.woken = true → state.waker = none
  dropping : defer.dropping = true → state.woken = true
  refused : defer.stage = .returned → defer.activity = .absent →
    state.waker = none

theorem Defer.settled_acts {shared : Shared} {defer next : Defer}
    {op : Op} {state : DeferredState}
    (acts : Defer.Acts shared defer op next) (ordered : defer.Ordered)
    (known : shared.deferreds defer.address = some state)
    (settled : defer.Settled state) :
    ∃ after, (op.apply shared).deferreds next.address = some after ∧
      next.Settled after := by
  obtain ⟨woken, dropping, refused⟩ := settled
  have admitted := ordered.admitted
  cases acts with
  | new called fresh => rw [fresh] at known; cases known
  | leaveRefused stage =>
      refine ⟨{ state with waker := none }, ?_, ?_⟩
      · simp [Op.apply, Op.deferreds, known]
      · exact ⟨fun _ => rfl, dropping, fun _ _ => rfl⟩
  | @install id found accepted armed known' =>
      cases known.symm.trans known'
      refine ⟨(state.install id).1, ?_, ?_⟩
      · simp [Op.apply, Op.deferreds, known]
      · cases already : state.woken <;> constructor <;>
          simp_all [DeferredState.install]
  | @wake found present known' =>
      cases known.symm.trans known'
      refine ⟨state.wake.1, ?_, ?_⟩
      · simp [Op.apply, Op.deferreds, known]
      · exact ⟨fun _ => rfl, fun _ => rfl, fun _ _ => rfl⟩
  | drop isDropping drops =>
      have silent : op.deferred ≠ some defer.address := by
        cases drops <;> simp [Op.deferred]
      refine ⟨state, (deferreds_apply silent).trans known, ?_⟩
      refine ⟨woken, dropping, fun _ _ => woken (dropping isDropping)⟩
  | _ =>
      refine ⟨state, known, ?_⟩
      constructor <;> grind -ring -linarith

/-- Every `Deferred` that was made is in the state its call has left. -/
theorem settled_of_defer (reached : program.Reachable world)
    {thread : Nat} {defer : Defer}
    (running : world.threads thread = some (.defer defer))
    (made : defer.stage ≠ .called) :
    ∃ state, world.shared.deferreds defer.address = some state ∧
      defer.Settled state := by
  refine Program.thread_invariant
    (fun shared held => ∀ defer, held = .defer defer →
      defer.stage ≠ .called →
      ∃ state, shared.deferreds defer.address = some state ∧
        defer.Settled state)
    ?_ ?_ ?_ reached running defer rfl made
  · intro world first _ starts defer same made
    cases starts <;> cases same
    exact absurd rfl made
  · intro world thread current op next reached running acts settled
      after same made
    subst same
    cases acts with
    | @defer before _ _ acts =>
        have ordered := ordered_of_defer reached running
        by_cases called : before.stage = .called
        · cases acts with
          | new first fresh =>
              refine ⟨DeferredState.new before.waker, ?_, ?_⟩
              · simp [program, Op.apply, Op.deferreds]
              · have undropped := ordered.undropped
                  (ordered.unadmitted (Or.inl called))
                constructor <;> simp [DeferredState.new, undropped]
          | drop dropping drops => exact absurd called made
          | wake admitted known => exact absurd called made
          | _ => simp_all
        · obtain ⟨state, known, held⟩ := settled before rfl called
          exact Defer.settled_acts acts ordered known held
  · intro world thread bystander current op next held reached different
      running holding acts settled defer same made
    subst same
    obtain ⟨state, known, settledState⟩ := settled defer rfl made
    refine ⟨state, ?_, settledState⟩
    by_cases touches : op.deferred = some defer.address
    · obtain ⟨other, rfl, sameAddress⟩ :=
        deferred_of_acts acts touches
      have called : other.stage = .called := by
        by_contra stage
        exact deferredOwning.exclusive reached different holding running
          ⟨defer, rfl, made, rfl⟩ ⟨other, rfl, stage, sameAddress⟩
      have ordered := ordered_of_defer reached running
      have absent := ordered.unadmitted (Or.inl called)
      cases acts with
      | defer acts =>
          cases acts with
          | new first fresh =>
              rw [sameAddress, known] at fresh
              cases fresh
          | drop dropping drops => cases drops <;> cases touches
          | _ => simp_all
    · exact (deferreds_apply touches).trans known

end Telekio.Bridge
