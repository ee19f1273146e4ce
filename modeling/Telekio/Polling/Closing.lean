import Telekio.Polling.Resource

/-!
# Closing a polled resource

All polls share one slot for their wakers. A waker that waits is in the slot
unless another poll has overwritten it there, and `close` wakes the waker of
the slot and no other.
-/

namespace Telekio.Polling

open Telekio.Interleave
open Telekio.Owner

variable {world : World} {shared : Shared} {op : Op}

theorem isClosed_withInner {waker : Nat} {readiness : Readiness} :
    (Op.withInner waker readiness shared).1.isClosed =
      shared.resource.isClosed := by
  rw [Op.withInner, HostResource.withMut]
  cases held : shared.resource.value <;>
    simp [HostResource.isClosed, held]

theorem waker_withInner {waker : Nat} {readiness : Readiness} :
    (Op.withInner waker readiness shared).1.waker =
      shared.resource.waker := by
  rw [Op.withInner, HostResource.withMut]
  cases shared.resource.value <;> rfl

/-- After the close the object is not asked any more. -/
theorem withInner_of_isClosed {waker : Nat} {readiness : Readiness}
    (closed : shared.resource.isClosed = true) :
    (Op.withInner waker readiness shared).2 =
      .error HostResource.ownerHasShutDown := by
  rw [HostResource.isClosed, Option.isNone_iff_eq_none] at closed
  rw [Op.withInner, HostResource.withMut, closed]
  rfl

theorem isClosed_apply (closed : shared.resource.isClosed = true) :
    (op.apply shared).resource.isClosed = true := by
  cases op with
  | updateWaker waker =>
      exact (HostResource.isClosed_updateWaker _ waker).trans closed
  | poll waker readiness => exact isClosed_withInner.trans closed
  | wake waker =>
      rw [HostResource.isClosed, Option.isNone_iff_eq_none] at closed
      simp [Op.apply, Op.resource, HostResource.isClosed, closed]
  | takeValue => rfl
  | takeWaker => exact closed

/-- A close past its first statement has taken the value. -/
theorem isClosed_of_valueTaken (reached : program.Reachable world)
    {thread : Nat}
    (closing : world.threads thread = some (.close .valueTaken)) :
    world.shared.resource.isClosed = true := by
  refine Program.thread_invariant
    (fun shared held => held = .close .valueTaken →
      shared.resource.isClosed = true)
    ?_ ?_ ?_ reached closing rfl
  · intro world first _ starts same
    subst same
    cases starts
  · intro world thread current op next _ _ acts _ same
    subst same
    cases acts
    rfl
  · intro world thread bystander current op next held _ _ _ _ _ closed
      same
    exact isClosed_apply (closed same)

/-- The waker is where `close` looks for it, or was overwritten there. -/
def Traced (shared : Shared) (waker : Nat) : Prop :=
  shared.resource.waker = some waker ∨ shared.overwritten waker = true

/-- A waker stored by another poll overwrites the one in the slot. -/
theorem overwritten_updateWaker {waker other : Nat}
    (alive : shared.resource.isClosed = false)
    (different : waker ≠ other) :
    (Op.updateWaker other).overwritten shared waker = true ↔
      Traced shared waker := by
  cases slot : shared.resource.waker with
  | none =>
      simp [Op.overwritten, alive, slot, different, Traced]
  | some old =>
      by_cases replaced : waker = old
      · subst replaced
        simp [Op.overwritten, alive, slot, different, Traced]
      · simp [Op.overwritten, alive, slot, different, Traced, replaced,
          Ne.symm replaced]

/-- The second statement of `close` wakes the waker in the slot. -/
theorem waiting_takeWaker {waker : Nat} :
    Op.takeWaker.waiting shared waker = true ↔
      shared.waiting waker = true ∧
        shared.resource.waker ≠ some waker := by
  cases slot : shared.resource.waker with
  | none => simp [Op.waiting, slot]
  | some taken =>
      by_cases same : waker = taken
      · simp [Op.waiting, slot, same]
      · simp [Op.waiting, slot, same, Ne.symm same]

/-- Only the second statement of `close` loses track of a waker. -/
theorem traced_apply {waker : Nat} (kept : op ≠ .takeWaker)
    (traced : Traced shared waker) : Traced (op.apply shared) waker := by
  cases op with
  | takeWaker => exact absurd rfl kept
  | updateWaker other =>
      cases closed : shared.resource.isClosed with
      | true =>
          simpa [Traced, Op.apply, Op.resource, Op.overwritten, closed,
            HostResource.updateWaker_of_isClosed] using traced
      | false =>
          have present : shared.resource.value.isSome = true := by
            simpa [HostResource.isClosed] using closed
          by_cases same : waker = other
          · exact Or.inl (by simp [Op.apply, Op.resource,
              HostResource.updateWaker, present, same])
          · exact Or.inr
              ((overwritten_updateWaker closed same).mpr traced)
  | poll other readiness =>
      exact traced.imp (waker_withInner.trans ·) id
  | wake other => exact traced
  | takeValue => exact traced

/-- A poll between its two steps has left its waker in the slot. -/
theorem traced_of_updated (reached : program.Reachable world)
    {thread waker : Nat}
    (polling : world.threads thread = some (.poll (.updated waker))) :
    world.shared.resource.isClosed = true ∨
      Traced world.shared waker := by
  refine Program.thread_invariant
    (fun shared held => held = .poll (.updated waker) →
      shared.resource.isClosed = true ∨ Traced shared waker)
    ?_ ?_ ?_ reached polling rfl
  · intro world first _ starts same
    subst same
    cases starts
  · intro world thread current op next _ _ acts _ same
    subst same
    cases acts
    cases closed : world.shared.resource.isClosed with
    | true => exact Or.inl (isClosed_apply closed)
    | false =>
        have present : world.shared.resource.value.isSome = true := by
          simpa [HostResource.isClosed] using closed
        exact Or.inr (Or.inl (by simp [program, Op.apply, Op.resource,
          HostResource.updateWaker, present]))
  · intro world thread bystander current op next held reached _ running
      _ acts earlier same
    by_cases taking : op = .takeWaker
    · subst taking
      cases acts
      exact Or.inl (isClosed_apply
        (isClosed_of_valueTaken reached running))
    · exact (earlier same).imp isClosed_apply (traced_apply taking)

/-- A waker that waits is in the slot or was overwritten there. -/
theorem traced_of_waiting (reached : program.Reachable world)
    {waker : Nat} (waits : world.shared.waiting waker = true) :
    Traced world.shared waker := by
  refine Program.shared_invariant
    (fun shared => ∀ waker, shared.waiting waker = true →
      Traced shared waker)
    ?_ ?_ reached waker waits
  · rintro shared rfl waker waits
    cases waits
  · intro world thread current op next reached running acts earlier
      waker waits
    cases acts with
    | updateWaker => exact traced_apply (by simp) (earlier waker waits)
    | @poll polled readiness =>
        refine traced_apply (by simp) ?_
        by_cases same : waker = polled
        · subst same
          rcases traced_of_updated reached running with closed | traced
          · simp [program, Op.apply, Op.waiting,
              withInner_of_isClosed closed] at waits
          · exact traced
        · exact earlier waker (by simpa [program, Op.apply, Op.waiting,
            same] using waits)
    | @wake woken inner alive stored =>
        by_cases same : waker = woken
        · simp [program, Op.apply, Op.waiting, same] at waits
        · exact traced_apply (by simp) (earlier waker
            (by simpa [program, Op.apply, Op.waiting, same] using waits))
    | takeValue => exact traced_apply (by simp) (earlier waker waits)
    | takeWaker =>
        obtain ⟨waited, notTaken⟩ := waiting_takeWaker.mp waits
        exact Or.inr ((earlier waker waited).resolve_left notTaken)

/-- The waker in the slot is not overwritten. -/
theorem not_overwritten_of_slot (reached : program.Reachable world)
    {waker : Nat} (slot : world.shared.resource.waker = some waker) :
    world.shared.overwritten waker = false := by
  refine Program.shared_invariant
    (fun shared => ∀ waker, shared.resource.waker = some waker →
      shared.overwritten waker = false)
    ?_ ?_ reached waker slot
  · rintro shared rfl waker slot
    cases slot
  · intro world thread current op next _ _ _ earlier waker slot
    cases op with
    | updateWaker other =>
        cases closed : world.shared.resource.isClosed with
        | true =>
            simp only [program, Op.apply, Op.resource, Op.overwritten,
              closed, HostResource.updateWaker_of_isClosed,
              if_true] at slot ⊢
            exact earlier waker slot
        | false =>
            have present : world.shared.resource.value.isSome = true := by
              simpa [HostResource.isClosed] using closed
            have same : other = waker := by
              simpa [program, Op.apply, Op.resource,
                HostResource.updateWaker, present] using slot
            simp [program, Op.apply, Op.overwritten, closed, same]
    | poll other readiness =>
        exact earlier waker (waker_withInner.symm.trans slot)
    | wake other => exact earlier waker slot
    | takeValue => exact earlier waker slot
    | takeWaker => cases slot

/-- Nobody waits for the closed resource, and nobody ever will. -/
structure Settled (shared : Shared) : Prop where
  closed : shared.resource.isClosed = true
  slotEmpty : shared.resource.waker = none
  nobodyWaits : ∀ waker, shared.waiting waker = false

theorem settled_apply (settled : Settled shared) :
    Settled (op.apply shared) := by
  obtain ⟨closed, slotEmpty, nobodyWaits⟩ := settled
  refine ⟨isClosed_apply closed, ?_, ?_⟩
  · cases op with
    | updateWaker waker =>
        simpa [Op.apply, Op.resource,
          HostResource.updateWaker_of_isClosed, closed] using slotEmpty
    | poll waker readiness => exact waker_withInner.trans slotEmpty
    | takeWaker => rfl
    | _ => exact slotEmpty
  · intro waker
    cases op with
    | poll polled readiness =>
        by_cases same : waker = polled
        · simp [Op.apply, Op.waiting, same,
            withInner_of_isClosed closed]
        · simp [Op.apply, Op.waiting, same, nobodyWaits]
    | wake woken =>
        by_cases same : waker = woken
        · simp [Op.apply, Op.waiting, same]
        · simp [Op.apply, Op.waiting, same, nobodyWaits]
    | takeWaker => simp [Op.apply, Op.waiting, slotEmpty, nobodyWaits]
    | _ => exact nobodyWaits waker

theorem settled_of_steps {later : World}
    (reached : program.Reachable world)
    (steps : program.Steps world later)
    (settled : Settled world.shared) : Settled later.shared :=
  Program.shared_lasts Settled reached steps settled
    fun _ _ _ _ _ _ _ _ => settled_apply

/-- Every poll from now on returns the closed error. -/
def PollsFail (shared : Shared) : Prop :=
  ∀ waker op next,
    Thread.Acts shared (.poll (.updated waker)) op next →
    next = .poll (.returned waker
      (.error HostResource.ownerHasShutDown))

theorem pollsFail_of_settled (settled : Settled shared) :
    PollsFail shared := by
  intro waker op next acts
  cases acts with
  | poll readiness => rw [withInner_of_isClosed settled.closed]

/-- What is promised of a resource whose close has returned. -/
def ClosedForAll (shared : Shared) : Prop :=
  (∀ waker, shared.waiting waker = false) ∧
    PollsFail shared ∧ shared.resource.waker = none

/-- The world after the second statement of the close in `thread`. -/
def World.closed (world : World) (thread : Nat) : World :=
  world.put (program.apply .takeWaker world.shared) thread
    (.close .returned)

/-- A close wakes everyone who waits, for good, if and only if no waker that
waits has been overwritten in the slot by another poll. -/
theorem closedForAll_iff (reached : program.Reachable world)
    {thread : Nat}
    (closing : world.threads thread = some (.close .valueTaken)) :
    (∀ later, program.Steps (World.closed world thread) later →
        ClosedForAll later.shared) ↔
      ∀ waker, world.shared.waiting waker = true →
        world.shared.overwritten waker = false := by
  have closed := isClosed_of_valueTaken reached closing
  have returned : program.Reachable (World.closed world thread) :=
    reached.move thread closing .takeWaker
  constructor
  · intro promised waker waits
    rcases traced_of_waiting reached waits with slot | overwritten
    · exact not_overwritten_of_slot reached slot
    · have woken := (promised _ .refl).1 waker
      by_contra replaced
      have stillWaits := waiting_takeWaker.mpr ⟨waits, fun slot =>
        replaced (not_overwritten_of_slot reached slot)⟩
      exact absurd (woken.symm.trans stillWaits) (by decide)
  · intro inSlot later steps
    have settled : Settled (World.closed world thread).shared := by
      refine ⟨isClosed_apply closed, rfl, fun waker => ?_⟩
      by_contra waits
      rw [Bool.not_eq_false] at waits
      obtain ⟨waited, notTaken⟩ := waiting_takeWaker.mp waits
      have overwritten :=
        (traced_of_waiting reached waited).resolve_left notTaken
      exact absurd (overwritten.symm.trans (inSlot waker waited))
        (by decide)
    have still := settled_of_steps returned steps settled
    exact ⟨still.nobodyWaits, pollsFail_of_settled still,
      still.slotEmpty⟩

/-- One task polls for reading with waker 1, another for writing with
waker 2, and then the resource is closed. -/
theorem exists_overwritten :
    ∃ world, program.Reachable world ∧
      world.threads 0 = some (.close .valueTaken) ∧
      world.shared.waiting 1 = true ∧
      world.shared.resource.waker = some 2 := by
  have reading := (reachable_fresh.fork 1 rfl (.poll 1)).move 1 rfl
    .updateWaker
  have readPending := reading.move 1 rfl (.poll .pending)
  have writing := (readPending.fork 2 rfl (.poll 2)).move 2 rfl
    .updateWaker
  have writePending := writing.move 2 rfl (.poll .pending)
  have closing := (writePending.fork 0 rfl .close).move 0 rfl .takeValue
  exact ⟨_, closing, rfl, rfl, rfl⟩

/-- The close wakes the writer only. -/
theorem exists_waiting_closed :
    ¬ ∀ world thread, program.Reachable world →
      world.threads thread = some (.close .valueTaken) →
      ∀ later, program.Steps (World.closed world thread) later →
        ClosedForAll later.shared := by
  intro claim
  obtain ⟨world, reached, closing, waits, slot⟩ := exists_overwritten
  have woken := (claim world 0 reached closing _ .refl).1 1
  have stillWaits := waiting_takeWaker.mpr ⟨waits, by simp [slot]⟩
  exact absurd (woken.symm.trans stillWaits) (by decide)

/-- A single waiting task is woken. -/
theorem closedForAll_iff_of_single :
    ∃ world, program.Reachable world ∧
      world.shared.waiting 1 = true ∧
      ∀ later, program.Steps (World.closed world 0) later →
        ClosedForAll later.shared := by
  have reading := (reachable_fresh.fork 1 rfl (.poll 1)).move 1 rfl
    .updateWaker
  have pending := reading.move 1 rfl (.poll .pending)
  have closing := (pending.fork 0 rfl .close).move 0 rfl .takeValue
  refine ⟨_, closing, rfl, (closedForAll_iff closing rfl).mpr ?_⟩
  intro waker waits
  change Function.update (fun _ => false) 1 false waker = false
  rw [Function.update_eq_self]

end Telekio.Polling
