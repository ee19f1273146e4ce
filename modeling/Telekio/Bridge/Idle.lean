import Telekio.Bridge.Records
import Telekio.Bridge.Sweeps

/-!
# Waiting for the owner to become idle

`wait_idle` makes its `Notified` before it looks at the tables. Whoever takes
the last record away has still to notify when the tables are found busy, or
notifies a `Notified` that exists.
-/

namespace Telekio.Bridge

open Telekio.Interleave
open Telekio.Owner

variable {world : World}

/-- A record that `wait_idle` waits for. -/
def Busy (shared : Shared) : Prop :=
  (∃ id, shared.tasks.lookup id ≠ none) ∨
    ∃ id, shared.activities.lookup id ≠ none

/-- Some thread has removed a record and has yet to notify. -/
def Departing (world : World) : Prop :=
  ∃ thread held, world.threads thread = some held ∧ held.departing

theorem busy_of_idle_eq_false {shared : Shared}
    (busy : shared.owner.idle = false) : Busy shared := by
  by_contra quiet
  simp only [Busy, not_or, not_exists, not_not] at quiet
  have idle := idle_iff.mpr quiet
  rw [busy] at idle
  cases idle

/-- A departing thread departs until it notifies. -/
theorem departing_of_acts {shared : Shared} {current next : Thread}
    {op : Op} (acts : Thread.Acts shared current op next)
    (refusing : Refusing shared) (silent : op ≠ .notifyWaiters)
    (departing : current.departing) : next.departing := by
  have others : next.cleanup.departing ∨ ¬ current.cleanup.departing := by
    have step := Thread.cleanupStep_of_acts acts
    generalize current.cleanup = before at step ⊢
    generalize next.cleanup = after at step ⊢
    cases step with
    | same keeps => exact em _
    | activity admitted =>
        exact absurd (refusing.symm.trans
          (OwnerState.activity_eq_ok admitted).1) (by decide)
    | callback admitted =>
        exact absurd (refusing.symm.trans
          (OwnerState.callback_eq_some admitted).1) (by decide)
    | drop drops =>
        cases drops with
        | remove armed => exact Or.inl trivial
        | notify removed => exact absurd rfl silent
  cases acts with
  | spawn acts =>
      cases acts with
      | reserve called accepted =>
          exact absurd (refusing.symm.trans
            (OwnerState.reserveTask_eq_ok accepted).1) (by decide)
      | stillAccepting removed running =>
          exact absurd (refusing.symm.trans running) (by decide)
      | _ => simp_all [Thread.departing, Spawn.departing]
  | _ => exact others.resolve_right (fun quiet => quiet departing)

/-- A record goes away only with a thread that departs. -/
theorem busy_or_departing_of_acts {current next : Thread} {op : Op}
    {thread : Nat} (reached : program.Reachable world)
    (acts : Thread.Acts world.shared current op next)
    (busy : Busy world.shared) :
    Busy (op.apply world.shared) ∨
      Departing (world.put (op.apply world.shared) thread next) := by
  have change := ownerChange_apply op world.shared
  rcases busy with ⟨id, present⟩ | ⟨id, present⟩
  · obtain ⟨slot, found⟩ := Option.ne_none_iff_exists'.mp present
    rcases change.task_before found with
      kept | ⟨rfl, _⟩ | ⟨handle, _, updated⟩
    · exact Or.inl (Or.inl ⟨id, by simp [kept]⟩)
    · obtain ⟨_, after, _, rfl, _, _, removed⟩ :=
        Thread.removeTask_of_acts acts
      exact Or.inr ⟨thread, _, World.put_threads_self _ _ _ _,
        Or.inl removed⟩
    · exact Or.inl (Or.inl ⟨id, by simp [updated]⟩)
  · obtain ⟨slot, found⟩ := Option.ne_none_iff_exists'.mp present
    rcases change.activity_before (activity_lt_nextId reached found)
        found with
      kept | ⟨rfl, _⟩ | ⟨waker, _, _, updated⟩
    · exact Or.inl (Or.inr ⟨id, by simp [kept]⟩)
    · refine Or.inr ⟨thread, next, World.put_threads_self _ _ _ _, ?_⟩
      have removed := (Thread.removeActivity_of_acts acts).2
      cases next <;> simp_all [Thread.departing, Thread.cleanup,
        Cleanup.departing]
    · exact Or.inl (Or.inr ⟨id, by simp [updated]⟩)

/-- A `Notified` was made by an earlier count. -/
theorem notified_le (reached : program.Reachable world) {thread : Nat}
    {run : Shutdown} {notified : Nat}
    (running : world.threads thread = some (.shutdown run))
    (made : run.stage = .checking notified ∨
      run.stage = .parked notified) :
    notified ≤ world.shared.owner.notify := by
  refine Program.thread_invariant
    (fun shared held => ∀ run notified, held = .shutdown run →
      run.stage = .checking notified ∨ run.stage = .parked notified →
      notified ≤ shared.owner.notify)
    ?_ ?_ ?_ reached running run notified rfl made
  · intro world first _ starts run notified same made
    cases starts <;> cases same
    rcases made with ⟨⟨⟩⟩ | ⟨⟨⟩⟩
  · intro world thread current op next _ _ acts bounded after notified
      same made
    subst same
    have grows := (ownerChange_apply op world.shared).notify_le
    cases acts with
    | @shutdown before _ _ acts =>
        have kept : before.stage = .checking notified ∨
            before.stage = .parked notified →
            notified ≤ (op.apply world.shared).owner.notify :=
          fun earlier =>
            Nat.le_trans (bounded before notified rfl earlier) grows
        cases acts with
        | notified idling =>
            simp only [ShutdownStage.checking.injEq, reduceCtorEq,
              or_false] at made
            subst made
            exact grows
        | _ =>
            change notified ≤ (Op.apply _ world.shared).owner.notify
            grind -ring -linarith
  · intro world thread bystander current op next held _ _ _ _ _ bounded
      run notified same made
    exact Nat.le_trans (bounded run notified same made)
      (ownerChange_apply op world.shared).notify_le

/-- A run parks only when it finds the owner busy. -/
theorem parked_of_acts {shared : Shared} {run next : Shutdown} {op : Op}
    {notified : Nat} (acts : Shutdown.Acts shared run op next)
    (parked : next.stage = .parked notified) :
    run.stage = .parked notified ∨
      (op = .waitIdle ∧ shared.owner.idle = false) := by
  cases acts <;> simp_all

/-- Nobody waits for a departure that has been missed. -/
def NoneMissed (world : World) : Prop :=
  ∀ thread run notified,
    world.threads thread = some (.shutdown run) →
    run.stage = .parked notified →
    ¬ notified < world.shared.owner.notify →
    Busy world.shared ∨ Departing world

/-- What a parked run waits for is still to come after a step. -/
theorem busy_or_departing_of_move {mover : Nat} {current next : Thread}
    {op : Op} {thread : Nat} {run : Shutdown} {notified : Nat}
    (reached : program.Reachable world)
    (moving : world.threads mover = some current)
    (acts : Thread.Acts world.shared current op next)
    (running : world.threads thread = some (.shutdown run))
    (parked : run.stage = .parked notified)
    (unfired : ¬ notified < (op.apply world.shared).owner.notify)
    (waits : Busy world.shared ∨ Departing world) :
    Busy (op.apply world.shared) ∨
      Departing (world.put (op.apply world.shared) mover next) := by
  have silent : op ≠ .notifyWaiters := by
    rintro rfl
    have made := notified_le reached running (Or.inr parked)
    exact unfired (Nat.lt_succ_of_le made)
  have refusing : Refusing world.shared :=
    refusing_of_tasksLeft reached running
      (by simp [parked, ShutdownStage.tasksLeft])
  rcases waits with busy | ⟨other, held, otherRunning, departing⟩
  · exact busy_or_departing_of_acts reached acts busy
  · right
    by_cases same : other = mover
    · subst same
      rw [moving] at otherRunning
      cases otherRunning
      exact ⟨other, next, World.put_threads_self _ _ _ _,
        departing_of_acts acts refusing silent departing⟩
    · refine ⟨other, held, ?_, departing⟩
      rw [World.put_threads_of_ne _ _ _ same]
      exact otherRunning

theorem noneMissed (reached : program.Reachable world) :
    NoneMissed world := by
  refine Program.invariant NoneMissed ?_ ?_ reached
  · intro shared _ thread run notified running
    simp [World.quiet] at running
  · intro before after reachedBefore step earlier
    cases step with
    | @fork forked first free starts =>
        intro thread run notified running parked unfired
        rcases World.threads_put_cases running with
          ⟨_, same⟩ | ⟨_, old⟩
        · subst same
          cases starts
          cases parked
        · rcases earlier thread run notified old parked unfired with
            busy | ⟨other, held, otherRunning, departing⟩
          · exact Or.inl busy
          · have different : other ≠ forked := by
              rintro rfl
              rw [free] at otherRunning
              cases otherRunning
            refine Or.inr ⟨other, held, ?_, departing⟩
            rw [World.put_threads_of_ne _ _ _ different]
            exact otherRunning
    | @move _ mover op moves =>
        obtain @⟨current, next, moving, acts⟩ := moves
        intro thread run notified running parked unfired
        have grows := (ownerChange_apply op before.shared).notify_le
        have earlierUnfired : ¬ notified < before.shared.owner.notify :=
          fun fired => unfired (Nat.lt_of_lt_of_le fired grows)
        rcases World.threads_put_cases running with
          ⟨same, isNext⟩ | ⟨_, old⟩
        · subst same
          subst isNext
          cases acts with
          | @shutdown before _ _ acts =>
              rcases parked_of_acts acts parked with
                stage | ⟨rfl, busy⟩
              · exact busy_or_departing_of_move reachedBefore moving
                  (.shutdown acts) moving stage unfired
                  (earlier thread before notified moving stage
                    earlierUnfired)
              · exact Or.inl (busy_of_idle_eq_false busy)
        · exact busy_or_departing_of_move reachedBefore moving acts old
            parked unfired
            (earlier thread run notified old parked earlierUnfired)

/-- `wait_idle` never misses the last departure. -/
theorem waitIdle_neverMisses (reached : program.Reachable world)
    {thread : Nat} {run : Shutdown}
    (running : world.threads thread = some (.shutdown run)) :
    (∀ notified, run.stage = .parked notified →
      ¬ notified < world.shared.owner.notify →
      Busy world.shared ∨ Departing world) ∧
    (run.stage.waits → ∀ id, run.cleanup.id? = some id →
      world.shared.activities.lookup id = none) := by
  refine ⟨fun notified => noneMissed reached thread run notified running,
    ?_⟩
  intro waits id temporary
  have gone := ((ordered_of_shutdown reached running).waiting waits).1
  exact activity_of_gone reached running gone temporary

/-- A run waits for a task whose record is gone and that has yet to notify. -/
theorem waitIdle_neverMisses_of_removed :
    ∃ world, program.Reachable world ∧ ¬ Busy world.shared ∧
      (Busy world.shared ∨ Departing world) := by
  have forked :=
    reachable_fresh.fork 1 rfl (.spawn .spawn 7)
  have reserved := forked.move 1 rfl (.spawn (.reserve rfl rfl))
  have spawned := reserved.move 1 rfl (.spawn (.hostSpawn 0 rfl rfl))
  have registered := spawned.move 1 rfl (.spawn (.register rfl))
  have began := registered.fork 0 rfl .shutdown
  have entered := began.move 0 rfl (.shutdown (.callback rfl rfl))
  have cut := entered.move 0 rfl (.shutdown (.cutoff rfl rfl))
  have aborted := cut.move 0 rfl (.shutdown (.abort rfl))
  have allAborted := aborted.move 0 rfl (.shutdown (.aborted rfl))
  have closed := allAborted.move 0 rfl (.shutdown (.closed rfl))
  have own := closed.move 0 rfl (.shutdown (.wake rfl))
  have woken := own.move 0 rfl (.shutdown (.woken rfl))
  have listed := woken.move 0 rfl (.shutdown (.noRuntimes rfl rfl))
  have removed :=
    listed.move 0 rfl (.shutdown (.drop trivial (.remove rfl)))
  have notified :=
    removed.move 0 rfl (.shutdown (.drop trivial (.notify rfl)))
  have idling := notified.move 0 rfl (.shutdown (.dropped rfl trivial))
  have checking := idling.move 0 rfl (.shutdown (.notified rfl))
  have parked := checking.move 0 rfl (.shutdown (.park rfl rfl))
  have cancelling :=
    parked.move 1 rfl (.spawn (.cancel trivial (Or.inl rfl)))
  have releasing := cancelling.move 1 rfl (.spawn (.cancelled rfl))
  have released := releasing.move 1 rfl (.spawn (.released rfl))
  have gone := released.move 1 rfl (.spawn (.removeTask rfl rfl))
  refine ⟨_, gone, ?_,
    (@waitIdle_neverMisses _ gone 0 _ rfl).1 1 rfl (by decide)⟩
  rintro (⟨id, present⟩ | ⟨id, present⟩)
  · exact present rfl
  · exact present rfl

end Telekio.Bridge
