import Telekio.Bridge.Records
import Telekio.Bridge.Sweeps

/-!
# Which admitted tasks are aborted

The abort handle of a task is recorded in a second step, when the task may be
running or finished already. A record without a handle belongs to a spawn call
that is still between its two steps, or to one whose host spawn panicked with
the task in the scheduler; every record with a handle is aborted by the
shutdown or by the registration itself.
-/

namespace Telekio.Bridge

open Telekio.Interleave
open Telekio.Owner

variable {world : World}

/-- The abort loop of a run has finished. -/
def ShutdownStage.abortLoopFinished (stage : ShutdownStage) : Prop :=
  stage.tasksLeft = some []

/-- The record of a call that has registered its task holds a handle. -/
theorem registered_of_returned (reached : program.Reachable world)
    {thread : Nat} {spawn : Spawn}
    (running : world.threads thread = some (.spawn spawn))
    (armed : spawn.cleanup = .armed)
    (returned : spawn.call = .returned) :
    ∃ handle, world.shared.tasks.lookup spawn.id =
      some (some handle) := by
  refine Program.thread_invariant
    (fun shared held => ∀ spawn, held = .spawn spawn →
      spawn.cleanup = .armed → spawn.call = .returned →
      ∃ handle, shared.tasks.lookup spawn.id = some (some handle))
    ?_ ?_ ?_ reached running spawn rfl armed returned
  · intro world first _ starts spawn same armed
    cases starts <;> cases same
    cases armed
  · intro world thread current op next reached running acts registered
      after same armed returned
    subst same
    cases acts with
    | @spawn before _ _ acts =>
        have ordered := ordered_of_spawn reached running
        have kept : op = .skip → before.cleanup = .armed →
            before.call = .returned → before.id = after.id →
            ∃ handle, (op.apply world.shared).tasks.lookup after.id =
              some (some handle) := by
          intro skips wasArmed wasReturned same
          rw [skips, ← same]
          exact registered before rfl wasArmed wasReturned
        cases acts with
        | @register handle spawned =>
            obtain ⟨slot, found⟩ := Option.isSome_iff_exists.mp
              (taskOwning.isPresent reached running
                (Thread.taskRecord_eq_some.mpr
                  ⟨before, rfl, armed, rfl⟩))
            refine ⟨handle, ?_⟩
            change (Table.assign before.id (some handle)
              world.shared.tasks).lookup before.id = some (some handle)
            rw [Table.lookup_assign_eq, if_pos ⟨rfl, by simp [found]⟩]
        | leaveRefused refused released =>
            have unset := ordered.beforeReserve (Or.inr refused)
            rw [unset] at armed
            cases armed
        | leaveRejected rejected dropped =>
            rw [dropped] at armed
            cases armed
        | _ => first
            | exact kept rfl armed returned rfl
            | (simp at returned; done)
            | simp at armed
  · intro world thread bystander current op next held reached different
      running holding acts registered spawn same armed returned
    subst same
    obtain ⟨handle, found⟩ := registered spawn rfl armed returned
    have owned : (Thread.spawn spawn).taskRecord = some spawn.id :=
      Thread.taskRecord_eq_some.mpr ⟨spawn, rfl, armed, rfl⟩
    rcases (ownerChange_apply op world.shared).task_before found with
      same | ⟨rfl, _⟩ | ⟨other, _, updated⟩
    · exact ⟨handle, same⟩
    · obtain ⟨remover, _, rfl, _, same, removerArmed, _⟩ :=
        Thread.removeTask_of_acts acts
      refine absurd ?_ (taskOwning.exclusive reached different holding
        running owned)
      exact Thread.taskRecord_eq_some.mpr
        ⟨remover, rfl, removerArmed, same⟩
    · exact ⟨other, updated⟩

/-- A record without a handle belongs to a spawn call between its two steps,
or to one that has left its task behind. -/
theorem between_of_unregistered (reached : program.Reachable world)
    {id : Nat} (found : world.shared.tasks.lookup id = some none) :
    (∃ thread spawn, world.threads thread = some (.spawn spawn) ∧
      spawn.id = id ∧ spawn.betweenReserveAndRegister) ∨
      LeftBehind world id := by
  have present : (world.shared.tasks.lookup id).isSome := by
    simp [found]
  obtain ⟨thread, held, running, owned⟩ :=
    taskKeeping.exists_owner reached present
  obtain ⟨spawn, rfl, armed, rfl⟩ := Thread.taskRecord_eq_some.mp owned
  have ordered := ordered_of_spawn reached running
  by_cases between : spawn.betweenReserveAndRegister
  · exact Or.inl ⟨thread, spawn, running, rfl, between⟩
  · refine Or.inr ⟨thread, spawn, running, rfl, ?_, armed⟩
    unfold Spawn.betweenReserveAndRegister at between
    cases stage : spawn.call with
    | called =>
        have unset := ordered.beforeReserve (Or.inl stage)
        exact absurd (armed.symm.trans unset) (by decide)
    | refused =>
        have unset := ordered.beforeReserve (Or.inr stage)
        exact absurd (armed.symm.trans unset) (by decide)
    | returned =>
        obtain ⟨handle, registered⟩ :=
          registered_of_returned reached running armed stage
        exact absurd (found.symm.trans registered) (by simp)
    | abandoned => rfl
    | _ => simp [stage, armed] at between

/-- A record with a handle got it from a spawn call that has returned. -/
theorem returned_of_registered (reached : program.Reachable world)
    {id : Nat} {handle : AbortHandle}
    (found : world.shared.tasks.lookup id = some (some handle)) :
    ∃ thread spawn, world.threads thread = some (.spawn spawn) ∧
      spawn.id = id ∧ spawn.call = .returned := by
  refine Program.invariant
    (fun world => ∀ id handle,
      world.shared.tasks.lookup id = some (some handle) →
      ∃ thread spawn, world.threads thread = some (.spawn spawn) ∧
        spawn.id = id ∧ spawn.call = .returned)
    ?_ ?_ reached id handle found
  · rintro shared rfl id handle found
    simp [World.quiet, Shared.fresh, Shared.tasks, ownerState] at found
  · intro before after reachedBefore step earlier id handle found
    cases step with
    | fork free starts =>
        obtain ⟨thread, spawn, running, same, returned⟩ :=
          earlier id handle found
        refine ⟨thread, spawn, ?_, same, returned⟩
        rw [World.put_threads_of_ne]
        · exact running
        · rintro rfl
          rw [free] at running
          cases running
    | @move _ mover op moves =>
        obtain @⟨current, next, moving, acts⟩ := moves
        rcases (ownerChange_apply op before.shared).task_after found with
          old | ⟨_, impossible, _⟩ | ⟨other, rfl, _, _⟩
        · obtain ⟨thread, spawn, running, same, returned⟩ :=
            earlier id handle old
          by_cases own : thread = mover
          · subst own
            rw [moving] at running
            cases running
            cases acts with
            | spawn acts =>
                have kept := Spawn.returned_acts acts returned
                exact ⟨thread, _, World.put_threads_self _ _ _ _,
                  kept.2.trans same, kept.1⟩
          · refine ⟨thread, spawn, ?_, same, returned⟩
            rw [World.put_threads_of_ne _ _ _ own]
            exact running
        · cases impossible
        · obtain ⟨spawn, rfl⟩ := Thread.performs_of_acts acts
          cases acts with
          | spawn acts =>
              cases acts with
              | register spawned =>
                  exact ⟨mover, _, World.put_threads_self _ _ _ _,
                    rfl, rfl⟩

/-- No two spawn calls have used the id. -/
def SpawnedOnce (world : World) (id : Nat) : Prop :=
  ∀ first second one other,
    world.threads first = some (.spawn one) → one.id = id →
    world.threads second = some (.spawn other) → other.id = id →
    first = second

/-- The record of a task that was left behind never gets a handle. -/
theorem unregistered_of_leftBehind (reached : program.Reachable world)
    {id : Nat} (left : LeftBehind world id) (once : SpawnedOnce world id)
    {slot : Option AbortHandle}
    (found : world.shared.tasks.lookup id = some slot) :
    slot = none := by
  obtain ⟨thread, spawn, running, same, abandoned, armed⟩ := left
  cases slot with
  | none => rfl
  | some handle =>
      obtain ⟨other, registered, holding, sameToo, returned⟩ :=
        returned_of_registered reached found
      obtain rfl := once thread other spawn registered running same
        holding sameToo
      rw [running] at holding
      cases holding
      rw [abandoned] at returned
      cases returned

/-- No admitted task escapes abortion, unless the host has left it behind; and
such a task has no handle that anyone could abort. -/
theorem tasks_areAborted (reached : program.Reachable world) :
    (∀ thread run, world.threads thread = some (.shutdown run) →
      run.stage.abortLoopFinished →
      (∀ other spawn, world.threads other = some (.spawn spawn) →
        ¬ spawn.betweenReserveAndRegister) →
      ∀ id slot, world.shared.tasks.lookup id = some slot →
        (¬ LeftBehind world id →
          ∃ handle, slot = some handle ∧ world.shared.aborted handle) ∧
        (LeftBehind world id → SpawnedOnce world id → slot = none)) ∧
    (∀ id handle key,
      ((Op.registerTask id handle).apply world.shared).tasks.lookup key ≠
        none →
      world.shared.tasks.lookup key ≠ none) ∧
    ∀ id, id ∈ world.shared.tasks →
      (∃ error, (world.shared.owner.reserveTask id).2 = .error error) ∧
        (Op.reserveTask id).apply world.shared = world.shared := by
  refine ⟨?_, ?_, ?_⟩
  · intro thread run running finished settled id slot found
    refine ⟨?_, fun left once =>
      unregistered_of_leftBehind reached left once found⟩
    intro kept
    cases slot with
    | none =>
        rcases between_of_unregistered reached found with
          ⟨other, spawn, spawning, _, between⟩ | left
        · exact absurd between (settled other spawn spawning)
        · exact absurd left kept
    | some handle =>
        exact ⟨handle, rfl,
          abortSweep.settled_of_done reached running finished
            ⟨id, found⟩⟩
  · intro id handle key present
    obtain ⟨slot, found⟩ := Option.ne_none_iff_exists'.mp present
    rcases (ownerChange_apply _ world.shared).task_after found with
      old | ⟨impossible, _⟩ | ⟨_, _, _, old⟩
    · exact Option.ne_none_iff_exists'.mpr ⟨slot, old⟩
    · cases impossible
    · exact Option.isSome_iff_ne_none.mp old
  · intro id member
    obtain ⟨error, refused⟩ : ∃ error,
        (world.shared.owner.reserveTask id).2 = .error error := by
      cases result : (world.shared.owner.reserveTask id).2 with
      | error error => exact ⟨error, rfl⟩
      | ok _ =>
          exact absurd member (OwnerState.reserveTask_eq_ok result).2.1
    have owner : (Op.reserveTask id).owner world.shared =
        world.shared.owner :=
      OwnerState.reserveTask_eq_error refused
    exact ⟨⟨error, refused⟩, by simp [Op.apply, owner, Op.hostTasks,
      Op.runtimes, Op.resources, Op.deferreds, Op.contexts, Op.woken]⟩

/-- After the abort loop of a shutdown: task 7 is running and task 8 was left
behind. -/
structure TwoTasks (world : World) (run : Shutdown) : Prop where
  reached : program.Reachable world
  running : world.threads 0 = some (.shutdown run)
  finished : run.stage.abortLoopFinished
  registered : world.shared.tasks.lookup 7 = some (some 0)
  unregistered : world.shared.tasks.lookup 8 = some none
  abandoned : world.threads 2 =
    some (.spawn ⟨.spawn, 8, .abandoned, .held, .armed⟩)
  calls : ∀ thread spawn, world.threads thread = some (.spawn spawn) →
    thread = 1 ∧ spawn = ⟨.spawn, 7, .returned, .held, .armed⟩ ∨
      thread = 2 ∧ spawn = ⟨.spawn, 8, .abandoned, .held, .armed⟩

namespace TwoTasks

variable {run : Shutdown}

theorem settled (tasks : TwoTasks world run) (thread : Nat)
    (spawn : Spawn) (running : world.threads thread = some (.spawn spawn)) :
    ¬ spawn.betweenReserveAndRegister := by
  rcases tasks.calls thread spawn running with ⟨_, rfl⟩ | ⟨_, rfl⟩
  · exact id
  · exact id

theorem kept (tasks : TwoTasks world run) : ¬ LeftBehind world 7 := by
  rintro ⟨thread, spawn, running, same, abandoned, _⟩
  rcases tasks.calls thread spawn running with ⟨_, rfl⟩ | ⟨_, rfl⟩
  · cases abandoned
  · cases same

theorem left (tasks : TwoTasks world run) : LeftBehind world 8 :=
  ⟨2, _, tasks.abandoned, rfl, rfl, rfl⟩

theorem once (tasks : TwoTasks world run) : SpawnedOnce world 8 := by
  intro first second one other running same holding sameToo
  rcases tasks.calls first one running with ⟨_, rfl⟩ | ⟨rfl, _⟩
  · cases same
  · rcases tasks.calls second other holding with ⟨_, rfl⟩ | ⟨rfl, _⟩
    · cases sameToo
    · rfl

end TwoTasks

theorem exists_twoTasks : ∃ world run, TwoTasks world run := by
  have forked :=
    reachable_fresh.fork 1 rfl (.spawn .spawn 7)
  have reserved := forked.move 1 rfl (.spawn (.reserve rfl rfl))
  have spawned := reserved.move 1 rfl (.spawn (.hostSpawn 0 rfl rfl))
  have registered := spawned.move 1 rfl (.spawn (.register rfl))
  have second := registered.fork 2 rfl (.spawn .spawn 8)
  have admitted := second.move 2 rfl (.spawn (.reserve rfl rfl))
  have abandoned := admitted.move 2 rfl (.spawn (.hostAbandon rfl))
  have began := abandoned.fork 0 rfl .shutdown
  have entered := began.move 0 rfl (.shutdown (.callback rfl rfl))
  have cut := entered.move 0 rfl (.shutdown (.cutoff rfl rfl))
  have aborted := cut.move 0 rfl (.shutdown (.abort rfl))
  have finished := aborted.move 0 rfl (.shutdown (.aborted rfl))
  refine ⟨_, _, finished, rfl, rfl, rfl, rfl, rfl, ?_⟩
  intro thread spawn running
  by_cases shutdown : thread = 0
  · subst shutdown
    cases running
  · by_cases first : thread = 1
    · subst first
      cases running
      exact Or.inl ⟨rfl, rfl⟩
    · by_cases second : thread = 2
      · subst second
        cases running
        exact Or.inr ⟨rfl, rfl⟩
      · simp [World.put, World.quiet, shutdown, first, second] at running

/-- The loop of the shutdown aborts the task that is running, and finds no
handle for the other. -/
theorem tasks_areAborted_twoTasks :
    ∃ world run, TwoTasks world run ∧
      (∃ handle, some 0 = some handle ∧ world.shared.aborted handle) ∧
      (none : Option AbortHandle) = none := by
  obtain ⟨world, run, tasks⟩ := exists_twoTasks
  have aborted := (tasks_areAborted tasks.reached).1 0 run tasks.running
    tasks.finished tasks.settled
  exact ⟨world, run, tasks, (aborted 7 _ tasks.registered).1 tasks.kept,
    (aborted 8 _ tasks.unregistered).2 tasks.left tasks.once⟩

/-- A host spawn that panics after it has queued the task leaves a record
that no shutdown can abort. -/
theorem task_escapesAbortion :
    ¬ ∀ world, program.Reachable world →
      ∀ thread run, world.threads thread = some (.shutdown run) →
        run.stage.abortLoopFinished →
        (∀ other spawn, world.threads other = some (.spawn spawn) →
          ¬ spawn.betweenReserveAndRegister) →
        ∀ id slot, world.shared.tasks.lookup id = some slot →
          ∃ handle, slot = some handle ∧ world.shared.aborted handle := by
  intro claimed
  obtain ⟨world, run, tasks⟩ := exists_twoTasks
  obtain ⟨handle, impossible, _⟩ := claimed world tasks.reached 0 run
    tasks.running tasks.finished tasks.settled 8 none tasks.unregistered
  cases impossible

end Telekio.Bridge
