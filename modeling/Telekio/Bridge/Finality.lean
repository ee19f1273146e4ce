import Telekio.Bridge.Records
import Telekio.Bridge.Sweeps

/-!
# Shutdown is final

The cutoff is never undone and admits nothing afterwards; a run that returned
leaves the owner ready to detach for good; and a run that a `LocalRuntime`
turned away has changed nothing.
-/

namespace Telekio.Bridge

open Telekio.Interleave
open Telekio.Owner

variable {before after : World}

/-- Every id in the tables of `after` was already there in `before`. -/
structure NothingNew (before after : Shared) : Prop where
  tasks : ∀ id, after.tasks.lookup id ≠ none →
    before.tasks.lookup id ≠ none
  activities : ∀ id, after.activities.lookup id ≠ none →
    before.activities.lookup id ≠ none
  runtimes : ∀ id, after.owner.state.runtimes.lookup id ≠ none →
    before.owner.state.runtimes.lookup id ≠ none
  resources : ∀ id, after.owner.state.resources.lookup id ≠ none →
    before.owner.state.resources.lookup id ≠ none

theorem nothingNew_apply {first shared : Shared} {op : Op}
    (refusing : Refusing shared) (earlier : NothingNew first shared) :
    NothingNew first (op.apply shared) where
  tasks := fun id present =>
    earlier.tasks id (task_of_apply refusing present)
  activities := fun id present =>
    earlier.activities id (activity_of_apply refusing present)
  runtimes := by
    intro id present
    refine earlier.runtimes id ?_
    obtain ⟨runtime, found⟩ := Option.ne_none_iff_exists'.mp present
    rcases (ownerChange_apply op shared).runtime_after found with
      old | ⟨_, running, _⟩
    · exact Option.ne_none_iff_exists'.mpr ⟨runtime, old⟩
    · exact absurd (refusing.symm.trans running) (by decide)
  resources := by
    intro id present
    refine earlier.resources id ?_
    obtain ⟨resource, found⟩ := Option.ne_none_iff_exists'.mp present
    rcases (ownerChange_apply op shared).resource_after found with
      old | ⟨_, running, _⟩
    · exact Option.ne_none_iff_exists'.mpr ⟨resource, old⟩
    · exact absurd (refusing.symm.trans running) (by decide)

theorem nothingNew_of_steps
    (reached : program.Reachable before)
    (steps : program.Steps before after)
    (refusing : Refusing before.shared) :
    Refusing after.shared ∧ NothingNew before.shared after.shared := by
  refine Program.shared_lasts
    (fun shared => Refusing shared ∧ NothingNew before.shared shared)
    reached steps ⟨refusing, ⟨?_, ?_, ?_, ?_⟩⟩ ?_
  · exact fun _ present => present
  · exact fun _ present => present
  · exact fun _ present => present
  · exact fun _ present => present
  · rintro world thread current op next _ _ _ ⟨isClosed, earlier⟩
    exact ⟨refusing_apply isClosed, nothingNew_apply isClosed earlier⟩

/-- What a successful shutdown promises of the owner. -/
structure ShutDown (shared : Shared) : Prop where
  refusing : Refusing shared
  tasks : ∀ id, shared.tasks.lookup id = none
  activities : ∀ id, shared.activities.lookup id = none
  runtimes : ∀ runtime, RegisteredRuntime shared runtime →
    shared.runtimeClosed runtime = true
  resources : ∀ resource, RegisteredResource shared resource →
    shared.resourceClosed resource = true

theorem idle_of_returned {world : World}
    (reached : program.Reachable world) {thread : Nat} {run : Shutdown}
    (running : world.threads thread = some (.shutdown run))
    (returned : run.stage = .returned (.ok ())) :
    world.shared.owner.idle = true := by
  refine Program.thread_invariant
    (fun shared held => ∀ run, held = .shutdown run →
      run.stage = .returned (.ok ()) → Refusing shared ∧
        shared.owner.idle = true)
    ?_ ?_ ?_ reached running run rfl returned |>.2
  · intro world first _ starts run same returned
    cases starts <;> cases same
    cases returned
  · intro world thread current op next reached running acts earlier
      after same returned
    subst same
    cases acts with
    | @shutdown run _ _ acts =>
        have kept : run.stage = .returned (.ok ()) →
            Refusing (op.apply world.shared) ∧
              (op.apply world.shared).owner.idle = true := by
          intro already
          obtain ⟨refusing, idle⟩ := earlier run rfl already
          exact ⟨refusing_apply refusing, idle_apply refusing idle⟩
        cases acts with
        | idle checking idle =>
            exact ⟨refusing_of_tasksLeft reached running
              (by simp [checking, ShutdownStage.tasksLeft]), idle⟩
        | _ => first | exact kept returned | cases returned
  · intro world thread bystander current op next held _ _ _ _ _ earlier
      run same returned
    obtain ⟨refusing, idle⟩ := earlier run same returned
    exact ⟨refusing_apply refusing, idle_apply refusing idle⟩

theorem shutDown_of_returned {world : World}
    (reached : program.Reachable world) {thread : Nat} {run : Shutdown}
    (running : world.threads thread = some (.shutdown run))
    (returned : run.stage = .returned (.ok ())) :
    ShutDown world.shared := by
  obtain ⟨tasks, activities⟩ :=
    idle_iff.mp (idle_of_returned reached running returned)
  have closure : run.runtimesLeft = some [] := by
    rcases ((ordered_of_shutdown reached running).waiting
        (by simp [returned, ShutdownStage.waits])).2 with
      absent | finished
    · simp [Shutdown.runtimesLeft, absent, returned]
    · simp [Shutdown.runtimesLeft, finished]
  refine ⟨?_, tasks, activities, ?_, ?_⟩
  · exact refusing_of_tasksLeft reached running
      (by simp [returned, ShutdownStage.tasksLeft])
  · intro runtime registered
    exact runtimeSweep.settled_of_done reached running closure registered
  · intro resource registered
    exact Shared.resourceClosed_of_resourceShut
      (closeSweep.settled_of_done reached running
        (by simp [Thread.resourcesLeft, returned,
          ShutdownStage.resourcesLeft])
        registered)

theorem shutDown_apply {shared : Shared} {op : Op}
    (fresh : op.Fresh shared) (shutDown : ShutDown shared) :
    ShutDown (op.apply shared) := by
  obtain ⟨refusing, tasks, activities, runtimes, resources⟩ := shutDown
  have change := ownerChange_apply op shared
  refine ⟨refusing_apply refusing, ?_, ?_, ?_, ?_⟩
  · intro id
    by_contra present
    exact task_of_apply refusing present (tasks id)
  · intro id
    by_contra present
    exact activity_of_apply refusing present (activities id)
  · rintro runtime ⟨id, found⟩
    rcases change.runtime_after found with old | ⟨_, running, _⟩
    · exact runtimeClosed_apply fresh (runtimes runtime ⟨id, old⟩)
    · exact absurd (refusing.symm.trans running) (by decide)
  · rintro resource ⟨id, found⟩
    rcases change.resource_after found with old | ⟨_, running, _⟩
    · exact resourceClosed_apply fresh (resources resource ⟨id, old⟩)
    · exact absurd (refusing.symm.trans running) (by decide)

theorem shutDown_of_steps
    (reached : program.Reachable before)
    (steps : program.Steps before after)
    (shutDown : ShutDown before.shared) :
    ShutDown after.shared :=
  Program.shared_lasts ShutDown reached steps shutDown
    fun _ _ _ _ _ _ _ acts => shutDown_apply (Thread.fresh_of_acts acts)

/-- An owner that is shut down can be detached. -/
theorem detach_of_shutDown {shared : Shared}
    (shutDown : ShutDown shared) :
    (shared.owner.detach shared.runtimeClosed
      shared.resourceClosed).2 = .ok () := by
  obtain ⟨refusing, tasks, activities, runtimes, resources⟩ := shutDown
  have noTasks : Table.isEmpty shared.owner.state.tasks = true :=
    Table.isEmpty_iff.mpr tasks
  have noActivities :
      Table.isEmpty shared.owner.state.activities = true :=
    Table.isEmpty_iff.mpr activities
  have runtimesClosed : (Table.values shared.owner.state.runtimes).any
      (fun runtime => !shared.runtimeClosed runtime) = false := by
    rw [List.any_eq_false]
    intro runtime member
    simp [runtimes runtime (Table.mem_values.mp member)]
  have resourcesClosed : (Table.values shared.owner.state.resources).any
      (fun resource => !shared.resourceClosed resource) = false := by
    rw [List.any_eq_false]
    intro resource member
    simp [resources resource (Table.mem_values.mp member)]
  simp [OwnerState.detach, OwnerState.isAccepting, noTasks,
    noActivities, runtimesClosed, resourcesClosed,
    show shared.owner.accepting = false from refusing]

/-! ## A run that was turned away -/

/-- A step that does not pass the cutoff changes the owner only at the
activity of the run. -/
theorem owner_eq_of_tasksLeft_none {shared : Shared} {run next : Shutdown}
    {op : Op} (acts : Shutdown.Acts shared run op next)
    (turnedAway : next.stage.tasksLeft = none) :
    (op.apply shared).accepting = shared.accepting ∧
      (op.apply shared).tasks = shared.tasks ∧
      (op.apply shared).owner.state.runtimes =
        shared.owner.state.runtimes ∧
      (op.apply shared).owner.state.resources =
        shared.owner.state.resources ∧
      ∀ id, next.cleanup.id? ≠ some id →
        (op.apply shared).activities.lookup id =
          shared.activities.lookup id := by
  cases acts with
  | @callback id called admitted =>
      obtain ⟨_, rfl, added⟩ := OwnerState.callback_eq_some admitted
      have owner : (Op.apply (.callback .noop) shared).owner =
          shared.owner.addActivity (some .noop) := added
      refine ⟨?_, ?_, ?_, ?_, ?_⟩
      · simp [Shared.accepting, owner, OwnerState.addActivity]
      · simp [Shared.tasks, owner, OwnerState.addActivity]
      · simp [owner, OwnerState.addActivity]
      · simp [owner, OwnerState.addActivity]
      · intro id different
        have distinct : id ≠ shared.owner.state.nextId := by
          rintro rfl
          exact different rfl
        simp [Shared.activities, owner, OwnerState.addActivity,
          AList.lookup_insert_ne distinct]
  | refuseCallback called refused =>
      have owner : (Op.apply (.callback .noop) shared).owner =
          shared.owner := by
        by_cases running : shared.owner.accepting = true
        · simp [OwnerState.callback, OwnerState.isAccepting,
            running] at refused
        · simp [Op.apply, Op.owner, OwnerState.callback,
            OwnerState.isAccepting, running]
      simp [Shared.accepting, Shared.tasks, Shared.activities, owner]
  | refuseCutoff entered refused =>
      have owner : (Op.apply .cutoff shared).owner = shared.owner :=
        OwnerState.cutoff_eq_error refused
      simp [Shared.accepting, Shared.tasks, Shared.activities, owner]
  | drop dropping drops =>
      cases drops with
      | remove armed =>
          refine ⟨rfl, rfl, rfl, rfl, ?_⟩
          intro id different
          have distinct : id ≠ _ := fun same =>
            different (congrArg some same.symm)
          exact AList.lookup_erase_ne distinct
      | notify removed =>
          exact ⟨rfl, rfl, rfl, rfl, fun _ _ => rfl⟩
  | _ =>
      first
        | exact ⟨rfl, rfl, rfl, rfl, fun _ _ => rfl⟩
        | cases turnedAway

/-- The stages a run can still reach from an earlier one. -/
structure Later (run later : Shutdown) : Prop where
  cutOff : run.stage.tasksLeft ≠ none → later.stage.tasksLeft ≠ none
  entered : run.stage ≠ .called →
    later.stage ≠ .called ∧ later.cleanup.id? = run.cleanup.id?

theorem later_acts {shared : Shared} {run next : Shutdown} {op : Op}
    (acts : Shutdown.Acts shared run op next) (ordered : run.Ordered) :
    Later run next := by
  have noClosure := ordered.noClosure
  cases acts with
  | drop dropping drops =>
      cases drops with
      | remove armed =>
          exact ⟨id, fun entered => ⟨entered, by
            simp [armed, Cleanup.id?]⟩⟩
      | notify removed =>
          exact ⟨id, fun entered => ⟨entered, by
            simp [removed, Cleanup.id?]⟩⟩
  | _ => constructor <;> grind -ring -linarith [ShutdownStage.tasksLeft]

theorem later_of_steps {thread : Nat} {run : Shutdown}
    (reached : program.Reachable before)
    (steps : program.Steps before after)
    (running : before.threads thread = some (.shutdown run)) :
    ∃ later, after.threads thread = some (.shutdown later) ∧
      Later run later := by
  have lasts := @Program.thread_lasts _ _ _ program
    (fun found => ∃ later, found = .shutdown later ∧ Later run later)
    before after thread reached steps
    ⟨_, running, run, rfl, ⟨id, fun entered => ⟨entered, rfl⟩⟩⟩ (by
      rintro world current op next reachedWorld found acts
        ⟨later, rfl, earlier⟩
      cases acts with
      | @shutdown _ after _ acts =>
          have step := later_acts acts
            (ordered_of_shutdown reachedWorld found)
          refine ⟨after, rfl, ?_, ?_⟩
          · exact fun cut => step.cutOff (earlier.cutOff cut)
          · intro entered
            obtain ⟨stage, kept⟩ := earlier.entered entered
            obtain ⟨nextStage, nextKept⟩ := step.entered stage
            exact ⟨nextStage, nextKept.trans kept⟩)
  obtain ⟨_, found, later, rfl, after⟩ := lasts
  exact ⟨later, found, after⟩

/-- A step that leaves the owner as it was, up to the activity `temporary`
of the thread that takes it. -/
structure Untouched (before after : Shared) (temporary : Option Nat) :
    Prop where
  accepting : after.accepting = before.accepting
  tasks : after.tasks = before.tasks
  runtimes : after.owner.state.runtimes = before.owner.state.runtimes
  resources : after.owner.state.resources = before.owner.state.resources
  activities : ∀ id, temporary ≠ some id →
    after.activities.lookup id = before.activities.lookup id

theorem entered_of_acts {shared : Shared} {run next : Shutdown} {op : Op}
    (acts : Shutdown.Acts shared run op next) (ordered : run.Ordered) :
    next.stage ≠ .called := by
  have called := ordered.called
  have noClosure := ordered.noClosure
  cases acts with
  | drop dropping drops =>
      have held := Shutdown.not_gone_of_drops drops
      grind -ring -linarith [Cleanup.gone]
  | _ => grind -ring -linarith [ShutdownStage.tasksLeft]

/-- Every step of a run that a `LocalRuntime` turned away has left the owner
as it was. -/
theorem untouched_of_turnedAway {middle : World} {thread : Nat} {op : Op}
    {earlier run : Shutdown}
    (reached : program.Reachable before)
    (began : before.threads thread = some (.shutdown earlier))
    (moves : program.Moves thread op before middle)
    (steps : program.Steps middle after)
    (running : after.threads thread = some (.shutdown run))
    (turnedAway : run.stage = .returned (.error .localRuntime)) :
    Untouched before.shared middle.shared run.cleanup.id? := by
  have reachedMiddle := reached.step (.move moves)
  have ordered := ordered_of_shutdown reached began
  obtain @⟨current, next, moving, acts⟩ := moves
  rw [began] at moving
  cases moving
  cases acts with
  | @shutdown _ next _ acts =>
      obtain ⟨later, found, order⟩ :=
        later_of_steps reachedMiddle steps
          (World.put_threads_self before
            (program.apply op before.shared) thread (.shutdown next))
      rw [running] at found
      cases found
      have stage : next.stage.tasksLeft = none := by
        by_contra cut
        exact order.cutOff cut
          (by simp [turnedAway, ShutdownStage.tasksLeft])
      obtain ⟨accepting, tasks, runtimes, resources, activities⟩ :=
        owner_eq_of_tasksLeft_none acts stage
      rw [← (order.entered (entered_of_acts acts ordered)).2]
        at activities
      exact ⟨accepting, tasks, runtimes, resources, activities⟩

/-- The activity of a run that was turned away is gone. -/
theorem activity_of_turnedAway {thread id : Nat} {run : Shutdown}
    (reached : program.Reachable after)
    (running : after.threads thread = some (.shutdown run))
    (turnedAway : run.stage = .returned (.error .localRuntime))
    (temporary : run.cleanup.id? = some id) :
    after.shared.activities.lookup id = none := by
  have gone := (ordered_of_shutdown reached running).refused turnedAway
  exact activity_of_gone reached running gone temporary

/-- Shutdown is final and makes detaching succeed. -/
theorem shutdown_isFinal
    (reached : program.Reachable before)
    (steps : program.Steps before after) :
    (Refusing before.shared →
      Refusing after.shared ∧
        NothingNew before.shared after.shared) ∧
    (∀ thread run,
      before.threads thread = some (.shutdown run) →
      run.stage = .returned (.ok ()) →
      ShutDown after.shared ∧
        (after.shared.owner.detach after.shared.runtimeClosed
          after.shared.resourceClosed).2 = .ok ()) ∧
    ∀ thread op earlier middle run,
      before.threads thread = some (.shutdown earlier) →
      program.Moves thread op before middle →
      program.Steps middle after →
      after.threads thread = some (.shutdown run) →
      run.stage = .returned (.error .localRuntime) →
      Untouched before.shared middle.shared run.cleanup.id? ∧
        ∀ id, run.cleanup.id? = some id →
          after.shared.activities.lookup id = none := by
  refine ⟨nothingNew_of_steps reached steps, ?_, ?_⟩
  · intro thread run running returned
    have shutDown := shutDown_of_steps reached steps
      (shutDown_of_returned reached running returned)
    exact ⟨shutDown, detach_of_shutDown shutDown⟩
  · intro thread op earlier middle run began moves later running
      turnedAway
    exact ⟨untouched_of_turnedAway reached began moves later running
        turnedAway,
      fun id => activity_of_turnedAway (reached.steps steps) running
        turnedAway⟩

/-- A run on an owner with a task, a resource and a runtime returns. -/
theorem exists_returned_of_busy :
    ∃ world run, program.Reachable world ∧
      world.threads 0 = some (.shutdown run) ∧
      run.stage = .returned (.ok ()) ∧ world.shared.aborted 0 ∧
      RegisteredResource world.shared 0 ∧
      RegisteredRuntime world.shared 0 := by
  have forkedTask := reachable_fresh.fork 1 rfl (.spawn .spawn 7)
  have reserved := forkedTask.move 1 rfl (.spawn (.reserve rfl rfl))
  have spawned := reserved.move 1 rfl (.spawn (.hostSpawn 0 rfl rfl))
  have registered := spawned.move 1 rfl (.spawn (.register rfl))
  have forkedResource := registered.fork 2 rfl .resource
  have created := forkedResource.move 2 rfl (.resource (.new 0 rfl))
  have live := created.move 2 rfl (.resource (.register rfl))
  have forkedBuild := live.fork 3 rfl (.build 3)
  have inside := forkedBuild.move 3 rfl (.build (.activity rfl rfl))
  have built := inside.move 3 rfl
    (.build (.buildRuntime 0 .runtime rfl (Or.inl rfl) rfl))
  have held := built.move 3 rfl (.build (.register rfl rfl))
  have exported := held.move 3 rfl (.build (.exportHandle 0 rfl rfl))
  have given := exported.move 3 rfl (.build (.drop rfl (.remove rfl)))
  have handed := given.move 3 rfl (.build (.drop rfl (.notify rfl)))
  have forked := handed.fork 0 rfl .shutdown
  have entered := forked.move 0 rfl (.shutdown (.callback rfl rfl))
  have cut := entered.move 0 rfl (.shutdown (.cutoff rfl rfl))
  have aborting := cut.move 0 rfl (.shutdown (.abort rfl))
  have aborted := aborting.move 0 rfl (.shutdown (.aborted rfl))
  have valueTaken := aborted.move 0 rfl (.shutdown (.takeValue rfl))
  have wakerTaken := valueTaken.move 0 rfl (.shutdown (.takeWaker rfl))
  have closed := wakerTaken.move 0 rfl (.shutdown (.closed rfl))
  have own := closed.move 0 rfl (.shutdown (.wake rfl))
  have woken := own.move 0 rfl (.shutdown (.woken rfl))
  have joining := woken.move 0 rfl (.shutdown (.spawnBlocking rfl rfl))
  have shut := joining.move 0 rfl
    (.shutdown (.closeRuntime 9 rfl rfl rfl))
  have allShut := shut.move 0 rfl (.shutdown (.closedAll rfl))
  have removed :=
    allShut.move 0 rfl (.shutdown (.drop trivial (.remove rfl)))
  have notified :=
    removed.move 0 rfl (.shutdown (.drop trivial (.notify rfl)))
  have finished := notified.move 0 rfl (.shutdown (.finish rfl trivial))
  have idling := finished.move 0 rfl (.shutdown (.joined rfl rfl))
  have checking := idling.move 0 rfl (.shutdown (.notified rfl))
  have parked := checking.move 0 rfl (.shutdown (.park rfl rfl))
  have cancelling := parked.move 1 rfl
    (.spawn (.cancel trivial (Or.inl rfl)))
  have cancelled := cancelling.move 1 rfl (.spawn (.cancelled rfl))
  have released := cancelled.move 1 rfl (.spawn (.released rfl))
  have taskRemoved := released.move 1 rfl (.spawn (.removeTask rfl rfl))
  have departing :=
    taskRemoved.move 1 rfl (.spawn (.noLongerAccepting rfl rfl))
  have fired := departing.move 1 rfl (.spawn (.notify rfl))
  have unparked := fired.move 0 rfl
    (.shutdown (.unpark rfl (by decide)))
  have rechecking := unparked.move 0 rfl (.shutdown (.notified rfl))
  have returned := rechecking.move 0 rfl (.shutdown (.idle rfl rfl))
  exact ⟨_, _, returned, rfl, rfl, rfl, ⟨1, rfl⟩, ⟨3, rfl⟩⟩

/-- The task, the resource and the runtime are shut down for good. -/
theorem shutdown_isFinal_of_busy :
    ∃ world, program.Reachable world ∧ world.shared.aborted 0 ∧
      RegisteredResource world.shared 0 ∧
      RegisteredRuntime world.shared 0 ∧ ShutDown world.shared ∧
      (world.shared.owner.detach world.shared.runtimeClosed
        world.shared.resourceClosed).2 = .ok () := by
  obtain ⟨world, run, reached, running, returned, aborted, resource,
    runtime⟩ := exists_returned_of_busy
  exact ⟨world, reached, aborted, resource, runtime,
    (shutdown_isFinal reached .refl).2.1 0 run running returned⟩

end Telekio.Bridge
