import Telekio.Bridge.Deferring
import Telekio.Bridge.Finality

/-!
# An idle owner reaches no guest code

When the owner is cut off and its tables are empty, every admitted descriptor
is released, the waker slots of closed resources are empty, and no admitted
`Deferred` holds a guest waker. A spawn call that was refused releases its
descriptor itself, without a record.
-/

namespace Telekio.Bridge

open Telekio.Interleave
open Telekio.Owner

variable {world : World}

theorem released_of_admitted (reached : program.Reachable world)
    (idle : world.shared.owner.idle = true)
    {thread : Nat} {spawn : Spawn}
    (running : world.threads thread = some (.spawn spawn))
    (admitted : spawn.admitted) :
    spawn.task = .released := by
  have ordered := ordered_of_spawn reached running
  refine ordered.afterRelease admitted ?_
  intro armed
  have present := taskOwning.isPresent reached running
    (Thread.taskRecord_eq_some.mpr ⟨spawn, rfl, armed, rfl⟩)
  simp [(idle_iff.mp idle).1 spawn.id] at present

theorem released_of_returned (reached : program.Reachable world)
    {thread : Nat} {spawn : Spawn}
    (running : world.threads thread = some (.spawn spawn))
    (refused : ¬ spawn.admitted) (returned : spawn.call = .returned) :
    spawn.task = .released := by
  rcases (ordered_of_spawn reached running).afterReserve
      (not_not.mp refused) with stage | stage | ⟨_, released⟩
  · exact absurd (returned.symm.trans stage) (by decide)
  · exact absurd (returned.symm.trans stage) (by decide)
  · exact released

/-- Some run is between the two statements of a close of this resource. -/
def Closing (world : World) (resource : ResourceRef) : Prop :=
  ∃ thread run resources wakers,
    world.threads thread = some (.shutdown run) ∧
    run.stage = .valueTaken resource resources wakers

/-- The resource is shut, or a run that holds its own activity has it in its
list. -/
def Covered (world : World) (resource : ResourceRef) : Prop :=
  world.shared.resourceShut resource ∨
    ∃ thread run id resources,
      world.threads thread = some (.shutdown run) ∧
      run.cleanup = .armed id ∧
      run.stage.resourcesLeft = some resources ∧
      resource ∈ resources

/-- A run drops its activity only when it has nothing left to close. -/
theorem covered_or_shut_of_acts {shared : Shared} {run next : Shutdown}
    {op : Op} {id : Nat} {resources : List ResourceRef}
    {resource : ResourceRef}
    (acts : Shutdown.Acts shared run op next) (ordered : run.Ordered)
    (armed : run.cleanup = .armed id)
    (left : run.stage.resourcesLeft = some resources)
    (member : resource ∈ resources) :
    (next.cleanup = .armed id ∧ ∃ rest,
        next.stage.resourcesLeft = some rest ∧ resource ∈ rest) ∨
      op = .takeWaker resource := by
  have called := ordered.called
  have listing := ordered.listing
  have waiting := ordered.waiting
  cases acts with
  | @takeWaker taken rest wakers valueTaken =>
      rw [valueTaken] at left
      cases Option.some.inj left
      rcases List.mem_cons.mp member with rfl | later
      · exact Or.inr rfl
      · exact Or.inl ⟨armed, rest, rfl, later⟩
  | drop dropping drops =>
      unfold Shutdown.dropsCleanup at dropping
      grind -ring -linarith [ShutdownStage.resourcesLeft, Cleanup.gone]
  | _ => grind -ring -linarith [ShutdownStage.resourcesLeft]

theorem covered_step {before after : World} {resource : ResourceRef}
    (reached : program.Reachable before)
    (step : program.Step before after)
    (covered : Covered before resource) :
    Covered after resource := by
  cases step with
  | @fork forked first free starts =>
      rcases covered with shut | ⟨thread, run, id, rest, running, held⟩
      · exact Or.inl shut
      · have different : thread ≠ forked := by
          rintro rfl
          rw [free] at running
          cases running
        refine Or.inr ⟨thread, run, id, rest, ?_, held⟩
        rw [World.put_threads_of_ne _ _ _ different]
        exact running
  | @move _ mover op moves =>
      obtain @⟨current, next, moving, acts⟩ := moves
      rcases covered with shut |
        ⟨thread, run, id, rest, running, armed, left, member⟩
      · exact Or.inl
          (resourceShut_apply (Thread.fresh_of_acts acts) shut)
      · by_cases same : thread = mover
        · subst same
          rw [running] at moving
          cases moving
          cases acts with
          | @shutdown _ later _ acts =>
              have ordered := ordered_of_shutdown reached running
              rcases covered_or_shut_of_acts acts ordered armed left
                  member with ⟨kept, rest, nextLeft, later⟩ | rfl
              · exact Or.inr ⟨thread, _, id, rest,
                  World.put_threads_self _ _ _ _, kept, nextLeft, later⟩
              · cases acts with
                | takeWaker valueTaken =>
                    obtain ⟨⟨value, waker⟩, known, isClosed⟩ :=
                      Shared.resourceClosed_iff.mp
                        (resourceClosed_of_valueTaken reached running
                          valueTaken)
                    left
                    simp_all [Shared.resourceShut, program, Op.apply,
                      Op.resources, HostResource.takeWaker,
                      HostResource.isClosed]
                | drop dropping drops => cases drops
        · refine Or.inr
            ⟨thread, run, id, rest, ?_, armed, left, member⟩
          rw [World.put_threads_of_ne _ _ _ same]
          exact running

/-- A run that entered without an activity found the owner cut off. -/
theorem armed_or_refusing_of_entered
    (reached : program.Reachable world) {thread : Nat} {run : Shutdown}
    (running : world.threads thread = some (.shutdown run))
    (entered : run.stage = .entered) :
    (∃ id, run.cleanup = .armed id) ∨ Refusing world.shared := by
  refine Program.thread_invariant
    (fun shared held => ∀ run, held = .shutdown run →
      run.stage = .entered →
      (∃ id, run.cleanup = .armed id) ∨ Refusing shared)
    ?_ ?_ ?_ reached running run rfl entered
  · intro world first _ starts run same entered
    cases starts <;> cases same
    cases entered
  · intro world thread current op next reached running acts earlier
      after same entered
    subst same
    cases acts with
    | @shutdown before _ _ acts =>
        have ordered := ordered_of_shutdown reached running
        have noClosure := ordered.noClosure
        cases acts with
        | callback called admitted => exact Or.inl ⟨_, rfl⟩
        | refuseCallback called refused =>
            refine Or.inr (refusing_apply ?_)
            cases running : world.shared.owner.accepting with
            | false => exact running
            | true =>
                simp [OwnerState.callback, OwnerState.isAccepting,
                  running] at refused
        | drop dropping drops =>
            unfold Shutdown.dropsCleanup at dropping
            grind -ring -linarith [ShutdownStage.tasksLeft]
        | _ => grind -ring -linarith [ShutdownStage.tasksLeft]
  · intro world thread bystander current op next held _ _ _ _ _ earlier
      run same entered
    exact (earlier run same entered).imp id refusing_apply

/-- The resources a cutoff snapshot holds are covered from then on. -/
def CoversAll (world : World) : Prop :=
  (Refusing world.shared → ∀ resource,
    RegisteredResource world.shared resource → Covered world resource) ∧
  ∀ thread run resources,
    world.threads thread = some (.shutdown run) →
    run.stage.resourcesLeft = some resources →
    ∀ resource ∈ resources, Covered world resource

theorem covered_of_cutoff {thread : Nat} {run : Shutdown}
    {snapshot : Snapshot} {resource : ResourceRef}
    (reached : program.Reachable world)
    (running : world.threads thread = some (.shutdown run))
    (entered : run.stage = .entered)
    (accepted : world.shared.accepting = true)
    (member : resource ∈ snapshot.resources) :
    Covered
      (world.put (Op.cutoff.apply world.shared) thread
        (.shutdown { run with stage := .aborting snapshot }))
      resource := by
  rcases armed_or_refusing_of_entered reached running entered with
    ⟨id, armed⟩ | refusing
  · exact Or.inr ⟨thread, _, id, snapshot.resources,
      World.put_threads_self _ _ _ _, armed, rfl, member⟩
  · exact absurd (refusing.symm.trans accepted) (by decide)

/-- Only the cutoff of a run makes the owner refuse. -/
theorem cutoff_of_acts {shared : Shared} {current next : Thread}
    {op : Op} (acts : Thread.Acts shared current op next)
    (accepted : shared.accepting = true)
    (refusing : Refusing (op.apply shared)) :
    ∃ run snapshot, op = .cutoff ∧ current = .shutdown run ∧
      run.stage = .entered ∧
      (shared.owner.cutoff shared.localOpen).2 = .ok snapshot ∧
      next = .shutdown { run with stage := .aborting snapshot } := by
  obtain ⟨rfl, _, _⟩ :=
    (ownerChange_apply op shared).cutoff_of_refuses accepted refusing
  obtain ⟨run, rfl⟩ := Thread.performs_of_acts acts
  cases acts with
  | shutdown acts =>
      cases acts with
      | cutoff entered succeeded =>
          exact ⟨_, _, rfl, rfl, entered, succeeded, rfl⟩
      | refuseCutoff entered refused =>
          have same := OwnerState.cutoff_eq_error refused
          change (shared.owner.cutoff shared.localOpen).1.accepting =
            false at refusing
          rw [same] at refusing
          exact absurd (accepted.symm.trans refusing) (by decide)
      | drop dropping drops => cases drops

theorem coversAll_registered {before after : World}
    (reached : program.Reachable before)
    (step : program.Step before after) (earlier : CoversAll before)
    (refusing : Refusing after.shared) {resource : ResourceRef}
    (registered : RegisteredResource after.shared resource) :
    Covered after resource := by
  cases accepted : before.shared.accepting with
  | false =>
      refine covered_step reached step (earlier.1 accepted resource ?_)
      cases step with
      | fork free starts => exact registered
      | @move _ mover op moves =>
          obtain @⟨current, next, moving, acts⟩ := moves
          obtain ⟨id, found⟩ := registered
          rcases (ownerChange_apply op before.shared).resource_after
              found with old | ⟨_, running, _⟩
          · exact ⟨id, old⟩
          · exact absurd (accepted.symm.trans running) (by decide)
  | true =>
      cases step with
      | fork free starts =>
          exact absurd (accepted.symm.trans refusing) (by decide)
      | @move _ mover op moves =>
          obtain @⟨current, next, moving, acts⟩ := moves
          obtain ⟨run, snapshot, rfl, rfl, entered, succeeded, rfl⟩ :=
            cutoff_of_acts acts accepted refusing
          refine covered_of_cutoff reached moving entered accepted ?_
          obtain ⟨cut, rfl, _⟩ := OwnerState.cutoff_eq_ok succeeded
          obtain ⟨id, found⟩ := registered
          change (before.shared.owner.cutoff
            before.shared.localOpen).1.state.resources.lookup id = _
              at found
          rw [cut] at found
          exact Table.mem_values.mpr ⟨id, found⟩

theorem coversAll (reached : program.Reachable world) :
    CoversAll world := by
  refine Program.invariant CoversAll ?_ ?_ reached
  · rintro shared rfl
    refine ⟨fun refusing => Bool.noConfusion refusing, ?_⟩
    intro thread run resources running
    simp [World.quiet] at running
  · intro before after reachedBefore step earlier
    refine ⟨fun refusing resource registered =>
      coversAll_registered reachedBefore step earlier refusing
        registered, ?_⟩
    intro thread run resources running left resource member
    have kept : ∀ earlierRun list,
        before.threads thread = some (.shutdown earlierRun) →
        earlierRun.stage.resourcesLeft = some list → resource ∈ list →
        Covered after resource :=
      fun earlierRun list found listed present =>
        covered_step reachedBefore step
          (earlier.2 thread earlierRun list found listed resource
            present)
    cases step with
    | fork free starts =>
        rcases World.threads_put_cases running with
          ⟨_, same⟩ | ⟨_, old⟩
        · subst same
          cases starts
          cases left
        · exact kept run resources old left member
    | @move _ mover op moves =>
        have step := Program.Step.move moves
        obtain @⟨current, next, moving, acts⟩ := moves
        rcases World.threads_put_cases running with
          ⟨rfl, rfl⟩ | ⟨_, old⟩
        · cases acts with
          | @shutdown earlierRun _ _ acts =>
              cases acts with
              | @cutoff snapshot entered succeeded =>
                  cases Option.some.inj left
                  obtain ⟨cut, rfl, _⟩ :=
                    OwnerState.cutoff_eq_ok succeeded
                  refine coversAll_registered reachedBefore step earlier
                    (congrArg OwnerState.accepting cut) ?_
                  obtain ⟨id, found⟩ := Table.mem_values.mp member
                  refine ⟨id, ?_⟩
                  change (before.shared.owner.cutoff
                    before.shared.localOpen).1.state.resources.lookup
                      id = _
                  rw [cut]
                  exact found
              | @takeWaker taken rest wakers valueTaken =>
                  cases Option.some.inj left
                  refine kept earlierRun (taken :: resources) moving ?_
                    (List.mem_cons_of_mem _ member)
                  simp [valueTaken, ShutdownStage.resourcesLeft]
              | _ =>
                  refine kept earlierRun resources moving ?_ member
                  grind -ring -linarith [ShutdownStage.resourcesLeft]
        · exact kept run resources old left member

/-- A closed resource keeps a waker only while some run closes it. -/
def ClosedEmpty (world : World) : Prop :=
  ∀ resource held, world.shared.resources resource = some held →
    held.isClosed = true → held.waker ≠ none → Closing world resource

theorem waker_of_apply {shared : Shared} {op : Op}
    {resource : ResourceRef} {held : HostResource Unit Nat}
    (found : (op.apply shared).resources resource = some held)
    (isClosed : held.isClosed = true) (waits : held.waker ≠ none) :
    op = .takeValue resource ∨
      (op ≠ .takeWaker resource ∧ ∃ before,
        shared.resources resource = some before ∧
        before.isClosed = true ∧ before.waker ≠ none) := by
  change op.resources shared resource = some held at found
  cases op with
  | newResource other =>
      by_cases same : resource = other
      · subst same
        simp only [Op.resources, Function.update_self,
          Option.some.injEq] at found
        subst found
        cases isClosed
      · exact Or.inr ⟨by simp, held,
          by simpa [Op.resources, same] using found, isClosed, waits⟩
  | updateWaker other waker =>
      by_cases same : resource = other
      · subst same
        obtain ⟨before, known, rfl⟩ : ∃ before,
            shared.resources resource = some before ∧
              before.updateWaker waker = held := by
          simpa [Op.resources] using found
        rw [HostResource.isClosed_updateWaker] at isClosed
        rw [HostResource.updateWaker_of_isClosed _ _ isClosed] at waits
        exact Or.inr ⟨by simp, before, known, isClosed, waits⟩
      · exact Or.inr ⟨by simp, held,
          by simpa [Op.resources, same] using found, isClosed, waits⟩
  | takeValue other =>
      by_cases same : resource = other
      · exact Or.inl (by rw [same])
      · exact Or.inr ⟨by simp, held,
          by simpa [Op.resources, same] using found, isClosed, waits⟩
  | takeWaker other =>
      by_cases same : resource = other
      · subst same
        obtain ⟨before, known, rfl⟩ : ∃ before,
            shared.resources resource = some before ∧
              before.takeWaker = held := by
          simpa [Op.resources] using found
        exact absurd rfl waits
      · exact Or.inr ⟨by simp [Ne.symm same], held,
          by simpa [Op.resources, same] using found, isClosed, waits⟩
  | _ => exact Or.inr ⟨by simp, held, found, isClosed, waits⟩

theorem valueTaken_of_acts {shared : Shared} {run next : Shutdown}
    {op : Op} {resource : ResourceRef} {rest : List ResourceRef}
    {wakers : List Waker} (acts : Shutdown.Acts shared run op next)
    (other : op ≠ .takeWaker resource)
    (valueTaken : run.stage = .valueTaken resource rest wakers) :
    next.stage = .valueTaken resource rest wakers := by
  cases acts <;> grind -ring -linarith

theorem closing_fork {thread : Nat} {first : Thread}
    {resource : ResourceRef} (free : world.threads thread = none)
    (closing : Closing world resource) :
    Closing (world.put world.shared thread first) resource := by
  obtain ⟨other, run, rest, wakers, running, valueTaken⟩ := closing
  have different : other ≠ thread := by
    rintro rfl
    rw [free] at running
    cases running
  refine ⟨other, run, rest, wakers, ?_, valueTaken⟩
  rw [World.put_threads_of_ne _ _ _ different]
  exact running

theorem closing_move {mover : Nat} {current next : Thread} {op : Op}
    {resource : ResourceRef}
    (moving : world.threads mover = some current)
    (acts : Thread.Acts world.shared current op next)
    (other : op ≠ .takeWaker resource)
    (closing : Closing world resource) :
    Closing (world.put (op.apply world.shared) mover next) resource := by
  obtain ⟨thread, run, rest, wakers, running, valueTaken⟩ := closing
  by_cases same : thread = mover
  · subst same
    rw [running] at moving
    cases moving
    cases acts with
    | @shutdown _ later _ acts =>
        exact ⟨thread, later, rest, wakers,
          World.put_threads_self _ _ _ _,
          valueTaken_of_acts acts other valueTaken⟩
  · refine ⟨thread, run, rest, wakers, ?_, valueTaken⟩
    rw [World.put_threads_of_ne _ _ _ same]
    exact running

/-- Only the close of a run takes the value of a resource. -/
theorem closing_of_takeValue {mover : Nat} {current next : Thread}
    {resource : ResourceRef}
    (acts : Thread.Acts world.shared current (.takeValue resource)
      next) :
    Closing
      (world.put ((Op.takeValue resource).apply world.shared) mover next)
      resource := by
  obtain ⟨run, rfl⟩ := Thread.performs_of_acts acts
  cases acts with
  | shutdown acts =>
      cases acts with
      | takeValue closing =>
          exact ⟨mover, _, _, _, World.put_threads_self _ _ _ _, rfl⟩
      | drop dropping drops => cases drops

theorem closedEmpty (reached : program.Reachable world) :
    ClosedEmpty world := by
  refine Program.invariant ClosedEmpty ?_ ?_ reached
  · rintro shared rfl resource held found
    cases found
  · intro before after reachedBefore step earlier resource held found
      isClosed waits
    cases step with
    | fork free starts =>
        exact closing_fork free
          (earlier resource held found isClosed waits)
    | @move _ mover op moves =>
        obtain @⟨current, next, moving, acts⟩ := moves
        rcases waker_of_apply found isClosed waits with
          rfl | ⟨other, old, known, wasClosed, waited⟩
        · exact closing_of_takeValue acts
        · exact closing_move moving acts other
            (earlier resource old known wasClosed waited)

/-- The waker slot of a closed resource is empty once the owner is idle. -/
theorem waker_eq_none_of_idle (reached : program.Reachable world)
    (idle : world.shared.owner.idle = true)
    {resource : ResourceRef} {held : HostResource Unit Nat}
    (found : world.shared.resources resource = some held)
    (isClosed : held.isClosed = true) :
    held.waker = none := by
  by_contra waits
  obtain ⟨thread, run, rest, wakers, running, valueTaken⟩ :=
    closedEmpty reached resource held found isClosed waits
  have covered := (coversAll reached).2 thread run (resource :: rest)
    running (by simp [valueTaken, ShutdownStage.resourcesLeft])
    resource List.mem_cons_self
  rcases covered with shut | ⟨other, closer, id, _, closing, armed, _⟩
  · cases found.symm.trans shut
    exact waits rfl
  · have present := activity_of_armed reached closing armed
    simp [(idle_iff.mp idle).2 id] at present

/-! ## Deferred wakes -/

theorem deferred_of_idle (reached : program.Reachable world)
    (idle : world.shared.owner.idle = true)
    {thread : Nat} {defer : Defer} {state : DeferredState}
    (running : world.threads thread = some (.defer defer))
    (known : world.shared.deferreds defer.address = some state)
    (admitted : defer.activity ≠ .absent) :
    state.waker = none := by
  have ordered := ordered_of_defer reached running
  have made : defer.stage ≠ .called := fun called =>
    admitted (ordered.unadmitted (Or.inl called))
  obtain ⟨found, same, settled⟩ :=
    settled_of_defer reached running made
  cases known.symm.trans same
  refine settled.woken (settled.dropping ?_)
  cases activity : defer.activity with
  | absent => exact absurd activity admitted
  | armed id =>
      have present := activity_of_armed reached running activity
      simp [(idle_iff.mp idle).2 id] at present
  | removed id => exact ordered.dropped id (Or.inl activity)
  | dropped id => exact ordered.dropped id (Or.inr activity)

theorem deferred_of_returned (reached : program.Reachable world)
    {thread : Nat} {defer : Defer} {state : DeferredState}
    (running : world.threads thread = some (.defer defer))
    (known : world.shared.deferreds defer.address = some state)
    (refused : defer.activity = .absent)
    (returned : defer.stage = .returned) :
    state.waker = none := by
  obtain ⟨found, same, settled⟩ :=
    settled_of_defer reached running (by simp [returned])
  cases known.symm.trans same
  exact settled.refused returned refused

/-- A run on an owner without work returns. -/
theorem exists_returned :
    ∃ world run, program.Reachable world ∧
      world.threads 0 = some (.shutdown run) ∧
      run.stage = .returned (.ok ()) ∧ world.threads 1 = none := by
  have forked :=
    reachable_fresh.fork 0 rfl .shutdown
  have entered := forked.move 0 rfl (.shutdown (.callback rfl rfl))
  have cut := entered.move 0 rfl (.shutdown (.cutoff rfl rfl))
  have aborted := cut.move 0 rfl (.shutdown (.aborted rfl))
  have closed := aborted.move 0 rfl (.shutdown (.closed rfl))
  have own := closed.move 0 rfl (.shutdown (.wake rfl))
  have woken := own.move 0 rfl (.shutdown (.woken rfl))
  have listed := woken.move 0 rfl (.shutdown (.noRuntimes rfl rfl))
  have removed :=
    listed.move 0 rfl (.shutdown (.drop trivial (.remove rfl)))
  have notified :=
    removed.move 0 rfl (.shutdown (.drop trivial (.notify rfl)))
  have idling := notified.move 0 rfl (.shutdown (.dropped rfl trivial))
  have checking := idling.move 0 rfl (.shutdown (.notified rfl))
  have returned := checking.move 0 rfl (.shutdown (.idle rfl rfl))
  exact ⟨_, _, returned, rfl, rfl, rfl⟩

/-- A spawn that the idle owner refuses is in the middle of its own
cancellation. -/
theorem exists_cancelling_of_idle :
    ¬ ∀ world, program.Reachable world → Refusing world.shared →
      world.shared.owner.idle = true →
      ∀ thread spawn, world.threads thread = some (.spawn spawn) →
        spawn.task = .released ∧ ¬ spawn.calling := by
  intro claim
  obtain ⟨world, run, reached, running, returned, free⟩ :=
    exists_returned
  have refusing :=
    (shutDown_of_returned reached running returned).refusing
  have idle := idle_of_returned reached running returned
  have refused : (world.shared.owner.reserveTask 7).2 =
      .error shuttingDown := by
    simp [OwnerState.reserveTask, OwnerState.isAccepting,
      show world.shared.owner.accepting = false from refusing]
  have called := reached.fork 1 free (.spawn .spawn 7)
  have turnedAway := called.move 1 rfl (.spawn (.refuse rfl refused))
  have cancelling :=
    turnedAway.move 1 rfl (.spawn (.cancel trivial (Or.inl rfl)))
  have stillRefusing :
      Refusing ((Op.reserveTask 7).apply world.shared) :=
    refusing_apply refusing
  have stillIdle :
      ((Op.reserveTask 7).apply world.shared).owner.idle = true :=
    idle_apply refusing idle
  have quiet := claim _ cancelling (refusing_apply stillRefusing)
    (idle_apply stillRefusing stillIdle) 1 _ rfl
  exact quiet.2 trivial

/-- No guest task code of an admitted descriptor is reachable once the owner
is idle; a refused spawn or `defer` lets go before it returns. -/
theorem guestCode_unreachable_of_idle
    (reached : program.Reachable world)
    (idle : world.shared.owner.idle = true) :
    (∀ thread spawn, world.threads thread = some (.spawn spawn) →
      (spawn.admitted → spawn.task = .released ∧ ¬ spawn.calling) ∧
      (¬ spawn.admitted → spawn.call = .returned →
        spawn.task = .released ∧ ¬ spawn.calling)) ∧
    (∀ resource held, world.shared.resources resource = some held →
      held.isClosed = true → held.waker = none) ∧
    ∀ thread defer state, world.threads thread = some (.defer defer) →
      world.shared.deferreds defer.address = some state →
      (defer.activity ≠ .absent → state.waker = none) ∧
      (defer.activity = .absent → defer.stage = .returned →
        state.waker = none) := by
  have quiet : ∀ spawn : Spawn, spawn.task = .released →
      spawn.task = .released ∧ ¬ spawn.calling := by
    intro spawn released
    exact ⟨released, by simp [Spawn.calling, released]⟩
  refine ⟨?_, ?_, ?_⟩
  · intro thread spawn running
    exact ⟨fun admitted => quiet spawn
        (released_of_admitted reached idle running admitted),
      fun refused returned => quiet spawn
        (released_of_returned reached running refused returned)⟩
  · intro resource held found isClosed
    exact waker_eq_none_of_idle reached idle found isClosed
  · intro thread defer state running known
    exact ⟨deferred_of_idle reached idle running known,
      deferred_of_returned reached running known⟩

/-- A task that the shutdown has cancelled is released when the owner is
idle. -/
theorem guestCode_unreachable_of_cancelled :
    ∃ world, program.Reachable world ∧ Refusing world.shared ∧
      ∃ spawn, world.threads 1 = some (.spawn spawn) ∧
        spawn.admitted ∧ spawn.task = .released ∧ ¬ spawn.calling := by
  have forked :=
    reachable_fresh.fork 1 rfl (.spawn .spawn 7)
  have reserved := forked.move 1 rfl (.spawn (.reserve rfl rfl))
  have spawned := reserved.move 1 rfl (.spawn (.hostSpawn 0 rfl rfl))
  have registered := spawned.move 1 rfl (.spawn (.register rfl))
  have began := registered.fork 0 rfl .shutdown
  have entered := began.move 0 rfl (.shutdown (.callback rfl rfl))
  have cut := entered.move 0 rfl (.shutdown (.cutoff rfl rfl))
  have aborted := cut.move 0 rfl (.shutdown (.abort rfl))
  have allAborted := aborted.move 0 rfl (.shutdown (.aborted rfl))
  have closed := allAborted.move 0 rfl (.shutdown (.closed rfl))
  have own := closed.move 0 rfl (.shutdown (.wake rfl))
  have woken := own.move 0 rfl (.shutdown (.woken rfl))
  have listed := woken.move 0 rfl (.shutdown (.noRuntimes rfl rfl))
  have removed :=
    listed.move 0 rfl (.shutdown (.drop trivial (.remove rfl)))
  have cancelling :=
    removed.move 1 rfl (.spawn (.cancel trivial (Or.inl rfl)))
  have releasing := cancelling.move 1 rfl (.spawn (.cancelled rfl))
  have released := releasing.move 1 rfl (.spawn (.released rfl))
  have gone := released.move 1 rfl (.spawn (.removeTask rfl rfl))
  have admitted : Spawn.admitted
      ⟨.spawn, 7, .returned, .released, .removed⟩ := by
    simp [Spawn.admitted]
  exact ⟨_, gone, rfl, _, rfl, admitted,
    ((guestCode_unreachable_of_idle gone rfl).1 1 _ rfl).1 admitted⟩

end Telekio.Bridge
