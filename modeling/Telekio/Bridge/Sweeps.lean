import Telekio.Interleave.Sweep
import Telekio.Bridge.System

/-!
# The loops of a shutdown

`shutdown_owner` aborts tasks, closes resources, wakes activities and closes
runtimes outside the lock. Each loop is a sweep: whatever is registered after
the cutoff has been dealt with or is still in the list of the run.
-/

namespace Telekio.Bridge

open Telekio.Interleave
open Telekio.Owner

namespace Thread

def tasksLeft : Thread → Option (List AbortHandle)
  | .shutdown run => run.stage.tasksLeft
  | _ => none

def resourcesLeft : Thread → Option (List ResourceRef)
  | .shutdown run => run.stage.resourcesLeft
  | _ => none

def wakersLeft : Thread → Option (List Waker)
  | .shutdown run => run.stage.wakersLeft
  | _ => none

def runtimesLeft : Thread → Option (List RuntimeRef)
  | .shutdown run => run.runtimesLeft
  | _ => none

end Thread

/-- The owner has been cut off. -/
def Refusing (shared : Shared) : Prop :=
  shared.accepting = false

def RegisteredTask (shared : Shared) (handle : AbortHandle) : Prop :=
  ∃ id, shared.tasks.lookup id = some (some handle)

def StoredWaker (shared : Shared) (waker : Waker) : Prop :=
  ∃ id, shared.activities.lookup id = some (some waker)

def RegisteredResource (shared : Shared) (resource : ResourceRef) :
    Prop :=
  ∃ id, shared.owner.state.resources.lookup id = some resource

def RegisteredRuntime (shared : Shared) (runtime : RuntimeRef) : Prop :=
  ∃ id, shared.owner.state.runtimes.lookup id = some runtime

theorem refusing_apply {shared : Shared} {op : Op}
    (refusing : Refusing shared) : Refusing (op.apply shared) :=
  (ownerChange_apply op shared).refuses refusing

/-- `register_task` aborts what it registers after the cutoff. -/
theorem aborted_registerTask {shared : Shared} {id : Nat}
    {handle : AbortHandle} (refusing : Refusing shared) :
    ((Op.registerTask id handle).apply shared).aborted handle := by
  have cut : (shared.owner.registerTask id handle).2 = true := by
    simp [OwnerState.registerTask, OwnerState.isAccepting,
      show shared.owner.accepting = false from refusing]
  simp [Shared.aborted, Op.apply, Op.hostTasks, cut]

theorem abortSweep : program.Sweep Refusing RegisteredTask
    Shared.aborted Thread.tasksLeft where
  starts := by
    intro first starts
    cases starts <;> rfl
  closes := by
    intro world thread current op next _ _ _ refusing
    exact refusing_apply refusing
  registers := by
    intro world thread current op next handle _ _ _ refusing present
    obtain ⟨id, found⟩ := present
    rcases (ownerChange_apply op world.shared).task_after found with
      old | ⟨_, none, _⟩ | ⟨registered, rfl, same, _⟩
    · exact Or.inl ⟨id, old⟩
    · cases none
    · cases Option.some.inj same
      exact Or.inr (aborted_registerTask refusing)
  settles := by
    intro world thread current op next handle _ _ acts already
    exact aborted_apply (Thread.fresh_of_acts acts) already
  sweeps := by
    intro world thread current op next rest _ _ acts remaining
    cases acts with
    | shutdown acts =>
        cases acts with
        | @abort task tasks resources wakers aborting =>
            cases Option.some.inj remaining
            refine Or.inr (Or.inl ⟨task, ?_, ?_⟩)
            · simp [Thread.tasksLeft, aborting, ShutdownStage.tasksLeft]
            · simp [Shared.aborted, program, Op.apply, Op.hostTasks]
        | @cutoff snapshot entered succeeded =>
            cases Option.some.inj remaining
            obtain ⟨cut, rfl, _⟩ := OwnerState.cutoff_eq_ok succeeded
            refine Or.inr (Or.inr ⟨?_, ?_⟩)
            · exact congrArg OwnerState.accepting cut
            · rintro handle ⟨id, found⟩
              refine Or.inr (List.mem_filterMap.mpr ⟨some handle, ?_, rfl⟩)
              change (world.shared.owner.cutoff
                world.shared.localOpen).1.state.tasks.lookup id = _ at found
              rw [cut] at found
              exact Table.mem_values.mpr ⟨id, found⟩
        | _ => grind -ring -linarith [Thread.tasksLeft, ShutdownStage.tasksLeft]
    | _ => cases remaining

/-- A run past its abort loop has cut the owner off. -/
theorem refusing_of_tasksLeft {world : World}
    (reached : program.Reachable world) {thread : Nat} {run : Shutdown}
    (running : world.threads thread = some (.shutdown run))
    (aborted : run.stage.tasksLeft = some []) :
    Refusing world.shared :=
  (abortSweep.swept reached running aborted).1

theorem wakeSweep : program.Sweep Refusing StoredWaker
    (fun shared waker => shared.woken waker = true)
    Thread.wakersLeft where
  starts := by
    intro first starts
    cases starts <;> rfl
  closes := by
    intro world thread current op next _ _ _ refusing
    exact refusing_apply refusing
  registers := by
    intro world thread current op next waker _ _ _ refusing present
    obtain ⟨id, found⟩ := present
    rcases (ownerChange_apply op world.shared).activity_after found with
      old | ⟨_, running, _⟩ | ⟨_, _, _, running, _⟩
    · exact Or.inl ⟨id, old⟩
    · exact absurd (refusing.symm.trans running) (by decide)
    · exact absurd (refusing.symm.trans running) (by decide)
  settles := by
    intro world thread current op next waker _ _ _ already
    exact woken_apply already
  sweeps := by
    intro world thread current op next rest reached running acts
      remaining
    cases acts with
    | shutdown acts =>
        cases acts with
        | @wake waker wakers waking =>
            cases Option.some.inj remaining
            have refusing : Refusing world.shared :=
              refusing_of_tasksLeft reached running
                (by simp [waking, ShutdownStage.tasksLeft])
            refine Or.inr (Or.inl ⟨waker, ?_, ?_⟩)
            · simp [Thread.wakersLeft, waking, ShutdownStage.wakersLeft]
            · simp [program, Op.apply, Op.woken,
                show world.shared.accepting = false from refusing]
        | @cutoff snapshot entered succeeded =>
            cases Option.some.inj remaining
            obtain ⟨cut, rfl, _⟩ := OwnerState.cutoff_eq_ok succeeded
            refine Or.inr (Or.inr ⟨?_, ?_⟩)
            · exact congrArg OwnerState.accepting cut
            · rintro waker ⟨id, found⟩
              refine Or.inr (List.mem_filterMap.mpr ⟨some waker, ?_, rfl⟩)
              change (world.shared.owner.cutoff
                world.shared.localOpen).1.state.activities.lookup id =
                  _ at found
              rw [cut] at found
              exact Table.mem_values.mpr ⟨id, found⟩
        | _ =>
            grind -ring -linarith [Thread.wakersLeft, ShutdownStage.wakersLeft]
    | _ => cases remaining

/-! ## The close loop -/

/-- A resource is made before it is registered. -/
theorem resourceMade_of_created {world : World}
    (reached : program.Reachable world) {thread : Nat}
    {resource : ResourceRef}
    (running : world.threads thread =
      some (.resource (.created resource))) :
    world.shared.resources resource ≠ none := by
  refine Program.thread_invariant
    (fun shared held => held = .resource (.created resource) →
      shared.resources resource ≠ none)
    ?_ ?_ ?_ reached running rfl
  · intro world first _ starts same
    cases starts <;> cases same
  · intro world thread current op next _ _ acts _ same
    subst same
    cases acts with
    | resource acts =>
        cases acts with
        | new made fresh => simp [program, Op.apply, Op.resources]
  · intro world thread bystander current op next held _ _ _ _ acts made
      same
    exact resourceMade_apply (made same)

/-- Only the maker of a resource registers it. -/
theorem created_of_registerResource {shared : Shared}
    {current next : Thread} {resource : ResourceRef}
    (acts : Thread.Acts shared current (.registerResource resource)
      next) :
    current = .resource (.created resource) := by
  obtain ⟨call, rfl⟩ := Thread.performs_of_acts acts
  cases acts with
  | resource acts =>
      cases acts with
      | register admitted => rfl
      | refuse refused => rfl

theorem resourceMade_of_registered {world : World}
    (reached : program.Reachable world) {resource : ResourceRef}
    (registered : RegisteredResource world.shared resource) :
    world.shared.resources resource ≠ none := by
  refine Program.shared_invariant
    (fun shared => ∀ resource, RegisteredResource shared resource →
      shared.resources resource ≠ none)
    ?_ ?_ reached resource registered
  · rintro shared rfl resource ⟨id, found⟩
    cases found
  · rintro world thread current op next reached running acts made
      resource ⟨id, found⟩
    rcases (ownerChange_apply op world.shared).resource_after found with
      old | ⟨rfl, _⟩
    · exact resourceMade_apply (made resource ⟨id, old⟩)
    · rw [created_of_registerResource acts] at running
      exact resourceMade_apply (resourceMade_of_created reached running)

/-- What a run has still to close was made. -/
theorem resourceMade_of_resourcesLeft {world : World}
    (reached : program.Reachable world) {thread : Nat} {found : Thread}
    {resources : List ResourceRef} {resource : ResourceRef}
    (running : world.threads thread = some found)
    (remaining : found.resourcesLeft = some resources)
    (member : resource ∈ resources) :
    world.shared.resources resource ≠ none := by
  refine Program.thread_invariant
    (fun shared held => ∀ resources, held.resourcesLeft =
      some resources → ∀ resource ∈ resources,
      shared.resources resource ≠ none)
    ?_ ?_ ?_ reached running resources remaining resource member
  · intro world first _ starts resources remaining
    cases starts <;> cases remaining
  · intro world thread current op next reached running acts made
      resources remaining resource member
    have kept : ∀ list, current.resourcesLeft = some list →
        resource ∈ list →
        (op.apply world.shared).resources resource ≠ none :=
      fun list before listed =>
        resourceMade_apply (made list before resource listed)
    cases acts with
    | shutdown acts =>
        cases acts with
        | @cutoff snapshot entered succeeded =>
            cases Option.some.inj remaining
            obtain ⟨cut, rfl, _⟩ := OwnerState.cutoff_eq_ok succeeded
            exact resourceMade_apply (resourceMade_of_registered reached
              (Table.mem_values.mp member))
        | @takeWaker resource resources wakers valueTaken =>
            cases Option.some.inj remaining
            refine kept (resource :: resources) ?_
              (List.mem_cons_of_mem _ member)
            simp [Thread.resourcesLeft, valueTaken,
              ShutdownStage.resourcesLeft]
        | _ =>
            refine kept resources ?_ member
            grind -ring -linarith
              [Thread.resourcesLeft, ShutdownStage.resourcesLeft]
    | _ => cases remaining
  · intro world thread bystander current op next held _ _ _ _ acts made
      resources remaining resource member
    exact resourceMade_apply (made resources remaining resource member)

/-- Between the two statements of `close` the value is gone. -/
theorem resourceClosed_of_valueTaken {world : World}
    (reached : program.Reachable world) {thread : Nat} {run : Shutdown}
    {resource : ResourceRef} {resources : List ResourceRef}
    {wakers : List Waker}
    (running : world.threads thread = some (.shutdown run))
    (valueTaken : run.stage = .valueTaken resource resources wakers) :
    world.shared.resourceClosed resource = true := by
  refine Program.thread_invariant
    (fun shared held => ∀ run, held = .shutdown run →
      ∀ resource resources wakers,
      run.stage = .valueTaken resource resources wakers →
      shared.resourceClosed resource = true)
    ?_ ?_ ?_ reached running run rfl resource resources wakers valueTaken
  · intro world first _ starts run same resource resources wakers stage
    cases starts <;> cases same
    cases stage
  · intro world thread current op next reached running acts closed after
      same resource resources wakers stage
    subst same
    cases acts with
    | @shutdown before _ _ acts =>
        have kept : before.stage = .valueTaken resource resources wakers →
            op.Fresh world.shared →
            (op.apply world.shared).resourceClosed resource = true :=
          fun earlier fresh => resourceClosed_apply fresh
            (closed before rfl resource resources wakers earlier)
        cases acts with
        | @takeValue taken rest left closing =>
            cases stage
            have left : (Thread.shutdown before).resourcesLeft =
                some (resource :: resources) := by
              simp [Thread.resourcesLeft, closing,
                ShutdownStage.resourcesLeft]
            obtain ⟨held, known⟩ := Option.ne_none_iff_exists'.mp
              (resourceMade_of_resourcesLeft reached running left
                List.mem_cons_self)
            simp [Shared.resourceClosed, program, Op.apply, Op.resources,
              known]
        | drop dropping drops =>
            exact kept stage (Thread.fresh_of_drops drops)
        | _ => first | exact kept stage trivial | cases stage
  · intro world thread bystander current op next held _ _ _ _ acts closed
      run same resource resources wakers stage
    exact resourceClosed_apply (Thread.fresh_of_acts acts)
      (closed run same resource resources wakers stage)

theorem closeSweep : program.Sweep Refusing RegisteredResource
    Shared.resourceShut Thread.resourcesLeft where
  starts := by
    intro first starts
    cases starts <;> rfl
  closes := by
    intro world thread current op next _ _ _ refusing
    exact refusing_apply refusing
  registers := by
    intro world thread current op next resource _ _ _ refusing present
    obtain ⟨id, found⟩ := present
    rcases (ownerChange_apply op world.shared).resource_after found with
      old | ⟨_, running, _⟩
    · exact Or.inl ⟨id, old⟩
    · exact absurd (refusing.symm.trans running) (by decide)
  settles := by
    intro world thread current op next resource _ _ acts already
    exact resourceShut_apply (Thread.fresh_of_acts acts) already
  sweeps := by
    intro world thread current op next rest reached running acts
      remaining
    cases acts with
    | shutdown acts =>
        cases acts with
        | @takeWaker resource resources wakers valueTaken =>
            cases Option.some.inj remaining
            refine Or.inr (Or.inl ⟨resource, ?_, ?_⟩)
            · simp [Thread.resourcesLeft, valueTaken,
                ShutdownStage.resourcesLeft]
            · obtain ⟨⟨value, waker⟩, known, isClosed⟩ :=
                Shared.resourceClosed_iff.mp
                  (resourceClosed_of_valueTaken reached running
                    valueTaken)
              simp_all [Shared.resourceShut, program, Op.apply,
                Op.resources, HostResource.takeWaker,
                HostResource.isClosed]
        | @cutoff snapshot entered succeeded =>
            cases Option.some.inj remaining
            obtain ⟨cut, rfl, _⟩ := OwnerState.cutoff_eq_ok succeeded
            refine Or.inr (Or.inr ⟨?_, ?_⟩)
            · exact congrArg OwnerState.accepting cut
            · rintro resource ⟨id, found⟩
              refine Or.inr ?_
              change (world.shared.owner.cutoff
                world.shared.localOpen).1.state.resources.lookup id =
                  _ at found
              rw [cut] at found
              exact Table.mem_values.mpr ⟨id, found⟩
        | _ =>
            grind -ring -linarith
              [Thread.resourcesLeft, ShutdownStage.resourcesLeft]
    | _ => cases remaining

theorem runtimeSweep : program.Sweep Refusing RegisteredRuntime
    (fun shared runtime => shared.runtimeClosed runtime = true)
    Thread.runtimesLeft where
  starts := by
    intro first starts
    cases starts <;> rfl
  closes := by
    intro world thread current op next _ _ _ refusing
    exact refusing_apply refusing
  registers := by
    intro world thread current op next runtime _ _ _ refusing present
    obtain ⟨id, found⟩ := present
    rcases (ownerChange_apply op world.shared).runtime_after found with
      old | ⟨_, running, _⟩
    · exact Or.inl ⟨id, old⟩
    · exact absurd (refusing.symm.trans running) (by decide)
  settles := by
    intro world thread current op next runtime _ _ acts already
    exact runtimeClosed_apply (Thread.fresh_of_acts acts) already
  sweeps := by
    intro world thread current op next rest reached running acts
      remaining
    have listed : ∀ run, current = .shutdown run →
        run.stage = .listing →
        world.shared.owner.runtimes world.shared.runtimeClosed = rest →
        op = .listRuntimes →
        Refusing (op.apply world.shared) ∧
          ∀ runtime, RegisteredRuntime (op.apply world.shared) runtime →
            (op.apply world.shared).runtimeClosed runtime = true ∨
              runtime ∈ rest := by
      rintro run rfl listing rfl rfl
      refine ⟨refusing_of_tasksLeft reached running
        (by simp [listing, ShutdownStage.tasksLeft]), ?_⟩
      rintro runtime ⟨id, found⟩
      cases closed : world.shared.runtimeClosed runtime with
      | true => exact Or.inl closed
      | false =>
          exact Or.inr (List.mem_filter.mpr
            ⟨Table.mem_values.mpr ⟨id, found⟩, by simp [closed]⟩)
    cases acts with
    | @shutdown before _ _ acts =>
        cases acts with
        | spawnBlocking listing found =>
            cases Option.some.inj remaining
            exact Or.inr (Or.inr (listed before rfl listing found rfl))
        | noRuntimes listing found =>
            cases closure : before.closure with
            | absent =>
                have none : rest = [] := by
                  simpa [Thread.runtimesLeft, Shutdown.runtimesLeft,
                    closure] using remaining.symm
                subst none
                exact Or.inr
                  (Or.inr (listed before rfl listing found rfl))
            | _ =>
                grind -ring -linarith
                  [Thread.runtimesLeft, Shutdown.runtimesLeft]
        | @closeRuntime runtime runtimes kind thread closing known
            succeeded =>
            cases Option.some.inj remaining
            refine Or.inr (Or.inl ⟨runtime, ?_, ?_⟩)
            · simp [Thread.runtimesLeft, Shutdown.runtimesLeft, closing]
            · simp [program, Shared.runtimeClosed, Op.apply, Op.runtimes,
                known, RuntimeKind.isClosed_close_of_ok succeeded]
        | _ =>
            grind -ring -linarith [Thread.runtimesLeft, Shutdown.runtimesLeft]
    | _ => cases remaining

end Telekio.Bridge
