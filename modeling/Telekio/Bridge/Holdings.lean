import Telekio.Interleave.Progress
import Telekio.Bridge.Finality

/-!
# What the threads hold

Every record of the owner belongs to a thread that will take it away: an
activity to the call whose cleanup is armed, a task to its tracked task, a
runtime to the `build` that returned it. A call that has ended holds nothing,
and an address that has never been used can always be found.
-/

namespace Telekio.Bridge

open Telekio.Interleave
open Telekio.Owner

variable {world : World}

theorem bounded_hostTasks (reached : program.Reachable world) :
    Bounded world.shared.hostTasks := by
  refine Program.shared_invariant
    (fun shared => Bounded shared.hostTasks) ?_ ?_ reached
  · rintro shared rfl
    exact Bounded.none
  · intro world thread current op next _ _ _ bounded
    change Bounded (op.hostTasks world.shared)
    cases op with
    | hostSpawn handle => exact bounded.update _ _
    | abort handle => exact bounded.update _ _
    | registerTask id handle =>
        by_cases cut :
            (world.shared.owner.registerTask id handle).2 = true
        · simpa [Op.hostTasks, cut] using bounded.update _ _
        · simpa [Op.hostTasks, cut] using bounded
    | _ => exact bounded

theorem bounded_runtimes (reached : program.Reachable world) :
    Bounded world.shared.runtimes := by
  refine Program.shared_invariant
    (fun shared => Bounded shared.runtimes) ?_ ?_ reached
  · rintro shared rfl
    exact Bounded.none
  · intro world thread current op next _ _ _ bounded
    change Bounded (op.runtimes world.shared)
    cases op with
    | newRuntime runtime kind => exact bounded.update _ _
    | closeRuntime runtime thread => exact bounded.update _ _
    | _ => exact bounded

theorem bounded_contexts (reached : program.Reachable world) :
    Bounded world.shared.contexts := by
  refine Program.shared_invariant
    (fun shared => Bounded shared.contexts) ?_ ?_ reached
  · rintro shared rfl
    exact Bounded.none
  · intro world thread current op next _ _ _ bounded
    change Bounded (op.contexts world.shared)
    cases op with
    | exportHandle context handle => exact bounded.update _ _
    | observeWorkers context => exact bounded.update _ _
    | _ => exact bounded

/-- A call holds no activity before it is admitted and none that is not
given back when it returns. -/
structure Placed (called returned : Prop) (activity : Cleanup) : Prop where
  unadmitted : called → activity = .absent
  gone : returned → activity.gone

/-- The stages in which the future of a shutdown keeps its own activity. -/
def ShutdownStage.keepsCleanup : ShutdownStage → Prop
  | .entered => True
  | .aborting _ => True
  | .closing _ _ => True
  | .valueTaken _ _ _ => True
  | .waking _ => True
  | .listing => True
  | .dropping => True
  | .leaving => True
  | _ => False

/-- The closure of a shutdown has still to drop the activity. -/
def ShutdownClosure.keepsCleanup : ShutdownClosure → Prop
  | .closing _ => True
  | .dropping _ => True
  | _ => False

/-- Whoever keeps the activity of a run is on the way to its drop, and a run
joins a closure that exists. -/
structure Shutdown.Placed (run : Shutdown) : Prop where
  joining : run.stage = .joining → run.closure ≠ .absent
  kept : run.cleanup.gone ∨ run.stage.keepsCleanup ∨
    run.closure.keepsCleanup

def Thread.Placed : Thread → Prop
  | .entry call =>
      Bridge.Placed (call.stage = .called) (call.stage = .returned)
        call.activity
  | .blockOn call =>
      Bridge.Placed (call.stage = .called) (call.stage = .returned)
        call.activity
  | .build call =>
      Bridge.Placed (call.stage = .called) (call.stage = .returned)
        call.activity
  | .shutdown run => run.Placed
  | _ => True

theorem Shutdown.placed_acts {shared : Shared} {run next : Shutdown}
    {op : Op} (acts : Acts shared run op next) (ordered : run.Ordered)
    (placed : run.Placed) : next.Placed := by
  obtain ⟨joining, kept⟩ := placed
  have called := ordered.called
  have finished := ordered.finished
  have waiting := ordered.waiting
  cases acts with
  | drop dropping drops =>
      refine ⟨joining, Or.inr (kept.resolve_left ?_)⟩
      exact not_gone_of_drops drops
  | _ =>
      constructor <;>
        grind -ring -linarith
          [ShutdownStage.keepsCleanup, ShutdownClosure.keepsCleanup,
            ShutdownStage.waits, Cleanup.gone]

theorem placed_of_reachable (reached : program.Reachable world)
    {thread : Nat} {found : Thread}
    (running : world.threads thread = some found) : found.Placed := by
  refine Program.local_invariant Thread.Placed ?_ ?_ reached running
  · intro first starts
    cases starts with
    | entry kind => exact ⟨fun _ => rfl, nofun⟩
    | blockOn => exact ⟨fun _ => rfl, nofun⟩
    | build thread => exact ⟨fun _ => rfl, nofun⟩
    | shutdown => exact ⟨nofun, Or.inl trivial⟩
    | _ => trivial
  · intro world thread current op next reachedHere runningHere acts placed
    cases acts with
    | entry acts =>
        obtain ⟨unadmitted, gone⟩ := placed
        cases acts <;> constructor <;>
          grind -ring -linarith [Cleanup.gone]
    | blockOn acts =>
        obtain ⟨unadmitted, gone⟩ := placed
        cases acts <;> constructor <;>
          grind -ring -linarith [Cleanup.gone]
    | build acts =>
        obtain ⟨unadmitted, gone⟩ := placed
        cases acts <;> constructor <;>
          grind -ring -linarith [Cleanup.gone]
    | shutdown acts =>
        exact Shutdown.placed_acts acts
          (ordered_of_shutdown reachedHere runningHere) placed
    | _ => trivial

namespace Thread

variable {shared : Shared} {current next : Thread} {op : Op}

end Thread

/-- A runtime that exists stays what it is, or is closed. -/
theorem runtimes_apply {shared : Shared} {op : Op} {runtime : RuntimeRef}
    {kind : RuntimeKind} (fresh : op.Fresh shared)
    (known : shared.runtimes runtime = some kind) :
    ∃ after, (op.apply shared).runtimes runtime = some after ∧
      (after = kind ∨ after = .closed) := by
  change ∃ after, op.runtimes shared runtime = some after ∧ _
  cases op with
  | newRuntime other made =>
      have different : runtime ≠ other := by
        rintro rfl
        exact absurd (known.symm.trans fresh) (by simp)
      exact ⟨kind, by simpa [Op.runtimes, different] using known,
        Or.inl rfl⟩
  | closeRuntime other thread =>
      by_cases same : runtime = other
      · subst same
        refine ⟨(kind.close thread).1, by simp [Op.runtimes, known], ?_⟩
        cases kind with
        | runtime => exact Or.inr rfl
        | closed => exact Or.inr rfl
        | localRuntime origin =>
            by_cases home : thread = origin
            · simp [RuntimeKind.close, home]
            · simp [RuntimeKind.close, home]
      · exact ⟨kind, by simpa [Op.runtimes, same] using known,
          Or.inl rfl⟩
  | _ => exact ⟨kind, known, Or.inl rfl⟩

/-- The `build` call has this runtime, not yet registered or under an id. -/
def Build.Has (build : Build) (runtime : RuntimeRef) : Prop :=
  build.stage = .built runtime ∨
    ∃ id, build.runtime = .registered runtime id

/-- A call that has not come to the registration. -/
def Build.early (build : Build) : Prop :=
  build.stage = .called ∨ build.stage = .inside ∨
    ∃ runtime, build.stage = .built runtime

/-- Nothing is registered before `build` has come to the registration. -/
theorem absent_of_early (reached : program.Reachable world)
    {thread : Nat} {build : Build}
    (running : world.threads thread = some (.build build))
    (early : build.early) : build.runtime = .absent := by
  refine Program.local_invariant
    (fun held => ∀ build, held = .build build → build.early →
      build.runtime = .absent)
    ?_ ?_ reached running build rfl early
  · intro first starts build same early
    cases starts <;> cases same
    rfl
  · intro world thread current op next _ _ acts earlier after same early
    subst same
    cases acts with
    | @build before _ _ acts =>
        have absent := earlier before rfl
        cases acts <;> grind -ring -linarith [Build.early]

/-- The runtime exists, and it is open as a `LocalRuntime` on this thread
only. -/
def OpenOn (shared : Shared) (thread : Nat) (runtime : RuntimeRef) : Prop :=
  ∃ kind, shared.runtimes runtime = some kind ∧
    ∀ origin, kind = .localRuntime origin → origin = thread

theorem openOn_apply {shared : Shared} {op : Op} {thread : Nat}
    {runtime : RuntimeRef} (fresh : op.Fresh shared)
    (made : OpenOn shared thread runtime) :
    OpenOn (op.apply shared) thread runtime := by
  obtain ⟨kind, known, local_⟩ := made
  obtain ⟨after, found, becomes⟩ := runtimes_apply fresh known
  refine ⟨after, found, fun origin same => ?_⟩
  rcases becomes with rfl | rfl
  · exact local_ origin same
  · cases same

/-- A call that makes a runtime makes it on its own thread. -/
theorem openOn_made {shared : Shared} {thread : Nat}
    {runtime : RuntimeRef} {kind : RuntimeKind}
    (flavor : kind = .runtime ∨ kind = .localRuntime thread) :
    OpenOn ((Op.newRuntime runtime kind).apply shared) thread runtime := by
  refine ⟨kind, by simp [Op.apply, Op.runtimes], fun origin same => ?_⟩
  rcases flavor with rfl | rfl
  · cases same
  · cases same
    rfl

/-- The runtime of a `build` call exists, and it is open as a `LocalRuntime`
only on the thread of the call. -/
theorem runtime_of_has (reached : program.Reachable world)
    {thread : Nat} {build : Build} {runtime : RuntimeRef}
    (running : world.threads thread = some (.build build))
    (has : build.Has runtime) :
    OpenOn world.shared build.thread runtime := by
  refine Program.thread_invariant
    (fun shared held => ∀ build runtime, held = .build build →
      build.Has runtime → OpenOn shared build.thread runtime)
    ?_ ?_ ?_ reached running build runtime rfl has
  · intro world first _ starts build runtime same has
    cases starts <;> cases same
    rcases has with ⟨⟨⟩⟩ | ⟨id, ⟨⟩⟩
  · intro world thread current op next _ _ acts earlier after runtime
      same has
    have fresh := Thread.fresh_of_acts acts
    subst same
    cases acts with
    | @build before _ _ acts =>
        have home : after.thread = before.thread := by
          cases acts <;> rfl
        have kept : before.Has runtime →
            OpenOn (op.apply world.shared) after.thread runtime := by
          intro had
          rw [home]
          exact openOn_apply fresh (earlier before runtime rfl had)
        cases acts with
        | buildRuntime made kind inside flavor unused =>
            rcases has with stage | ⟨id, registered⟩
            · cases stage
              exact openOn_made flavor
            · exact kept (Or.inr ⟨id, registered⟩)
        | register built admitted =>
            rcases has with stage | ⟨id, registered⟩
            · cases stage
            · cases registered
              exact kept (Or.inl built)
        | releaseRuntime returned live =>
            rcases has with stage | ⟨id, registered⟩
            · exact kept (Or.inl stage)
            · cases registered
        | drop leaving drops => exact kept has
        | _ =>
            refine kept ?_
            rcases has with stage | registered
            · first | exact Or.inl stage | cases stage
            · exact Or.inr registered
  · intro world thread bystander current op next held _ _ _ _ acts earlier
      build runtime same has
    exact openOn_apply (Thread.fresh_of_acts acts)
      (earlier build runtime same has)

theorem runtimeKeeping : program.Keeping
    (fun shared (record : Nat × RuntimeRef) =>
      shared.owner.state.runtimes.lookup record.1 = some record.2)
    (fun thread record => ∃ build, thread = .build build ∧
      build.runtime = .registered record.2 record.1) where
  absent := by
    rintro shared record rfl
    simp [Shared.fresh, ownerState]
  introduces := by
    rintro world thread current op next ⟨id, runtime⟩ _ _ acts absent
      present
    rcases (ownerChange_apply op world.shared).runtime_after present with
      old | ⟨rfl, running, same⟩
    · exact absurd old absent
    · cases acts with
      | @build before _ _ acts =>
          cases acts with
          | @register _ given built admitted =>
              have made : world.shared.nextId = given := by
                simpa [OwnerState.registerRuntime,
                  OwnerState.isAccepting, running] using admitted
              obtain rfl : id = given := same.trans made
              exact ⟨_, rfl, rfl⟩
          | refuseRuntime built refused =>
              simp [OwnerState.registerRuntime, OwnerState.isAccepting,
                running] at refused
          | drop leaving drops => cases drops
      | entry acts =>
          cases acts with
          | drop leaving drops => cases drops
      | blockOn acts =>
          cases acts with
          | drop leaving drops => cases drops
      | defer acts =>
          cases acts with
          | drop dropping drops => cases drops
      | shutdown acts =>
          cases acts with
          | drop dropping drops => cases drops
      | spawn acts => cases acts
      | resource acts => cases acts
      | abort acts => cases acts
      | handle acts => cases acts
      | detach acts => cases acts
  retains := by
    rintro world thread current op next ⟨id, runtime⟩ reached running acts
      ⟨build, rfl, registered⟩ present
    have unbuilt : ∀ runtime, build.stage ≠ .built runtime := by
      intro other built
      have absent := absent_of_early reached running
        (Or.inr (Or.inr ⟨other, built⟩))
      rw [absent] at registered
      cases registered
    cases acts with
    | build acts =>
        cases acts with
        | register built admitted => exact absurd built (unbuilt _)
        | releaseRuntime returned live =>
            rw [registered] at live
            cases live
            simp [program, Op.apply, Op.owner,
              OwnerState.unregisterRuntime] at present
        | _ => exact ⟨_, rfl, registered⟩

theorem holder_of_registered (reached : program.Reachable world)
    {id : Nat} {runtime : RuntimeRef}
    (found : world.shared.owner.state.runtimes.lookup id =
      some runtime) :
    ∃ owner build, world.threads owner = some (.build build) ∧
      build.runtime = .registered runtime id := by
  obtain ⟨owner, _, holding, build, rfl, live⟩ :=
    @Program.Keeping.exists_owner _ _ _ _ _ _ _ runtimeKeeping world
      reached (id, runtime) found
  exact ⟨owner, build, holding, live⟩

/-- A registered runtime exists. -/
theorem runtime_of_registered (reached : program.Reachable world)
    {runtime : RuntimeRef}
    (registered : RegisteredRuntime world.shared runtime) :
    ∃ kind, world.shared.runtimes runtime = some kind := by
  obtain ⟨id, found⟩ := registered
  obtain ⟨owner, build, holding, live⟩ :=
    holder_of_registered reached found
  obtain ⟨kind, known, _⟩ :=
    runtime_of_has reached holding (Or.inr ⟨id, live⟩)
  exact ⟨kind, known⟩

theorem localOpen_apply {shared : Shared} {op : Op} {runtime : RuntimeRef}
    (fresh : op.Fresh shared) (known : shared.runtimes runtime ≠ none)
    (notOpen : shared.localOpen runtime = false) :
    (op.apply shared).localOpen runtime = false := by
  obtain ⟨kind, found⟩ := Option.ne_none_iff_exists'.mp known
  obtain ⟨after, foundAfter, becomes⟩ := runtimes_apply fresh found
  rcases becomes with rfl | rfl
  · simpa [Shared.localOpen, found, foundAfter] using notOpen
  · simp [Shared.localOpen, foundAfter, RuntimeKind.localOpen]

/-- After the cutoff no registered `LocalRuntime` is open. -/
theorem localOpen_of_refusing (reached : program.Reachable world)
    (refusing : Refusing world.shared) {runtime : RuntimeRef}
    (registered : RegisteredRuntime world.shared runtime) :
    world.shared.localOpen runtime = false := by
  refine Program.shared_invariant
    (fun shared => Refusing shared → ∀ runtime,
      RegisteredRuntime shared runtime →
      shared.localOpen runtime = false)
    ?_ ?_ reached refusing runtime registered
  · rintro shared rfl _ runtime ⟨id, found⟩
    cases found
  · rintro world thread current op next reached running acts earlier
      refusing runtime ⟨id, found⟩
    have change := ownerChange_apply op world.shared
    have fresh := Thread.fresh_of_acts acts
    cases accepted : world.shared.accepting with
    | true =>
        obtain ⟨rfl, _, noLocal⟩ :=
          change.cutoff_of_refuses accepted refusing
        rcases change.runtime_after found with old | ⟨other, _, _⟩
        · have member := Table.mem_values.mpr ⟨id, old⟩
          have notOpen := List.any_eq_false.mp noLocal runtime member
          change world.shared.localOpen runtime = false
          simpa using notOpen
        · cases other
    | false =>
        rcases change.runtime_after found with old | ⟨_, running, _⟩
        · obtain ⟨kind, known⟩ := runtime_of_registered reached ⟨id, old⟩
          exact localOpen_apply fresh (by simp [known])
            (earlier accepted runtime ⟨id, old⟩)
        · exact absurd (accepted.symm.trans running) (by decide)

/-- The runtime exists, and any thread may close it. -/
def Closable (shared : Shared) (runtime : RuntimeRef) : Prop :=
  shared.runtimes runtime ≠ none ∧ shared.localOpen runtime = false

theorem closable_apply {shared : Shared} {op : Op} {runtime : RuntimeRef}
    (fresh : op.Fresh shared) (closable : Closable shared runtime) :
    Closable (op.apply shared) runtime := by
  obtain ⟨known, notOpen⟩ := closable
  obtain ⟨kind, found⟩ := Option.ne_none_iff_exists'.mp known
  obtain ⟨after, foundAfter, _⟩ := runtimes_apply fresh found
  exact ⟨by simp [foundAfter], localOpen_apply fresh known notOpen⟩

/-- After the cutoff every runtime of the owner is closable. -/
theorem closable_of_refusing (reached : program.Reachable world)
    (refusing : Refusing world.shared) {runtime : RuntimeRef}
    (registered : RegisteredRuntime world.shared runtime) :
    Closable world.shared runtime := by
  obtain ⟨kind, known⟩ := runtime_of_registered reached registered
  exact ⟨by simp [known], localOpen_of_refusing reached refusing registered⟩

/-- Every runtime in the closure of a run exists and can be closed there. -/
theorem closable_of_closing (reached : program.Reachable world)
    {thread : Nat} {run : Shutdown} {runtimes : List RuntimeRef}
    (running : world.threads thread = some (.shutdown run))
    (closing : run.closure = .closing runtimes) :
    ∀ runtime ∈ runtimes, Closable world.shared runtime := by
  refine Program.thread_invariant
    (fun shared held => ∀ run runtimes, held = .shutdown run →
      run.closure = .closing runtimes →
      ∀ runtime ∈ runtimes, Closable shared runtime)
    ?_ ?_ ?_ reached running run runtimes rfl closing
  · intro world first _ starts run runtimes same closing
    cases starts <;> cases same
    cases closing
  · intro world thread current op next reached running acts earlier after
      runtimes same closing runtime member
    have fresh := Thread.fresh_of_acts acts
    subst same
    cases acts with
    | @shutdown before _ _ acts =>
        have kept : ∀ list, before.closure = .closing list →
            runtime ∈ list → Closable (op.apply world.shared) runtime :=
          fun list was listed =>
            closable_apply fresh (earlier before list rfl was runtime listed)
        cases acts with
        | @spawnBlocking first rest listing listed =>
            cases closing
            have refusing := refusing_of_tasksLeft reached running
              (by simp [listing, ShutdownStage.tasksLeft])
            rw [← listed] at member
            have registered :=
              Table.mem_values.mp (List.mem_filter.mp member).1
            exact closable_apply fresh
              (closable_of_refusing reached refusing registered)
        | closeRuntime thread was known succeeded =>
            cases closing
            exact kept _ was (List.mem_cons_of_mem _ member)
        | drop dropping drops => exact kept _ closing member
        | _ => first | exact kept _ closing member | cases closing
  · intro world thread bystander current op next held _ _ _ _ acts earlier
      run runtimes same closing runtime member
    exact closable_apply (Thread.fresh_of_acts acts)
      (earlier run runtimes same closing runtime member)

end Telekio.Bridge
