import Telekio.Bridge.Holdings
import Telekio.Bridge.Idle
import Telekio.Bridge.Deferring

/-!
# Every call can come to its end

From wherever the others have brought it, a call that holds a record can give
it back by moves of its own: a tracked task is dropped, an activity is
returned, a `defer` is woken, and a `build` hands its runtime out and shuts it
down on the thread that built it.
-/

namespace Telekio.Bridge

open Telekio.Interleave
open Telekio.Owner

variable {world : World} {thread : Nat}

/-- Every thread but a task left behind, which nothing brings to its end
before the runtime of the host ends. -/
def Thread.mayMove : Thread → Prop
  | .spawn call => ¬ call.leftBehind
  | _ => True

/-- Moves of this one thread, none of them of a task left behind, lead it to
the goal. -/
abbrev Attains (thread : Nat) (world : World)
    (goal : Shared → Thread → Prop) : Prop :=
  program.Attains Thread.mayMove thread world goal

/-- The thread holds no record that `wait_idle` waits for and is at no
departure. -/
def AtRest (_ : Shared) : Thread → Prop
  | .spawn call => call.cleanup = .unset ∨ call.cleanup = .dropped
  | thread => thread.cleanup.gone

/-- A thread at rest that has also closed the runtime it has returned. -/
def Settled (shared : Shared) (thread : Thread) : Prop :=
  AtRest shared thread ∧ ∀ build runtime id, thread = .build build →
    build.runtime = .registered runtime id →
      shared.runtimeClosed runtime = true

/-- A call that drops its cleanup gets through the drop. -/
theorem gives (wrap : Cleanup → Thread)
    (mayMove : ∀ held, (wrap held).mayMove)
    (drops : ∀ shared before op after, Cleanup.Drops before op after →
      Thread.Acts shared (wrap before) op (wrap after))
    (reached : program.Reachable world) {cleanup : Cleanup}
    (running : world.threads thread = some (wrap cleanup)) :
    Attains thread world
      (fun _ found => ∃ after, after.gone ∧ found = wrap after) := by
  have notify : ∀ world id, program.Reachable world →
      world.threads thread = some (wrap (.removed id)) →
      Attains thread world
        (fun _ found => ∃ after, after.gone ∧ found = wrap after) := by
    intro world id reached running
    refine .move reached running (mayMove _) (drops _ _ _ _ (.notify rfl)) ?_
    intro later _ _ dropped
    exact .here dropped ⟨.dropped id, trivial, rfl⟩
  cases cleanup with
  | absent => exact .here running ⟨.absent, trivial, rfl⟩
  | dropped id => exact .here running ⟨.dropped id, trivial, rfl⟩
  | removed id => exact notify world id reached running
  | armed id =>
      refine .move reached running (mayMove _) (drops _ _ _ _ (.remove rfl)) ?_
      intro later reachedLater _ removed
      exact notify later id reachedLater removed

section Spawns

variable {spawn : Spawn}

/-- The rest of `finish_task`, once the record is removed. -/
theorem spawn_departs (reached : program.Reachable world)
    (running : world.threads thread = some (.spawn spawn))
    (removed : spawn.cleanup = .removed ∨ spawn.cleanup = .notifying) :
    Attains thread world AtRest := by
  have notifies : ∀ world spawn, program.Reachable world →
      world.threads thread = some (.spawn spawn) →
      spawn.cleanup = .notifying →
      Attains thread world AtRest := by
    intro world spawn reached running notifying
    refine .move reached running ?_ (.spawn (.notify notifying)) ?_
    · rintro ⟨_, armed⟩
      rw [notifying] at armed
      cases armed
    · intro later _ _ dropped
      exact .here dropped (Or.inr rfl)
  rcases removed with removed | notifying
  · have mayMove : (Thread.spawn spawn).mayMove := by
      rintro ⟨_, armed⟩
      rw [removed] at armed
      cases armed
    cases accepting : world.shared.owner.isAccepting with
    | true =>
        refine .move reached running mayMove
          (.spawn (.stillAccepting removed accepting)) ?_
        intro later _ _ dropped
        exact .here dropped (Or.inr rfl)
    | false =>
        refine .move reached running mayMove
          (.spawn (.noLongerAccepting removed accepting)) ?_
        intro later reachedLater _ notifying
        exact notifies later _ reachedLater notifying rfl
  · exact notifies world spawn reached running notifying

/-- The rest of `finish_task`, once the descriptor is released. -/
theorem spawn_finishes (reached : program.Reachable world)
    (running : world.threads thread = some (.spawn spawn))
    (kept : ¬ spawn.leftBehind) (released : spawn.task = .released) :
    Attains thread world AtRest := by
  cases cleanup : spawn.cleanup with
  | unset => exact .here running (Or.inl cleanup)
  | dropped => exact .here running (Or.inr cleanup)
  | notifying =>
      exact spawn_departs reached running (Or.inr cleanup)
  | removed => exact spawn_departs reached running (Or.inl cleanup)
  | armed =>
      refine .move reached running kept
        (.spawn (.removeTask released cleanup)) ?_
      intro later reachedLater _ removed
      exact spawn_departs reachedLater removed (Or.inl rfl)

theorem spawn_releases (reached : program.Reachable world)
    (running : world.threads thread = some (.spawn spawn))
    (kept : ¬ spawn.leftBehind) (releasing : spawn.task = .releasing) :
    Attains thread world AtRest := by
  refine .move reached running kept (.spawn (.released releasing)) ?_
  intro later reachedLater _ released
  exact spawn_finishes reachedLater released kept rfl

theorem spawn_cancels (reached : program.Reachable world)
    (running : world.threads thread = some (.spawn spawn))
    (kept : ¬ spawn.leftBehind) (droppable : spawn.droppable)
    (incomplete : spawn.task = .held ∨ spawn.task = .ended false) :
    Attains thread world AtRest := by
  refine .move reached running kept
    (.spawn (.cancel droppable incomplete)) ?_
  intro later reachedLater _ cancelling
  refine .move reachedLater cancelling kept (.spawn (.cancelled rfl)) ?_
  intro last reachedLast _ releasing
  exact spawn_releases reachedLast releasing kept rfl

theorem spawn_completes (reached : program.Reachable world)
    (running : world.threads thread = some (.spawn spawn))
    (kept : ¬ spawn.leftBehind) (complete : spawn.task = .ended true) :
    Attains thread world AtRest := by
  refine .move reached running kept (.spawn (.release complete)) ?_
  intro later reachedLater _ releasing
  exact spawn_releases reachedLater releasing kept rfl

theorem spawn_polls (reached : program.Reachable world)
    (running : world.threads thread = some (.spawn spawn))
    (kept : ¬ spawn.leftBehind) (polling : spawn.task = .polling) :
    Attains thread world AtRest := by
  refine .move reached running kept (.spawn (.ready polling)) ?_
  intro later reachedLater _ complete
  exact spawn_completes reachedLater complete kept rfl

theorem droppable_of_hosted (hosted : spawn.hosted) :
    spawn.droppable := by
  unfold Spawn.hosted at hosted
  unfold Spawn.droppable
  cases stage : spawn.call <;> simp_all

/-- A task that the host has runs to its end, or finds the owner shut
down. -/
theorem spawn_runs (reached : program.Reachable world)
    (running : world.threads thread = some (.spawn spawn))
    (kept : ¬ spawn.leftBehind)
    (hosted : spawn.hosted) (held : spawn.task = .held) :
    Attains thread world AtRest := by
  cases accepting : world.shared.owner.isAccepting with
  | true =>
      refine .move reached running kept
        (.spawn (.poll hosted held accepting)) ?_
      intro later reachedLater _ polling
      exact spawn_polls reachedLater polling kept rfl
  | false =>
      refine .move reached running kept
        (.spawn (.cutOff hosted held accepting)) ?_
      intro later reachedLater _ incomplete
      exact spawn_cancels reachedLater incomplete kept
        (droppable_of_hosted hosted) (Or.inr rfl)

theorem spawn_rests (reached : program.Reachable world)
    (running : world.threads thread = some (.spawn spawn))
    (kept : ¬ spawn.leftBehind) :
    Attains thread world AtRest := by
  have ordered := ordered_of_spawn reached running
  by_cases armed : spawn.cleanup = .armed
  · cases task : spawn.task with
    | released => exact spawn_finishes reached running kept task
    | releasing => exact spawn_releases reached running kept task
    | polling => exact spawn_polls reached running kept task
    | cancelling =>
        refine .move reached running kept (.spawn (.cancelled task)) ?_
        intro later reachedLater _ releasing
        exact spawn_releases reachedLater releasing kept rfl
    | ended complete =>
        cases complete with
        | true => exact spawn_completes reached running kept task
        | false =>
            refine spawn_cancels reached running kept ?_ (Or.inr task)
            have waiting := ordered.waiting
            unfold Spawn.droppable
            cases stage : spawn.call <;> simp_all
    | held =>
        have admitted := ordered.beforeReserve
        cases stage : spawn.call with
        | called => simp_all
        | refused => simp_all
        | reserved =>
            obtain ⟨handle, fresh⟩ :=
              (bounded_hostTasks reached).exists_free
            refine .move reached running kept
              (.spawn (.hostSpawn handle stage fresh)) ?_
            intro later reachedLater _ spawned
            refine spawn_runs reachedLater spawned ?_ trivial task
            rintro ⟨abandoned, _⟩
            cases abandoned
        | rejected =>
            refine spawn_cancels reached running kept ?_ (Or.inl task)
            simp [Spawn.droppable, stage]
        | panicked =>
            refine spawn_cancels reached running kept ?_ (Or.inl task)
            simp [Spawn.droppable, stage]
        | abandoned => exact absurd ⟨stage, armed⟩ kept
        | spawned handle =>
            refine spawn_runs reached running kept ?_ task
            simp [Spawn.hosted, stage]
        | returned =>
            refine spawn_runs reached running kept ?_ task
            simp [Spawn.hosted, stage]
  · by_cases unset : spawn.cleanup = .unset
    · exact .here running (Or.inl unset)
    · exact spawn_finishes reached running kept
        (ordered.afterRelease unset armed)

end Spawns

theorem entry_leaves (reached : program.Reachable world) {kind : EntryKind}
    {cleanup : Cleanup}
    (running : world.threads thread =
      some (.entry ⟨kind, cleanup, .leaving⟩)) :
    Attains thread world AtRest := by
  have given := gives (fun held => .entry ⟨kind, held, .leaving⟩)
    (fun _ => trivial) (fun _ _ _ _ drops => .entry (.drop rfl drops))
    reached running
  refine given.mono ?_
  rintro shared found ⟨after, gone, rfl⟩
  exact gone

theorem entry_rests (reached : program.Reachable world) {entry : Entry}
    (running : world.threads thread = some (.entry entry)) :
    Attains thread world AtRest := by
  have placed := placed_of_reachable reached running
  cases stage : entry.stage with
  | called =>
      refine .here running ?_
      change entry.activity.gone
      rw [placed.unadmitted stage]
      trivial
  | returned => exact .here running (placed.gone stage)
  | leaving =>
      obtain ⟨kind, activity, _⟩ := entry
      subst stage
      exact entry_leaves reached running
  | inside wakers =>
      refine .move reached running trivial (.entry (.leave stage)) ?_
      intro later reachedLater _ leaving
      exact entry_leaves reachedLater leaving

theorem blockOn_leaves (reached : program.Reachable world)
    {cleanup : Cleanup}
    (running : world.threads thread =
      some (.blockOn ⟨cleanup, .leaving⟩)) :
    Attains thread world AtRest := by
  have given := gives (fun held => .blockOn ⟨held, .leaving⟩)
    (fun _ => trivial) (fun _ _ _ _ drops => .blockOn (.drop rfl drops))
    reached running
  refine given.mono ?_
  rintro shared found ⟨after, gone, rfl⟩
  exact gone

/-- `block_on` returns once its future is ready. -/
theorem blockOn_returns (reached : program.Reachable world)
    {call : BlockOn} {status : Status}
    (running : world.threads thread = some (.blockOn call))
    (ready : call.stage = .inside (.ready status)) :
    Attains thread world AtRest := by
  refine .move reached running trivial
    (.blockOn (.leave ready fun waker => by simp)) ?_
  intro later reachedLater _ leaving
  exact blockOn_leaves reachedLater leaving

theorem blockOn_completes (reached : program.Reachable world)
    {call : BlockOn} {waker : Nat}
    (running : world.threads thread = some (.blockOn call))
    (polling : call.stage = .inside (.polling waker)) :
    Attains thread world AtRest := by
  refine .move reached running trivial (.blockOn (.ready polling)) ?_
  intro later reachedLater _ ready
  exact blockOn_returns reachedLater ready rfl

/-- The next poll is the guest's, or finds the owner shut down. -/
theorem blockOn_polls (reached : program.Reachable world)
    {call : BlockOn} {future : GuestFuture}
    (running : world.threads thread = some (.blockOn call))
    (inside : call.stage = .inside future)
    (idle : BlockOn.pollable call.stage) :
    Attains thread world AtRest := by
  obtain ⟨id, armed⟩ :=
    armed_of_insideActivity reached running ⟨future, inside⟩
  cases updated :
      (world.shared.owner.updateActivityWaker id (.host 0)).2 with
  | true =>
      refine .move reached running trivial
        (.blockOn (.poll 0 armed idle updated)) ?_
      intro later reachedLater _ polling
      exact blockOn_completes reachedLater polling rfl
  | false =>
      refine .move reached running trivial
        (.blockOn (.refusePoll 0 armed idle updated)) ?_
      intro later reachedLater _ ready
      exact blockOn_returns reachedLater ready rfl

theorem blockOn_rests (reached : program.Reachable world)
    {call : BlockOn}
    (running : world.threads thread = some (.blockOn call)) :
    Attains thread world AtRest := by
  have placed := placed_of_reachable reached running
  cases stage : call.stage with
  | called =>
      refine .here running ?_
      change call.activity.gone
      rw [placed.unadmitted stage]
      trivial
  | returned => exact .here running (placed.gone stage)
  | leaving =>
      obtain ⟨activity, _⟩ := call
      subst stage
      exact blockOn_leaves reached running
  | inside future =>
      cases future with
      | ready status => exact blockOn_returns reached running stage
      | polling waker => exact blockOn_completes reached running stage
      | unpolled =>
          refine blockOn_polls reached running stage ?_
          simp [BlockOn.pollable, stage]
      | pending waker =>
          refine blockOn_polls reached running stage ?_
          simp [BlockOn.pollable, stage]

/-! ## Building a runtime -/

section Builds

variable {build : Build}

def Returned (_ : Shared) (found : Thread) : Prop :=
  ∃ build, found = .build build ∧ build.stage = .returned

theorem build_leaves (reached : program.Reachable world)
    (running : world.threads thread = some (.build build))
    (leaving : build.stage = .leaving) :
    Attains thread world Returned := by
  obtain ⟨origin, activity, _, runtime⟩ := build
  subst leaving
  have given := gives (fun held => .build ⟨origin, held, .leaving, runtime⟩)
    (fun _ => trivial) (fun _ _ _ _ drops => .build (.drop rfl drops))
    reached running
  refine given.andThen reached ?_
  rintro later found reachedLater dropped ⟨after, gone, rfl⟩
  refine .move reachedLater dropped trivial (.build (.return_ rfl gone)) ?_
  intro last _ _ returned
  exact .here returned ⟨_, rfl, rfl⟩

/-- The registration hands the runtime out, or refuses and closes it. -/
theorem build_registers (reached : program.Reachable world)
    {runtime : RuntimeRef}
    (running : world.threads thread = some (.build build))
    (built : build.stage = .built runtime) :
    Attains thread world Returned := by
  cases result : (world.shared.owner.registerRuntime runtime).2 with
  | ok id =>
      refine .move reached running trivial (.build (.register built result)) ?_
      intro later reachedLater _ registered
      obtain ⟨context, fresh⟩ :=
        (bounded_contexts reachedLater).exists_free
      refine .move reachedLater registered trivial
        (.build (.exportHandle context rfl fresh)) ?_
      intro last reachedLast _ leaving
      exact build_leaves reachedLast leaving rfl
  | error text =>
      refine .move reached running trivial
        (.build (.refuseRuntime built result)) ?_
      intro later reachedLater _ refused
      refine .move reachedLater refused trivial
        (.build (.closeRefused build.thread rfl fun _ => rfl)) ?_
      intro last reachedLast _ leaving
      exact build_leaves reachedLast leaving rfl

theorem build_returns (reached : program.Reachable world)
    (running : world.threads thread = some (.build build))
    (called : build.stage ≠ .called) :
    Attains thread world Returned := by
  cases stage : build.stage with
  | called => exact absurd stage called
  | inside =>
      obtain ⟨runtime, fresh⟩ := (bounded_runtimes reached).exists_free
      refine .move reached running trivial
        (.build (.buildRuntime runtime .runtime stage (Or.inl rfl)
          fresh)) ?_
      intro later reachedLater _ built
      exact build_registers reachedLater built rfl
  | built runtime => exact build_registers reached running stage
  | refused runtime =>
      refine .move reached running trivial
        (.build (.closeRefused build.thread stage fun _ => rfl)) ?_
      intro later reachedLater _ leaving
      exact build_leaves reachedLater leaving rfl
  | registered runtime id =>
      obtain ⟨context, fresh⟩ := (bounded_contexts reached).exists_free
      refine .move reached running trivial
        (.build (.exportHandle context stage fresh)) ?_
      intro later reachedLater _ leaving
      exact build_leaves reachedLater leaving rfl
  | leaving => exact build_leaves reached running stage
  | returned => exact .here running ⟨build, rfl, stage⟩

theorem build_rests (reached : program.Reachable world)
    (running : world.threads thread = some (.build build)) :
    Attains thread world AtRest := by
  by_cases called : build.stage = .called
  · refine .here running ?_
    change build.activity.gone
    rw [(placed_of_reachable reached running).unadmitted called]
    trivial
  · refine (build_returns reached running called).andThen reached ?_
    rintro later found reachedLater still ⟨after, rfl, returned⟩
    exact .here still
      ((placed_of_reachable reachedLater still).gone returned)

end Builds

/-- No other thread touches the `Deferred` of a `defer` call. -/
theorem deferreds_kept (reached : program.Reachable world)
    {other : Nat} {current next : Thread} {op : Op} {defer : Defer}
    (different : other ≠ thread)
    (running : world.threads thread = some current)
    (holding : world.threads other = some (.defer defer))
    (acts : Thread.Acts world.shared current op next)
    (made : defer.stage ≠ .called) :
    (op.apply world.shared).deferreds defer.address =
      world.shared.deferreds defer.address := by
  by_cases touches : op.deferred = some defer.address
  · obtain ⟨call, rfl, sameAddress⟩ := deferred_of_acts acts touches
    have called : call.stage = .called := by
      by_contra stage
      exact deferredOwning.exclusive reached different holding running
        ⟨defer, rfl, made, rfl⟩ ⟨call, rfl, stage, sameAddress⟩
    have absent := (ordered_of_defer reached running).unadmitted
      (Or.inl called)
    obtain ⟨state, known, _⟩ := settled_of_defer reached holding made
    cases acts with
    | defer acts =>
        cases acts with
        | new first fresh =>
            rw [sameAddress, known] at fresh
            cases fresh
        | drop dropping drops => cases drops <;> cases touches
        | _ => simp_all
  · exact deferreds_apply touches

/-- `install` has stored the cleanup of a `defer` that has returned. -/
theorem cleanup_of_defer (reached : program.Reachable world)
    {defer : Defer} {id : Nat}
    (running : world.threads thread = some (.defer defer))
    (returned : defer.stage = .returned)
    (armed : defer.activity = .armed id)
    (undropped : defer.dropping = false) :
    ∃ state, world.shared.deferreds defer.address = some state ∧
      state.cleanup.isSome = true := by
  refine Program.thread_invariant
    (fun shared held => ∀ defer id, held = .defer defer →
      defer.stage = .returned → defer.activity = .armed id →
      defer.dropping = false →
      ∃ state, shared.deferreds defer.address = some state ∧
        state.cleanup.isSome = true)
    ?_ ?_ ?_ reached running defer id rfl returned armed undropped
  · intro world first _ starts defer id same returned
    cases starts <;> cases same
    cases returned
  · intro world thread current op next reached running acts earlier after
      id same returned armed undropped
    have ordered := ordered_of_reachable reached running
    subst same
    cases acts with
    | @defer before _ _ acts =>
        cases acts with
        | leaveRefused refused =>
            have absent :=
              ordered.unadmitted (Or.inr (Or.inr refused))
            exact absurd (absent.symm.trans armed) (by simp)
        | @install given state accepted holds known =>
            refine ⟨(state.install given).1, ?_, ?_⟩
            · simp [program, Op.apply, Op.deferreds, known]
            · cases woken : state.woken <;>
                simp_all [DeferredState.install]
        | @wake state admitted known =>
            obtain ⟨found, same, stored⟩ := earlier before id rfl returned
              armed (by simp_all)
            cases known.symm.trans same
            simp_all [DeferredState.wake]
        | drop dropping drops =>
            exact absurd dropping (by simp_all)
        | _ => simp_all
  · intro world thread bystander current op next held reached different
      running holding acts earlier defer id same returned armed undropped
    subst same
    obtain ⟨state, known, stored⟩ :=
      earlier defer id rfl returned armed undropped
    refine ⟨state, ?_, stored⟩
    rw [← known]
    exact deferreds_kept reached different running holding acts
      (by simp [returned])

section Defers

variable {defer : Defer}

theorem defer_drops (reached : program.Reachable world)
    (running : world.threads thread = some (.defer defer))
    (dropping : defer.dropping = true) :
    Attains thread world AtRest := by
  obtain ⟨address, waker, activity, stage, _⟩ := defer
  subst dropping
  have given := gives
    (fun held => .defer ⟨address, waker, held, stage, true⟩)
    (fun _ => trivial) (fun _ _ _ _ drops => .defer (.drop rfl drops))
    reached running
  refine given.mono ?_
  rintro shared found ⟨after, gone, rfl⟩
  exact gone

/-- A wake takes the cleanup that `install` has stored. -/
theorem defer_wakes (reached : program.Reachable world) {id : Nat}
    (running : world.threads thread = some (.defer defer))
    (returned : defer.stage = .returned)
    (armed : defer.activity = .armed id) :
    Attains thread world AtRest := by
  cases dropping : defer.dropping with
  | true => exact defer_drops reached running dropping
  | false =>
      obtain ⟨state, known, stored⟩ :=
        cleanup_of_defer reached running returned armed dropping
      refine .move reached running trivial
        (.defer (.wake (by simp [armed]) known)) ?_
      intro later reachedLater _ woken
      refine defer_drops reachedLater woken ?_
      simpa [DeferredState.wake] using Or.inr stored

theorem defer_rests (reached : program.Reachable world)
    (running : world.threads thread = some (.defer defer)) :
    Attains thread world AtRest := by
  have ordered := ordered_of_defer reached running
  cases activity : defer.activity with
  | absent =>
      refine .here running ?_
      change defer.activity.gone
      simp [activity, Cleanup.gone]
  | dropped id =>
      refine .here running ?_
      change defer.activity.gone
      simp [activity, Cleanup.gone]
  | removed id =>
      exact defer_drops reached running
        (ordered.dropped id (Or.inl activity))
  | armed id =>
      have early := ordered.unadmitted
      cases stage : defer.stage with
      | returned => exact defer_wakes reached running stage activity
      | accepted =>
          obtain ⟨state, known, _⟩ :=
            settled_of_defer reached running (by simp [stage])
          refine .move reached running trivial
            (.defer (.install stage activity known)) ?_
          intro later reachedLater _ installed
          exact defer_wakes reachedLater installed rfl activity
      | _ => simp_all

end Defers

end Telekio.Bridge
