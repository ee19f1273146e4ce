import Telekio.Bridge.Critical
import Telekio.Hooks.Runtimes

/-!
# After the plugin is detached

What keeps the host from calling the plugin after an accepted `detach` is
that the runtimes which the plugin shut down by itself have no threads left
and that no worker is in the middle of its observers; the owner shutdown and
the checks of `detach` see to the rest.
-/

namespace Telekio.Hooks

open Telekio.Interleave
open Telekio.Owner

variable {world : World} {shared : Shared} {op : Op}
variable {current next : Thread}

/-- Nothing is left that the shutdown of the owner has not waited for. A
runtime that still runs unregistered, or that the host has taken, is one that
an earlier owner shutdown is still to close. -/
structure NothingLeft (shared : Shared) : Prop where
  registered : ∀ runtime, shared.runtimes runtime = .running →
    Bridge.RegisteredRuntime shared.bridge runtime
  notClosing : ∀ runtime, shared.runtimes runtime ≠ .taken .host
  noThread : ∀ runtime, shared.runtimes runtime = .taken .guest ∨
    shared.runtimes runtime = .abandoned → shared.threads runtime = 0
  noClone : ∀ context, shared.clones context = 0

/-- An accepted `detach` comes when nothing is left. -/
def leavesNothing (shared : Shared) : Op → Prop
  | .bridge .detach => shared.detachable → NothingLeft shared
  | _ => True

/-- The owner has shut down, and so has everything that could call the
plugin. -/
structure Silent (shared : Shared) : Prop where
  refusing : Bridge.Refusing shared.bridge
  idle : shared.bridge.owner.idle = true
  notRunning : ∀ runtime, shared.runtimes runtime ≠ .running
  notClosing : ∀ runtime, shared.runtimes runtime ≠ .taken .host
  noThread : ∀ runtime, shared.threads runtime = 0
  notObserved : ∀ context, shared.observed context = false
  noClone : ∀ context, shared.clones context = 0

theorem handles_of_detachable (accepted : shared.detachable) :
    ((Bridge.Op.detach).apply shared.bridge).owner.state.handles = ∅ := by
  change (shared.bridge.owner.detach _ _).1.state.handles = ∅
  rw [Shared.detachable] at accepted
  unfold OwnerState.detach at accepted ⊢
  split at accepted
  · cases accepted
  · split at accepted
    · cases accepted
    · rename_i ready closed
      rw [if_neg ready, if_neg closed]

theorem silent_of_detach (reached : program.Reachable world)
    (accepted : world.shared.detachable)
    (left : NothingLeft world.shared) :
    Silent ((Op.bridge .detach).apply world.shared) := by
  obtain ⟨refusing, idle, runtimes, resources⟩ :=
    Bridge.detach_eq_ok_iff.mp accepted
  have notRunning : ∀ runtime,
      world.shared.runtimes runtime ≠ .running := by
    intro runtime runs
    have closed := runtimes runtime (left.registered runtime runs)
    exact nomatch closed.symm.trans ((linked reached runtime).isOpen runs)
  refine ⟨Bridge.refusing_apply refusing,
    Bridge.idle_apply refusing idle, notRunning, left.notClosing, ?_, ?_,
    left.noClone⟩
  · intro runtime
    change world.shared.threads runtime = 0
    cases stage : world.shared.runtimes runtime with
    | absent =>
        exact (linked reached runtime).threadless (Or.inl stage)
    | running => exact absurd stage (notRunning runtime)
    | joined => exact (linked reached runtime).threadless (Or.inr stage)
    | abandoned => exact left.noThread runtime (Or.inr stage)
    | taken closer =>
        cases closer with
        | guest => exact left.noThread runtime (Or.inl stage)
        | host => exact absurd stage (left.notClosing runtime)
  · intro context
    have cleared := handles_of_detachable accepted
    simp [Op.apply, Op.observed, Op.bridgeState, Op.below, cleared]

/-- Only an accepted `detach` detaches the plugin. -/
theorem detachable_of_detached (before : shared.detached = false)
    (after : (op.apply shared).detached = true) :
    op = .bridge .detach ∧ shared.detachable := by
  cases op with
  | bridge op =>
      cases op with
      | detach =>
          refine ⟨rfl, ?_⟩
          simp only [Op.apply, Op.detached, before, Bool.false_or]
            at after
          rw [Shared.detachable]
          generalize (shared.bridge.owner.detach _ _).2 = result
            at after ⊢
          cases result with
          | ok => rfl
          | error error => cases after
      | _ => exact absurd (before.symm.trans after) Bool.false_ne_true
  | _ => exact absurd (before.symm.trans after) Bool.false_ne_true

theorem detached_of_detachable (accepted : shared.detachable) :
    ((Op.bridge .detach).apply shared).detached = true := by
  rw [Shared.detachable] at accepted
  simp [Op.apply, Op.detached, accepted, Except.isOk, Except.toBool]

theorem refusing_bridgeState
    (refusing : Bridge.Refusing shared.bridge) :
    Bridge.Refusing (op.bridgeState shared) := by
  rw [Op.bridgeState]
  cases op.below with
  | some op => exact Bridge.refusing_apply refusing
  | none => exact refusing

theorem idle_bridgeState (refusing : Bridge.Refusing shared.bridge)
    (idle : shared.bridge.owner.idle = true) :
    (op.bridgeState shared).owner.idle = true := by
  rw [Op.bridgeState]
  cases op.below with
  | some op => exact Bridge.idle_apply refusing idle
  | none => exact idle

/-- No call is inside an activity any more. -/
theorem not_inside_of_silent (reached : program.Reachable world)
    (silent : Silent world.shared) {thread : Nat}
    (running : world.threads thread = some current)
    {found : Bridge.Thread} (has : current.down = some found) :
    ¬ found.insideActivity :=
  Bridge.not_insideActivity_of_idle (reachable_below reached) silent.idle
    (running_below running has)

theorem not_startable_of_silent (silent : Silent shared)
    (runtime : RuntimeRef) : ¬ shared.startable runtime := by
  rintro (runs | busy | ⟨_, busy⟩)
  · exact silent.notRunning runtime runs
  · exact busy (silent.noThread runtime)
  · exact nomatch silent.idle.symm.trans busy

theorem threads_of_silent (silent : Silent shared)
    (acts : Thread.Acts shared current op next) (runtime : RuntimeRef) :
    op.threads shared runtime = 0 := by
  have before := silent.noThread runtime
  cases acts with
  | start startable =>
      exact absurd startable (not_startable_of_silent silent _)
  | @exit exited =>
      by_cases same : runtime = exited
      · subst same
        simp [Op.threads, before]
      · rwa [Op.threads, Function.update_of_ne same]
  | _ => exact before

theorem clones_of_silent (silent : Silent shared)
    (acts : Thread.Acts shared current op next) (context : ContextRef) :
    op.clones shared context = 0 := by
  have before := silent.noClone context
  cases acts with
  | @clone entry cloned observed =>
      exact nomatch observed.symm.trans (silent.notObserved cloned)
  | @dropClone entry dropped returned =>
      by_cases same : context = dropped
      · subst same
        simp [Op.clones, before]
      · rwa [Op.clones, Function.update_of_ne same]
  | _ => exact before

theorem silent_of_acts (reached : program.Reachable world)
    {thread : Nat} (running : world.threads thread = some current)
    (acts : Thread.Acts world.shared current op next)
    (silent : Silent world.shared) :
    Silent (op.apply world.shared) := by
  have outside : ∀ {found : Bridge.Thread},
      current.down = some found → ¬ found.insideActivity :=
    fun has => not_inside_of_silent reached silent running has
  refine ⟨refusing_bridgeState silent.refusing,
    idle_bridgeState silent.refusing silent.idle, ?_, ?_,
    threads_of_silent silent acts, ?_, clones_of_silent silent acts⟩
  · intro runtime runs
    rcases running_of_acts (linked reached runtime) acts runs with
      before | ⟨_, has, inside⟩
    · exact silent.notRunning runtime before
    · exact outside has inside
  · intro runtime taken
    rcases taken_of_acts (linked reached runtime) acts taken with
      before | ⟨runs, _⟩
    · exact silent.notClosing runtime before
    · exact silent.notRunning runtime runs
  · intro context
    have before := silent.notObserved context
    cases op with
    | bridge op =>
        cases op with
        | observeWorkers observer =>
            obtain ⟨_, _, _, has, below⟩ := below_of_acts acts
            exact absurd (of_observeWorkers below) (outside has)
        | _ => simp [Op.apply, Op.observed, before]
    | _ => simp [Op.apply, Op.observed, before]

/-! ## The callbacks of a detached plugin -/

/-- No move of any thread calls or releases a callback of the plugin. -/
def GuestUncalled (world : World) : Prop :=
  ∀ thread current op next, world.threads thread = some current →
    Thread.Acts world.shared current op next →
    ¬ Thread.runsGuest current op

theorem guestUncalled_of_silent (reached : program.Reachable world)
    (silent : Silent world.shared) : GuestUncalled world := by
  intro thread current op next running acts runs
  cases acts with
  | start startable =>
      exact not_startable_of_silent silent _ startable
  | @hook runtime | @exit runtime =>
      have none := (threadsCounting runtime).holds_eq_zero reached
        (silent.noThread runtime) running
      simp [Thread.threadsOf] at none
  | @dropClone entry context returned =>
      have none := (clonesCounting context).holds_eq_zero reached
        (silent.noClone context) running
      simp [Thread.clonesOf] at none
  | observe acts =>
      obtain ⟨wakers, inside⟩ := runs
      exact not_inside_of_silent reached silent running rfl
        ⟨wakers, inside⟩
  | @finishClose call closing joined =>
      have taken := taken_of_closing reached running rfl
      rw [show closing.closer = .host from runs] at taken
      exact silent.notClosing closing.runtime taken
  | _ => exact runs

theorem silent_of_detached
    (reached : (program.restrict leavesNothing).Reachable world)
    (detached : world.shared.detached = true) : Silent world.shared := by
  refine @Program.shared_invariant _ _ _ (program.restrict leavesNothing)
    (fun shared => shared.detached = true → Silent shared)
    ?_ ?_ _ reached detached
  · rintro shared rfl detached
    cases detached
  · intro world thread current op next reached running acts earlier after
    have reached := Program.reachable_of_restrict reached
    obtain ⟨acts, leaves⟩ := acts
    cases before : world.shared.detached with
    | true => exact silent_of_acts reached running acts (earlier before)
    | false =>
        have accepted := detachable_of_detached before after
        obtain ⟨rfl, accepted⟩ := accepted
        exact silent_of_detach reached accepted (leaves accepted)

/-- In a run that detaches the plugin only when nothing is left, the host
never calls or releases a callback of a detached plugin. -/
theorem guestUncalled_of_detached
    (reached : (program.restrict leavesNothing).Reachable world)
    (detached : world.shared.detached = true) : GuestUncalled world :=
  guestUncalled_of_silent (Program.reachable_of_restrict reached)
    (silent_of_detached reached detached)

/-- The plugin shuts a runtime down in the background; the owner shuts down
and can be detached while a thread of the runtime is still on its way. -/
theorem exists_abandoned :
    ∃ world, (program.restrict leavesNothing).Reachable world ∧
      world.threads 1 = some (.worker 0 .alive) ∧
      world.threads 3 = some (.call (.detach .called) none) ∧
      world.shared.detachable ∧
      world.shared.runtimes =
        Function.update (fun _ => .absent) 0 .abandoned ∧
      world.shared.threads = Function.update (fun _ => 0) 0 1 ∧
      world.shared.clones = fun _ => 0 := by
  have fresh : (program.restrict leavesNothing).Reachable
      (World.quiet Shared.fresh) := .quiet rfl
  have called := fresh.fork 0 rfl (.call (.build 0) nofun)
  have inside := called.move 0 rfl
    ⟨.call (.build (.activity rfl rfl)) trivial, trivial⟩
  have built := inside.move 0 rfl
    ⟨.call (.build (.buildRuntime 0 .runtime rfl (Or.inl rfl) rfl))
      trivial, trivial⟩
  have registered := built.move 0 rfl
    ⟨.call (.build (.register rfl rfl)) trivial, trivial⟩
  have exported := registered.move 0 rfl
    ⟨.call (.build (.exportHandle 0 rfl rfl)) trivial, trivial⟩
  have removed := exported.move 0 rfl
    ⟨.call (.build (.drop rfl (.remove rfl))) trivial, trivial⟩
  have notified := removed.move 0 rfl
    ⟨.call (.build (.drop rfl (.notify rfl))) trivial, trivial⟩
  have returned := notified.move 0 rfl
    ⟨.call (.build (.return_ rfl trivial)) trivial, trivial⟩
  have worker := returned.fork 1 rfl (.worker 0)
  have alive := worker.move 1 rfl ⟨.start (Or.inl rfl), trivial⟩
  -- the plugin shuts its runtime down in the background
  have taken := alive.move 0 rfl
    ⟨@Thread.Acts.close _ _ _ _ _ .guest .background
      (.build (.shutdown 0 rfl rfl)) rfl rfl, trivial⟩
  have abandoned := taken.move 0 rfl
    ⟨.finishClose (fun wait => nomatch wait), trivial⟩
  -- the host shuts the owner down, which has no open runtime to list
  have shutdown := abandoned.fork 2 rfl (.call .shutdown nofun)
  have entered := shutdown.move 2 rfl
    ⟨.call (.shutdown (.callback rfl rfl)) trivial, trivial⟩
  have aborting := entered.move 2 rfl
    ⟨.call (.shutdown (.cutoff rfl rfl)) trivial, trivial⟩
  have closing := aborting.move 2 rfl
    ⟨.call (.shutdown (.aborted rfl)) trivial, trivial⟩
  have waking := closing.move 2 rfl
    ⟨.call (.shutdown (.closed rfl)) trivial, trivial⟩
  have woken := waking.move 2 rfl
    ⟨.call (.shutdown (.wake rfl)) trivial, trivial⟩
  have listing := woken.move 2 rfl
    ⟨.call (.shutdown (.woken rfl)) trivial, trivial⟩
  have listed := listing.move 2 rfl
    ⟨.call (.shutdown (.noRuntimes rfl rfl)) trivial, trivial⟩
  have dropping := listed.move 2 rfl
    ⟨.call (.shutdown (.drop trivial (.remove rfl))) trivial, trivial⟩
  have dropped := dropping.move 2 rfl
    ⟨.call (.shutdown (.drop trivial (.notify rfl))) trivial, trivial⟩
  have idling := dropped.move 2 rfl
    ⟨.call (.shutdown (.dropped rfl trivial)) trivial, trivial⟩
  have checking := idling.move 2 rfl
    ⟨.call (.shutdown (.notified rfl)) trivial, trivial⟩
  have shutDown := checking.move 2 rfl
    ⟨.call (.shutdown (.idle rfl rfl)) trivial, trivial⟩
  have detaching := shutDown.fork 3 rfl (.call .detach nofun)
  refine ⟨_, detaching, rfl, rfl, rfl, ?_, ?_, ?_⟩
  · exact (Function.update_idem _ _ _).trans (Function.update_idem _ _ _)
  · rfl
  · rfl

/-- That thread calls the thread stop hook of a detached plugin. -/
theorem exists_guestCall_detached :
    ¬ ∀ world, program.Reachable world → world.shared.detached = true →
      GuestUncalled world := by
  intro claim
  obtain ⟨world, reached, alive, detaching, accepted, _⟩ :=
    exists_abandoned
  have detached := (Program.reachable_of_restrict reached).move 3 detaching
    (.call (.detach .detach) trivial)
  have uncalled := claim _ detached (detached_of_detachable accepted)
  have late : (world.put ((Op.bridge .detach).apply world.shared) 3
      (.call (.detach (.returned (world.shared.bridge.owner.detach
        world.shared.bridge.runtimeClosed
        world.shared.bridge.resourceClosed).2)) none)).threads 1 =
      some (.worker 0 .alive) :=
    (World.put_threads_of_ne _ _ _ (by decide)).trans alive
  exact uncalled 1 _ _ _ late .hook trivial

/-- Once the thread has ended, nothing is left. -/
theorem guestUncalled_of_detached_of_exited :
    ∃ world, (program.restrict leavesNothing).Reachable world ∧
      world.shared.detached = true ∧
      world.threads 1 = some (.worker 0 .exited) ∧
      GuestUncalled world := by
  obtain ⟨world, reached, alive, detaching, accepted, runtimes, threads,
    clones⟩ := exists_abandoned
  have exited := reached.move 1 alive ⟨.exit, trivial⟩
  have left : NothingLeft ((Op.exitThread 0).apply world.shared) := by
    have stage : ∀ runtime,
        ((Op.exitThread 0).apply world.shared).runtimes runtime =
          if runtime = 0 then .abandoned else .absent := by
      intro runtime
      simp [Op.apply, Op.runtimes, runtimes, Function.update_apply]
    constructor
    · intro runtime runs
      rw [stage] at runs
      split at runs <;> cases runs
    · intro runtime taken
      rw [stage] at taken
      split at taken <;> cases taken
    · intro runtime _
      simp [Op.apply, Op.threads, threads]
    · intro context
      simp [Op.apply, Op.clones, clones]
  have detached := exited.move 3
    ((World.put_threads_of_ne _ _ _ (by decide)).trans detaching)
    ⟨.call (.detach .detach) trivial, fun _ => left⟩
  have isDetached := @detached_of_detachable
    ((Op.exitThread 0).apply world.shared) accepted
  exact ⟨_, detached, isDetached,
    (World.put_threads_of_ne _ _ _ (by decide)).trans
      (World.put_threads_self _ _ _ _),
    guestUncalled_of_detached detached isDetached⟩

end Telekio.Hooks
