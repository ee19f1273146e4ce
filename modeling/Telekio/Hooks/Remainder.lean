import Telekio.Hooks.Detached

/-!
# What an accepted detach leaves behind

`NothingLeft` is no more than it takes: whatever is left when the owner
accepts a `detach` reaches the plugin in some run after it.
-/

namespace Telekio.Hooks

open Telekio.Interleave
open Telekio.Owner

variable {world : World}

/-- The world after the accepted `detach` of a thread. -/
def World.detached (world : World) (thread : Nat) : World :=
  world.put ((Op.bridge .detach).apply world.shared) thread
    (.call (.detach (.returned (.ok ()))) none)

/-- No run from here on calls or releases a callback of the plugin. -/
def NeverCalled (world : World) : Prop :=
  ∀ later, program.Steps world later → GuestUncalled later

theorem reachable_detached (reached : program.Reachable world)
    {thread : Nat}
    (running : world.threads thread =
      some (.call (.detach .called) none))
    (accepted : world.shared.detachable) :
    program.Reachable (World.detached world thread) := by
  have acts : Thread.Acts world.shared (.call (.detach .called) none)
      (.bridge .detach) _ := .call (.detach .detach) trivial
  rw [Shared.detachable] at accepted
  rw [accepted] at acts
  exact reached.move thread running acts

/-- A runtime that runs can start another thread. -/
theorem notRunning_of_neverCalled (reached : program.Reachable world)
    (never : NeverCalled world) (runtime : RuntimeRef) :
    world.shared.runtimes runtime ≠ .running := by
  intro runs
  obtain ⟨thread, free⟩ := Program.exists_free reached
  have forked : program.Steps world
      (world.put world.shared thread (.worker runtime .unborn)) :=
    .single (.fork free (.worker runtime))
  exact never _ forked thread _ _ _ (World.put_threads_self _ _ _ _)
    (.start (Or.inl runs)) trivial

/-- A live thread may call a hook. -/
theorem noThread_of_neverCalled (reached : program.Reachable world)
    (never : NeverCalled world) (runtime : RuntimeRef) :
    world.shared.threads runtime = 0 := by
  by_contra busy
  obtain ⟨thread, found, running, counted⟩ :=
    (threadsCounting runtime).exists_holder reached busy
  cases found with
  | worker other stage =>
      cases stage with
      | alive => exact never _ .refl thread _ _ _ running .hook trivial
      | _ => exact counted rfl
  | _ => exact counted rfl

/-- The host's close of a runtime without threads can end. -/
theorem notClosing_of_neverCalled (reached : program.Reachable world)
    (never : NeverCalled world) (runtime : RuntimeRef) :
    world.shared.runtimes runtime ≠ .taken .host := by
  intro taken
  obtain ⟨thread, found, running, closing, closes, rfl⟩ :=
    closingKeeping.exists_owner reached ⟨_, taken⟩
  have byHost : closing.closer = .host := by
    have held := taken_of_closing reached running closes
    exact (RuntimeStage.taken.inj (taken.symm.trans held)).symm
  cases found with
  | call call closing' =>
      cases closes
      exact never _ .refl thread _ _ _ running
        (.finishClose fun _ =>
          noThread_of_neverCalled reached never closing.runtime) byHost
  | _ => cases closes

/-- The way of an observation to its next stage of the entry. -/
theorem steps_observe {thread : Nat} {entry next : Bridge.Entry}
    {context : ContextRef} {op : Bridge.Op}
    (running : world.threads thread =
      some (.observation entry context .cloned))
    (acts : Bridge.Entry.Acts world.shared.bridge entry op next) :
    program.Steps world (world.put
      ((Op.bridge op).apply world.shared) thread
      (.observation next context .cloned)) :=
  .single (.move (.mk running (.observe acts)))

/-- A call that the owner refuses, or that has left, returns. -/
theorem exists_returned (reached : program.Reachable world)
    (refusing : Bridge.Refusing world.shared.bridge)
    (idle : world.shared.bridge.owner.idle = true)
    {thread : Nat} {entry : Bridge.Entry} {context : ContextRef}
    (running : world.threads thread =
      some (.observation entry context .cloned)) :
    ∃ later returned, program.Steps world later ∧
      later.threads thread =
        some (.observation returned context .cloned) ∧
      returned.stage = .returned := by
  have below := reachable_below reached
  have runningBelow := running_below running rfl
  have notAccepting :
      world.shared.bridge.owner.accepting = false := refusing
  cases stage : entry.stage with
  | called =>
      cases kind : entry.kind.isCallback with
      | true =>
          refine ⟨_, _, steps_observe running
            (.refuseCallback kind stage ?_),
            World.put_threads_self _ _ _ _, rfl⟩
          simp [OwnerState.callback, OwnerState.isAccepting,
            notAccepting]
      | false =>
          refine ⟨_, _, steps_observe running
            (@Bridge.Entry.Acts.refuseActivity _ _ shuttingDown kind
              stage ?_),
            World.put_threads_self _ _ _ _, rfl⟩
          simp [OwnerState.activity, OwnerState.isAccepting,
            notAccepting]
  | inside wakers =>
      exact absurd ⟨wakers, stage⟩
        (Bridge.not_insideActivity_of_idle below idle runningBelow)
  | leaving =>
      cases cleanup : entry.activity with
      | armed id =>
          have present := Bridge.activity_of_armed below runningBelow
            cleanup
          have absent := (Bridge.idle_iff.mp idle).2 id
          exact absurd present (by
            simpa [Program.lower] using absent)
      | removed id =>
          have notified := steps_observe running
            (.drop stage (.notify cleanup))
          have returned := steps_observe
            (World.put_threads_self world
              ((Op.bridge .notifyWaiters).apply world.shared) thread
              (.observation { entry with activity := .dropped id }
                context .cloned))
            (.return_ stage trivial)
          exact ⟨_, _, notified.trans returned,
            World.put_threads_self _ _ _ _, rfl⟩
      | _ =>
          exact ⟨_, _, steps_observe running
            (.return_ stage (by rw [cleanup]; trivial)),
            World.put_threads_self _ _ _ _, rfl⟩
  | returned => exact ⟨world, entry, .refl, running, stage⟩

/-- A cloned observer is dropped in the end. -/
theorem noClone_of_neverCalled (reached : program.Reachable world)
    (refusing : Bridge.Refusing world.shared.bridge)
    (idle : world.shared.bridge.owner.idle = true)
    (never : NeverCalled world) (context : ContextRef) :
    world.shared.clones context = 0 := by
  by_contra cloned
  obtain ⟨thread, found, running, counted⟩ :=
    (clonesCounting context).exists_holder reached cloned
  cases found with
  | observation entry other stage =>
      cases stage with
      | cloned =>
          obtain ⟨later, returned, steps, runningLater, stage⟩ :=
            exists_returned reached refusing idle running
          exact never later steps thread _ _ _ runningLater
            (.dropClone stage) trivial
      | _ => exact counted rfl
  | _ => exact counted rfl

theorem silent_of_steps {later : World}
    (reached : program.Reachable world)
    (steps : program.Steps world later)
    (silent : Silent world.shared) : Silent later.shared :=
  Program.shared_lasts Silent reached steps silent
    fun _ _ _ _ _ reached running => silent_of_acts reached running

/-- No run after an accepted `detach` reaches the plugin if and only if the
`detach` has left nothing. -/
theorem neverCalled_detached_iff (reached : program.Reachable world)
    {thread : Nat}
    (running : world.threads thread =
      some (.call (.detach .called) none))
    (accepted : world.shared.detachable) :
    NeverCalled (World.detached world thread) ↔
      NothingLeft world.shared := by
  have detached := reachable_detached reached running accepted
  obtain ⟨refusing, idle, _, _⟩ := Bridge.detach_eq_ok_iff.mp accepted
  constructor
  · intro never
    have notRunning := notRunning_of_neverCalled detached never
    have notClosing := notClosing_of_neverCalled detached never
    have noThread := noThread_of_neverCalled detached never
    have noClone := noClone_of_neverCalled detached
      (Bridge.refusing_apply refusing) (Bridge.idle_apply refusing idle)
      never
    exact ⟨fun runtime runs => absurd runs (notRunning runtime),
      notClosing, fun runtime _ => noThread runtime, noClone⟩
  · intro left later steps
    exact guestUncalled_of_silent (detached.steps steps)
      (silent_of_steps detached steps
        (silent_of_detach reached accepted left))

end Telekio.Hooks
