import Telekio.Runner.Tokens

/-!
# The release hook of a guest task

Completion races with calls of `schedule` that have found the task incomplete
under the lock of `runnable`. The hook takes that lock after the COMPLETE
bit, so nothing stays behind in the scheduler of a complete task.
-/

namespace Telekio.Runner

open Telekio.Interleave

variable {shared : Shared} {current next : Thread} {op : Op}
variable {tracing : Bool} {waker : WakerRef} {effect : Effect}

def Scheduling.checks : Scheduling → Nat
  | .checked _ => 1
  | _ => 0

def PollStage.checks : PollStage → Nat
  | .yielding call | .aborting call => call.checks
  | _ => 0

/-- The host has the lock for a store. -/
def Host.checks : Host → Nat
  | .polling _ _ stage => stage.checks
  | _ => 0

/-- A wake has the lock for a store. -/
def Thread.checks : Thread → Nat
  | .waking _ (.scheduling call) => call.checks
  | _ => 0

attribute [grind] Scheduling.checks PollStage.checks Host.checks
  Thread.checks

theorem locked_of_scheduling {call after : Scheduling}
    (acts : Scheduling.Acts shared tracing call effect after)
    (held : call.checks ≤ shared.locked.toNat) :
    (effect.apply shared).locked.toNat + call.checks =
      shared.locked.toNat + after.checks := by
  cases isLocked : shared.locked <;> cases acts <;> grind -ring -linarith

theorem locked_of_poll {stage after : PollStage}
    (acts : PollStage.Acts shared waker tracing stage effect after)
    (held : stage.checks ≤ shared.locked.toNat) :
    (effect.apply shared).locked.toNat + stage.checks =
      shared.locked.toNat + after.checks := by
  cases acts with
  | yield acts => exact locked_of_scheduling acts held
  | aborting acts => exact locked_of_scheduling acts held
  | completing acts => cases acts <;> grind -ring -linarith
  | _ => grind -ring -linarith

theorem locked_of_shutdown {call after : ShuttingDown}
    (acts : ShuttingDown.Acts shared call effect after) :
    (effect.apply shared).locked = shared.locked := by
  cases acts with
  | completing acts => cases acts <;> grind -ring -linarith
  | _ => grind -ring -linarith

/-- The lock is held exactly as long as a call of `schedule` is between its
check and its store. -/
theorem locking :
    program.Balancing (fun shared => shared.locked.toNat)
      (fun shared => shared.host.checks) Thread.checks where
  initially := by
    rintro shared rfl
    rfl
  starts := by
    intro first starts
    cases starts <;> rfl
  moves := by
    intro world thread current op next reached running acts held
    change (op.apply world.shared).locked.toNat + _ =
      _ + ((op.apply world.shared).host.checks + _)
    cases acts with
    | host acts =>
        generalize same : world.shared.host = host at acts held
        simp only [Thread.checks, Nat.add_zero, Op.apply] at held ⊢
        cases acts with
        | polling acts => exact locked_of_poll acts held
        | cancelling acts =>
            exact congrArg Bool.toNat (locked_of_shutdown acts)
        | shuttingDown acts =>
            exact congrArg Bool.toNat (locked_of_shutdown acts)
        | _ => grind -ring -linarith
    | waking acts =>
        simp only [Op.apply, host_apply] at held ⊢
        cases acts with
        | schedule acts =>
            have passed := locked_of_scheduling acts
              (by simp only [Thread.checks] at held; omega)
            simp only [Thread.checks]
            omega
        | _ => grind -ring -linarith

def Completing.incomplete : Completing → Bool
  | .bit => true
  | _ => false

/-- The stages of a poll at which the task is not complete. -/
def PollStage.incomplete : PollStage → Bool
  | .checkComplete | .checkAgain => false
  | .completing stage => stage.incomplete
  | _ => true

def Host.incomplete : Host → Bool
  | .binding => true
  | .polling _ _ stage => stage.incomplete
  | _ => false

def ShuttingDown.completing? : ShuttingDown → Option Completing
  | .completing stage => some stage
  | _ => none

/-- The stage of the completion that the host is at. -/
def Host.completing : Host → Option Completing
  | .polling _ _ (.completing stage) => some stage
  | .cancelling call | .shuttingDown call => call.completing?
  | _ => none

/-- The order of the completion: the COMPLETE bit, the slot, the waker. -/
structure Shared.Completes (shared : Shared) : Prop where
  incomplete : shared.host.incomplete = true →
    shared.state.complete = false
  completed : shared.host.completing = some .runnable ∨
    shared.host.completing = some .waker → shared.state.complete = true
  emptying : shared.host.completing = some .waker → shared.emptied = true
  emptied : shared.emptied = true → shared.state.complete = true
  hooked : shared.hooked = true → shared.emptied = true

attribute [grind] Completing.incomplete PollStage.incomplete
  Host.incomplete ShuttingDown.completing? Host.completing

/-- The effects of a completion. -/
def Effect.completes : Effect → Bool
  | .toComplete _ | .emptyRunnable | .emptyWaker => true
  | _ => false

/-- Only a completion completes the task and runs the release hook. -/
theorem kept_of_not_completes (other : effect.completes = false) :
    (effect.apply shared).state.complete = shared.state.complete ∧
      (effect.apply shared).emptied = shared.emptied ∧
      (effect.apply shared).hooked = shared.hooked := by
  cases effect with
  | toComplete | emptyRunnable | emptyWaker => cases other
  | _ => grind -ring -linarith

theorem completes_apply (other : effect.completes = false)
    (completes : shared.Completes) : (effect.apply shared).Completes := by
  obtain ⟨complete, emptied, hooked⟩ :=
    @kept_of_not_completes shared effect other
  constructor <;> simp only [complete, emptied, hooked, host_apply]
  · exact completes.incomplete
  · exact completes.completed
  · exact completes.emptying
  · exact completes.emptied
  · exact completes.hooked

/-- The host goes on, and not to the release hook. -/
theorem completes_of_host_put {next : Host}
    (other : effect.completes = false)
    (incomplete : next.incomplete = true → shared.state.complete = false)
    (early : next.completing ≠ some .runnable ∧
      next.completing ≠ some .waker)
    (completes : shared.Completes) :
    (Op.apply ⟨effect, some next⟩ shared).Completes where
  incomplete := by
    intro here
    exact (kept_of_not_completes other).1.trans (incomplete here)
  completed := by
    rintro (runnable | waker)
    · exact absurd runnable early.1
    · exact absurd waker early.2
  emptying := fun waker => absurd waker early.2
  emptied := (completes_apply other completes).emptied
  hooked := (completes_apply other completes).hooked

theorem not_completes_of_scheduling {call after : Scheduling}
    (acts : Scheduling.Acts shared tracing call effect after) :
    effect.completes = false := by
  cases acts <;> rfl

theorem completes_of_completing {stage : Completing}
    {after : Option Completing} {ran : Bool} {next : Host}
    (acts : Completing.Acts shared ran stage effect after)
    (here : shared.host.completing = some stage)
    (later : next.incomplete = false) (goes : next.completing = after)
    (completes : shared.Completes) :
    (Op.apply ⟨effect, some next⟩ shared).Completes := by
  obtain ⟨incomplete, completed, emptying, emptied, hooked⟩ := completes
  cases acts <;> constructor <;> grind -ring -linarith

theorem completes_of_poll {stage after : PollStage}
    (acts : PollStage.Acts shared waker tracing stage effect after)
    (same : shared.host = .polling waker tracing stage)
    (completes : shared.Completes) :
    (Op.apply ⟨effect, some (.polling waker tracing after)⟩
      shared).Completes := by
  cases acts with
  | incomplete incomplete | stillIncomplete incomplete =>
      exact completes_of_host_put rfl (fun _ => incomplete) ⟨nofun, nofun⟩
        completes
  | @completing stage effect after acts =>
      refine completes_of_completing acts ?_ ?_ ?_ completes
      · rw [same]
        rfl
      · cases acts <;> rfl
      · cases acts <;> rfl
  | yield acts | aborting acts =>
      refine completes_of_host_put (not_completes_of_scheduling acts)
        (fun _ => completes.incomplete ?_) ⟨nofun, nofun⟩ completes
      rw [same]
      rfl
  | _ =>
      refine completes_of_host_put rfl
        (fun _ => completes.incomplete ?_) ⟨nofun, nofun⟩ completes
      rw [same]
      rfl

/-- The host is inside `task.shutdown()`. -/
def Host.shutdown : Host → Option ShuttingDown
  | .cancelling call | .shuttingDown call => some call
  | _ => none

theorem host_of_shutdown {host : Host} {call : ShuttingDown}
    (here : host.shutdown = some call) :
    host.incomplete = false ∧ host.completing = call.completing? := by
  cases host with
  | cancelling found | shuttingDown found =>
      obtain rfl := Option.some.inj here
      exact ⟨rfl, rfl⟩
  | _ => cases here

theorem completes_of_shutdown {call after : ShuttingDown} {next : Host}
    (acts : ShuttingDown.Acts shared call effect after)
    (here : shared.host.shutdown = some call)
    (goes : next.shutdown = some after)
    (completes : shared.Completes) :
    (Op.apply ⟨effect, some next⟩ shared).Completes := by
  obtain ⟨later, goesTo⟩ := host_of_shutdown goes
  cases acts with
  | completing acts =>
      refine completes_of_completing acts (host_of_shutdown here).2 later ?_
        completes
      rw [goesTo]
      cases acts <;> rfl
  | _ =>
      refine completes_of_host_put rfl ?_ ?_ completes
      · rw [later]
        exact nofun
      · rw [goesTo]
        exact ⟨nofun, nofun⟩

theorem completes_of_waking {call after : Waking}
    (acts : Waking.Acts shared tracing call effect after)
    (completes : shared.Completes) : (effect.apply shared).Completes := by
  cases acts with
  | schedule acts =>
      exact completes_apply (not_completes_of_scheduling acts) completes
  | _ => exact completes_apply rfl completes

theorem completes_of_acts (acts : Thread.Acts shared current op next)
    (completes : shared.Completes) : (op.apply shared).Completes := by
  cases acts with
  | host acts =>
      generalize same : shared.host = host at acts
      cases acts with
      | polling acts => exact completes_of_poll acts same completes
      | cancelling acts | shuttingDown acts =>
          exact completes_of_shutdown acts (by rw [same]; rfl) rfl completes
      | _ => exact completes_of_host_put rfl nofun ⟨nofun, nofun⟩ completes
  | waking acts => exact completes_of_waking acts completes

theorem completes_of_reachable {world : World}
    (reached : program.Reachable world) : world.shared.Completes := by
  refine Program.shared_invariant Shared.Completes ?_ ?_ reached
  · rintro shared rfl
    exact ⟨fun _ => rfl, nofun, nofun, nofun, nofun⟩
  · intro world thread current op next _ _ acts completes
    exact completes_of_acts acts completes

/-! ## After the release hook -/

/-- The slot is emptied with its lock free. -/
theorem unlocked_of_emptied (acts : Thread.Acts shared current op next)
    (before : shared.emptied = false)
    (after : (op.apply shared).emptied = true) :
    shared.locked = false := by
  cases acts with
  | host acts =>
      generalize shared.host = host at acts
      cases acts with
      | polling acts =>
          cases acts with
          | yield acts => cases acts <;> grind -ring -linarith
          | aborting acts => cases acts <;> grind -ring -linarith
          | completing acts => cases acts <;> grind -ring -linarith
          | _ => grind -ring -linarith
      | cancelling acts =>
          cases acts with
          | completing acts => cases acts <;> grind -ring -linarith
          | _ => grind -ring -linarith
      | shuttingDown acts =>
          cases acts with
          | completing acts => cases acts <;> grind -ring -linarith
          | _ => grind -ring -linarith
      | _ => grind -ring -linarith
  | waking acts =>
      cases acts with
      | schedule acts => cases acts <;> grind -ring -linarith
      | _ => grind -ring -linarith

/-- A wake that has found the task incomplete is before the release hook. -/
theorem unemptied_of_checks {world : World}
    (reached : program.Reachable world) {thread : Nat} {found : Thread}
    (running : world.threads thread = some found)
    (checks : 0 < found.checks) : world.shared.emptied = false := by
  refine Program.thread_invariant
    (fun shared thread => 0 < thread.checks → shared.emptied = false)
    ?_ ?_ ?_ reached running checks
  · intro world first reached starts checks
    cases starts <;> cases checks
  · intro world thread current op next reached running acts held checks
    have completes := completes_of_reachable reached
    change (op.apply world.shared).emptied = false
    cases acts with
    | host acts => cases checks
    | waking acts =>
        cases acts with
        | schedule acts =>
            cases acts <;> grind -ring -linarith [Shared.Completes]
        | _ => cases checks
  · intro world thread bystander current op next held reached different
      running bystanderRunning acts unemptied checks
    have before := unemptied checks
    have bound :=
      Program.le_of_balanced (locking.balanced reached) bystanderRunning
    by_contra after
    have unlocked := unlocked_of_emptied acts before
      (Bool.eq_true_of_not_eq_false after)
    simp only [unlocked, Bool.toNat_false] at bound
    omega

/-- What the release hook has emptied stays empty. -/
structure Shared.Cleared (shared : Shared) : Prop where
  runnable : shared.emptied = true → shared.runnable = false
  waker : shared.hooked = true → shared.waker = none

theorem cleared_of_scheduling {call after : Scheduling}
    (acts : Scheduling.Acts shared tracing call effect after)
    (before : 0 < call.checks → shared.emptied = false)
    (cleared : shared.Cleared) : (effect.apply shared).Cleared := by
  obtain ⟨runnable, waker⟩ := cleared
  cases acts <;> constructor <;> grind -ring -linarith

theorem cleared_of_poll {stage after : PollStage}
    (acts : PollStage.Acts shared waker tracing stage effect after)
    (same : shared.host = .polling waker tracing stage)
    (completes : shared.Completes) (cleared : shared.Cleared) :
    (effect.apply shared).Cleared := by
  have before : stage.incomplete = true → shared.emptied = false := by
    intro incomplete
    have unfinished := completes.incomplete (by rw [same]; exact incomplete)
    grind -ring -linarith [Shared.Completes]
  cases acts with
  | yield acts =>
      exact cleared_of_scheduling acts (fun _ => before rfl) cleared
  | aborting acts =>
      exact cleared_of_scheduling acts (fun _ => before rfl) cleared
  | completing acts =>
      obtain ⟨runnable, waker⟩ := cleared
      cases acts <;> constructor <;> grind -ring -linarith
  | _ =>
      obtain ⟨runnable, waker⟩ := cleared
      obtain ⟨-, -, -, -, hooked⟩ := completes
      constructor <;> grind -ring -linarith

theorem cleared_of_shutdown {call after : ShuttingDown}
    (acts : ShuttingDown.Acts shared call effect after)
    (cleared : shared.Cleared) : (effect.apply shared).Cleared := by
  obtain ⟨runnable, waker⟩ := cleared
  cases acts with
  | completing acts => cases acts <;> constructor <;> grind -ring -linarith
  | _ => constructor <;> grind -ring -linarith

theorem cleared_of_reachable {world : World}
    (reached : program.Reachable world) : world.shared.Cleared := by
  refine Program.shared_invariant Shared.Cleared ?_ ?_ reached
  · rintro shared rfl
    exact ⟨nofun, nofun⟩
  · intro world thread current op next reached running acts cleared
    have completes := completes_of_reachable reached
    change (op.apply world.shared).Cleared
    cases acts with
    | host acts =>
        generalize same : world.shared.host = host at acts
        cases acts with
        | polling acts =>
            obtain ⟨runnable, waker⟩ :=
              cleared_of_poll acts same completes cleared
            exact ⟨runnable, waker⟩
        | cancelling acts =>
            obtain ⟨runnable, waker⟩ := cleared_of_shutdown acts cleared
            exact ⟨runnable, waker⟩
        | shuttingDown acts =>
            obtain ⟨runnable, waker⟩ := cleared_of_shutdown acts cleared
            exact ⟨runnable, waker⟩
        | bind =>
            have unfinished := completes.incomplete (by rw [same]; rfl)
            obtain ⟨runnable, waker⟩ := cleared
            obtain ⟨-, -, -, emptied, -⟩ := completes
            constructor <;> grind -ring -linarith
        | _ =>
            obtain ⟨runnable, waker⟩ := cleared
            constructor <;> grind -ring -linarith
    | waking acts =>
        cases acts with
        | schedule acts =>
            exact cleared_of_scheduling acts
              (fun checks => unemptied_of_checks reached running checks)
              cleared
        | _ =>
            obtain ⟨runnable, waker⟩ := cleared
            constructor <;> grind -ring -linarith

/-- The release hook does not come undone. -/
theorem hooked_of_steps {world later : World}
    (reached : program.Reachable world)
    (steps : program.Steps world later)
    (hooked : world.shared.hooked = true) : later.shared.hooked = true := by
  refine Program.shared_lasts (fun shared => shared.hooked = true) reached
    steps hooked ?_
  intro world thread current op next _ _ _ hooked
  change (op.apply world.shared).hooked = true
  rcases op with ⟨effect, host⟩
  cases effect <;> cases host <;> grind -ring -linarith

/-- The `Notified` values of the task are those in the slot and in the hands
of calls, and they are at most one; and once the task is complete and its
release hook has run, the slot and the stored waker are empty for good. -/
def RunToken (world : World) : Prop :=
  Program.Balanced Shared.tokens Shared.rests Thread.holds world ∧
    world.shared.tokens ≤ 1 ∧ world.shared.twice = false ∧
    (world.shared.state.complete = true → world.shared.hooked = true →
      ∀ later, program.Steps world later →
        later.shared.runnable = false ∧ later.shared.waker = none)

/-- The run token of a guest task is unique and does not leak. -/
theorem runToken_isUnique {world : World}
    (reached : program.Reachable world) : RunToken world := by
  refine ⟨balancing.balanced reached,
    (bounded_of_reachable reached).single,
    not_twice_of_reachable reached, ?_⟩
  intro _ hooked later steps
  have after := hooked_of_steps reached steps hooked
  have reachedLater := reached.steps steps
  have cleared := cleared_of_reachable reachedLater
  have emptied := (completes_of_reachable reachedLater).hooked after
  exact ⟨cleared.runnable emptied, cleared.waker after⟩

/-- The task is woken while its first poll runs, and completes in it. -/
theorem runToken_isUnique_of_complete :
    ∃ world : World, world.shared.state.complete = true ∧
      world.shared.hooked = true ∧ RunToken world := by
  have host := reachable_new.fork 0 rfl .host
  have bound := host.move 0 rfl (.host .bind)
  have polled := bound.move 0 rfl (.host (.poll 3 false))
  have checked := polled.move 0 rfl (.host (.polling (.incomplete rfl)))
  have taken := checked.move 0 rfl (.host (.polling (.take rfl rfl rfl)))
  have running := taken.move 0 rfl (.host (.polling (.run rfl)))
  have woken := running.fork 1 rfl (.waking false false)
  have noted := woken.move 1 rfl (.waking (.already rfl))
  have ready := noted.move 0 rfl (.host (.polling .ready))
  have complete := ready.move 0 rfl
    (.host (.polling (.completing .bit)))
  have emptied := complete.move 0 rfl
    (.host (.polling (.completing (.runnable rfl))))
  have hooked := emptied.move 0 rfl
    (.host (.polling (.completing .waker)))
  exact ⟨_, rfl, rfl, runToken_isUnique hooked⟩

end Telekio.Runner
