import Telekio.Bridge.Records
import Telekio.Bridge.Sweeps

/-!
# Blocked calls are woken

A `GuestFuture` stores its waker in the activity before it polls the guest.
Whatever the cutoff interrupts, the waker of a pending future is in the table
when the wakers are cloned, and a later poll does not reach the guest.
-/

namespace Telekio.Bridge

open Telekio.Interleave
open Telekio.Owner

variable {world : World}

/-- The waking loop of a run has finished. -/
def ShutdownStage.wakeLoopFinished (stage : ShutdownStage) : Prop :=
  stage.wakersLeft = some []

/-- The waker of the poll a future is in, or was in last. -/
def BlockOn.lastWaker (call : BlockOn) : Option Nat :=
  match call.stage with
  | .inside (.polling waker) => some waker
  | .inside (.pending waker) => some waker
  | _ => none

theorem armed_of_inside (reached : program.Reachable world)
    {thread : Nat} {call : BlockOn} {future : GuestFuture}
    (running : world.threads thread = some (.blockOn call))
    (inside : call.stage = .inside future) :
    ∃ id, call.activity = .armed id :=
  armed_of_insideActivity reached running ⟨future, inside⟩

/-- The waker of the last poll is the one in the activity. -/
theorem storedWaker_of_lastWaker (reached : program.Reachable world)
    {thread : Nat} {call : BlockOn} {id waker : Nat}
    (running : world.threads thread = some (.blockOn call))
    (armed : call.activity = .armed id)
    (polled : call.lastWaker = some waker) :
    world.shared.activities.lookup id = some (some (.host waker)) := by
  refine Program.thread_invariant
    (fun shared held => ∀ call id waker, held = .blockOn call →
      call.activity = .armed id → call.lastWaker = some waker →
      shared.activities.lookup id = some (some (.host waker)))
    ?_ ?_ ?_ reached running call id waker rfl armed polled
  · intro world first _ starts call id waker same armed
    cases starts <;> cases same
    cases armed
  · intro world thread current op next reached running acts stored after
      id waker same armed polled
    subst same
    cases acts with
    | @blockOn before _ _ acts =>
        cases acts with
        | poll polledBy known idle updated =>
            cases known.symm.trans armed
            cases Option.some.inj polled
            obtain ⟨slot, found⟩ := Option.isSome_iff_exists.mp
              (activityOwning.isPresent reached running known)
            have accepted := OwnerState.updateActivityWaker_eq_true.mp
              updated
            change (world.shared.owner.updateActivityWaker id
              (.host waker)).1.state.activities.lookup id = _
            simp only [OwnerState.updateActivityWaker,
              OwnerState.isAccepting, accepted]
            change (Table.assign id (some (Waker.host waker))
              world.shared.activities).lookup id = _
            rw [Table.lookup_assign_eq, if_pos ⟨rfl, by simp [found]⟩]
        | pending polling =>
            refine stored before id waker rfl armed ?_
            simpa [BlockOn.lastWaker, polling] using polled
        | drop leaving drops =>
            simp [BlockOn.lastWaker, leaving] at polled
        | _ => simp [BlockOn.lastWaker] at polled
  · intro world thread bystander current op next held reached different
      running holding acts stored call id waker same armed polled
    subst same
    have found := stored call id waker rfl armed polled
    have exclusive := not_armed_of_armed reached different holding
      running armed
    rcases (ownerChange_apply op world.shared).activity_before
        (activity_lt_nextId reached found) found with
      kept | ⟨rfl, _⟩ | ⟨other, rfl, _⟩
    · exact kept
    · exact absurd (Thread.removeActivity_of_acts acts).1 exclusive
    · obtain ⟨updater, rfl, known⟩ :=
        Thread.updateActivityWaker_of_acts acts
      exact absurd known exclusive

/-- A poll that starts after the cutoff ends at once. -/
theorem refused_of_poll {shared : Shared} {call : BlockOn}
    {next : Thread} {id : Nat} {waker : Waker}
    (refusing : Refusing shared)
    (acts : Thread.Acts shared (.blockOn call)
      (.updateActivityWaker id waker) next) :
    next = .blockOn { call with stage := .inside (.ready .error) } := by
  cases acts with
  | blockOn acts =>
      cases acts with
      | poll waker known idle updated =>
          exact absurd (refusing.symm.trans
            (OwnerState.updateActivityWaker_eq_true.mp updated))
            (by decide)
      | refusePoll waker known idle refused => rfl
      | drop leaving drops => cases drops

/-- No blocked `block_on` is stranded by a shutdown. -/
theorem blockOn_notStranded (reached : program.Reachable world)
    {thread : Nat} {call : BlockOn}
    (running : world.threads thread = some (.blockOn call)) :
    (∀ other run waker,
      world.threads other = some (.shutdown run) →
      run.stage.wakeLoopFinished →
      call.stage = .inside (.pending waker) →
      world.shared.woken (.host waker) = true) ∧
    (Refusing world.shared →
      (∀ id waker next,
        Thread.Acts world.shared (.blockOn call)
          (.updateActivityWaker id waker) next →
        next =
          .blockOn { call with stage := .inside (.ready .error) }) ∧
      ∀ waker, BlockOn.pollable call.stage →
        ∃ id, Thread.Acts world.shared (.blockOn call)
          (.updateActivityWaker id (.host waker))
          (.blockOn { call with stage := .inside (.ready .error) })) := by
  refine ⟨?_, ?_⟩
  · intro other run waker shutting finished pending
    obtain ⟨id, armed⟩ := armed_of_inside reached running pending
    have polled : call.lastWaker = some waker := by
      simp [BlockOn.lastWaker, pending]
    have stored := storedWaker_of_lastWaker reached running armed polled
    exact wakeSweep.settled_of_done reached shutting finished
      ⟨id, stored⟩
  · intro refusing
    refine ⟨fun id waker next => refused_of_poll refusing, ?_⟩
    intro waker idle
    obtain ⟨id, armed⟩ : ∃ id, call.activity = .armed id := by
      cases stage : call.stage with
      | inside future => exact armed_of_inside reached running stage
      | _ => simp [stage, BlockOn.pollable] at idle
    refine ⟨id, .blockOn (.refusePoll waker armed idle ?_)⟩
    rw [← Bool.not_eq_true, OwnerState.updateActivityWaker_eq_true]
    simp [show world.shared.owner.accepting = false from refusing]

/-- A future that was pending at the cutoff is woken. -/
theorem blockOn_notStranded_of_pending :
    ∃ world, program.Reachable world ∧
      world.shared.woken (.host 5) = true := by
  have forked :=
    reachable_fresh.fork 1 rfl .blockOn
  have inside := forked.move 1 rfl (.blockOn (.activity rfl rfl))
  have polling :=
    inside.move 1 rfl (.blockOn (.poll 5 rfl trivial rfl))
  have pending := polling.move 1 rfl (.blockOn (.pending rfl))
  have began := pending.fork 0 rfl .shutdown
  have entered := began.move 0 rfl (.shutdown (.callback rfl rfl))
  have cut := entered.move 0 rfl (.shutdown (.cutoff rfl rfl))
  have aborted := cut.move 0 rfl (.shutdown (.aborted rfl))
  have closed := aborted.move 0 rfl (.shutdown (.closed rfl))
  have own := closed.move 0 rfl (.shutdown (.wake rfl))
  have woken := own.move 0 rfl (.shutdown (.wake rfl))
  exact ⟨_, woken,
    (@blockOn_notStranded _ woken 1 _ rfl).1 0 _ 5 rfl rfl rfl⟩

end Telekio.Bridge
