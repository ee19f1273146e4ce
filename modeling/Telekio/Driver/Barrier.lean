import Telekio.Driver.WakeState
import Telekio.Interleave.Counting

/-!
# The barrier at the end of a wake source

`arm` and `telekio_deregister` of the host's I/O driver on any number of
threads. A thread has a stack of calls, as the callback and what else runs
inside a call may wake the source again. The mutex is held for one operation
at a time.
-/

namespace Telekio.Driver.Barrier

open Telekio.Interleave

/-- `notifications` counts the calls of `notify_all`. -/
structure Shared where
  lifecycle : WakeLifecycle
  notifications : Nat

inductive Op where
  | skip
  | enter
  | leave
  | beginClose
  | wait
  | waitClosed
deriving DecidableEq, Repr

namespace Op

def lifecycle (op : Op) (shared : Shared) : WakeLifecycle :=
  match op with
  | .enter => shared.lifecycle.enter.1
  | .leave => shared.lifecycle.leave
  | .beginClose => shared.lifecycle.beginClose
  | _ => shared.lifecycle

/-- The last guard that is dropped notifies. -/
def notifications (op : Op) (shared : Shared) : Nat :=
  match op with
  | .leave =>
      if shared.lifecycle.leave.active = 0 then
        shared.notifications + 1
      else
        shared.notifications
  | _ => shared.notifications

def apply (op : Op) (shared : Shared) : Shared where
  lifecycle := op.lifecycle shared
  notifications := op.notifications shared

end Op

/-- An `arm` call. From `entered` to `leaving` it has its guard. -/
inductive Arm where
  | called
  | entered
  | polling
  | calling
  | clearing
  | leaving
  | returned
deriving DecidableEq, Repr

inductive Arm.Acts (shared : Shared) : Arm → Op → Arm → Prop
  | enter (entered : shared.lifecycle.enter.2 = true) :
      Arm.Acts shared .called .enter .entered
  | refuse (refused : shared.lifecycle.enter.2 = false) :
      Arm.Acts shared .called .enter .returned
  | upgrade : Arm.Acts shared .entered .skip .polling
  -- the `ScheduledIo` is gone
  | upgradeFails : Arm.Acts shared .entered .skip .leaving
  -- `Pending`, or shut down
  | pending : Arm.Acts shared .polling .skip .leaving
  | ready : Arm.Acts shared .polling .skip .calling
  | finish : Arm.Acts shared .calling .skip .clearing
  | panic : Arm.Acts shared .calling .skip .leaving
  | clear : Arm.Acts shared .clearing .skip .polling
  | leave : Arm.Acts shared .leaving .leave .returned

/-- A `telekio_deregister` call. While it is `waiting` it is blocked in the
condition variable, since there were `ticket` notifications. -/
inductive Deregister where
  | called
  | closing
  | checking
  | waiting (ticket : Nat)
  | returned
deriving DecidableEq, Repr

inductive Deregister.Acts (shared : Shared) :
    Deregister → Op → Deregister → Prop
  | beginClose : Deregister.Acts shared .called .beginClose .closing
  -- the wakers are cleared and the source is deregistered
  | deregisterSource : Deregister.Acts shared .closing .skip .checking
  | wait (busy : shared.lifecycle.waitClosed = false) :
      Deregister.Acts shared .checking .wait (.waiting shared.notifications)
  | notified {ticket : Nat} (missed : ticket < shared.notifications) :
      Deregister.Acts shared (.waiting ticket) .skip .checking
  | spurious {ticket : Nat} :
      Deregister.Acts shared (.waiting ticket) .skip .checking
  | waitClosed (quiet : shared.lifecycle.waitClosed = true) :
      Deregister.Acts shared .checking .waitClosed .returned

inductive Frame where
  | arm (arm : Arm)
  | deregister (stage : Deregister)
deriving DecidableEq, Repr

namespace Frame

inductive Acts (shared : Shared) : Frame → Op → Frame → Prop
  | arm {op : Op} {arm next : Arm} (acts : Arm.Acts shared arm op next) :
      Acts shared (.arm arm) op (.arm next)
  | deregister {op : Op} {stage next : Deregister}
      (acts : Deregister.Acts shared stage op next) :
      Acts shared (.deregister stage) op (.deregister next)

inductive Starts : Frame → Prop
  | arm : Starts (.arm .called)
  | deregister : Starts (.deregister .called)

/-- A call in which code runs that may make other calls. -/
def runsOther : Frame → Bool
  | .arm .entered => true
  | .arm .polling => true
  | .arm .calling => true
  | .arm .clearing => true
  | .deregister .closing => true
  | _ => false

/-- A call that has returned. -/
def done : Frame → Bool
  | .arm .returned => true
  | .deregister .returned => true
  | _ => false

/-- The `WakeGuard`s of a call. -/
def guards : Frame → Nat
  | .arm .called => 0
  | .arm .returned => 0
  | .arm _ => 1
  | .deregister _ => 0

end Frame

/-- The calls of a thread, the innermost one first. -/
abbrev Thread : Type :=
  List Frame

inductive Thread.Acts (shared : Shared) : Thread → Op → Thread → Prop
  | act {op : Op} {frame next : Frame} {below : Thread}
      (acts : Frame.Acts shared frame op next) :
      Thread.Acts shared (frame :: below) op (next :: below)
  | call {first : Frame} {below : Thread} (starts : first.Starts)
      (runs : below.head?.all Frame.runsOther) :
      Thread.Acts shared below .skip (first :: below)
  | return_ {frame : Frame} {below : Thread} (done : frame.done) :
      Thread.Acts shared (frame :: below) .skip below

def program : Program Shared Thread Op where
  initial := fun shared => shared.lifecycle = WakeLifecycle.default
  start := fun thread => thread = []
  act := Thread.Acts
  apply := Op.apply

abbrev World : Type :=
  Interleave.World Shared Thread

variable {shared : Shared} {op : Op} {world : World}

def Thread.guards (thread : Thread) : Nat :=
  thread.foldr (fun frame guards => frame.guards + guards) 0

theorem Thread.guards_cons {frame : Frame} {below : Thread} :
    Thread.guards (frame :: below) = frame.guards + below.guards :=
  rfl

theorem guards_of_acts {frame next : Frame}
    (acts : frame.Acts shared op next)
    (counted : frame.guards ≤ shared.lifecycle.active) :
    (op.apply shared).lifecycle.active + frame.guards =
      shared.lifecycle.active + next.guards := by
  cases acts with
  | arm acts =>
      cases acts with
      | enter entered => exact WakeLifecycle.active_enter entered
      | refuse refused =>
          change shared.lifecycle.enter.1.active + 0 = _
          rw [WakeLifecycle.enter_of_refused refused]
          rfl
      | leave => exact Nat.sub_add_cancel counted
      | _ => rfl
  | deregister acts => cases acts <;> rfl

/-- `active` counts the live guards. -/
theorem activeCounting :
    program.Counting (fun shared => shared.lifecycle.active)
      Thread.guards where
  initially := by
    intro shared fresh
    exact congrArg WakeLifecycle.active fresh
  starts := by
    rintro first rfl
    rfl
  moves := by
    intro world thread current op next _ _ acts counted
    cases acts with
    | act acts =>
        rw [Thread.guards_cons] at counted ⊢
        have changed := guards_of_acts acts (by omega)
        rw [Thread.guards_cons]
        change (op.apply world.shared).lifecycle.active + _ = _
        omega
    | @call first below starts =>
        have none : first.guards = 0 := by cases starts <;> rfl
        rw [Thread.guards_cons, none, Nat.zero_add]
        rfl
    | @return_ frame below done =>
        have none : frame.guards = 0 := by
          cases frame with
          | arm arm => cases arm <;> first | rfl | cases done
          | deregister stage => rfl
        rw [Thread.guards_cons, none, Nat.zero_add]
        rfl

theorem guards_le_of_mem {thread : Thread} {frame : Frame}
    (member : frame ∈ thread) : frame.guards ≤ thread.guards := by
  induction thread with
  | nil => cases member
  | cons first below ih =>
      rw [Thread.guards_cons]
      rcases List.mem_cons.mp member with rfl | inside
      · exact Nat.le_add_right _ _
      · exact (ih inside).trans (Nat.le_add_left _ _)

/-! ## What lasts -/

theorem closing_apply (closing : shared.lifecycle.closing = true) :
    (op.apply shared).lifecycle.closing = true := by
  cases op with
  | enter => exact WakeLifecycle.closing_enter.trans closing
  | beginClose => rfl
  | _ => exact closing

theorem drained_apply (drained : shared.lifecycle.Drained) :
    (op.apply shared).lifecycle.Drained := by
  cases op with
  | enter => exact WakeLifecycle.drained_enter drained
  | leave => exact WakeLifecycle.drained_leave drained
  | beginClose => exact WakeLifecycle.drained_beginClose drained
  | _ => exact drained

theorem notifications_le_apply :
    shared.notifications ≤ (op.apply shared).notifications := by
  cases op with
  | leave =>
      change _ ≤ ite _ _ _
      split <;> omega
  | _ => exact le_rfl

/-- What the stages of a deregistration rest on. A waiter that has missed no
notification waits for a guard. -/
def Deregister.Fits (shared : Shared) : Deregister → Prop
  | .called => True
  | .closing => shared.lifecycle.closing = true
  | .checking => shared.lifecycle.closing = true
  | .waiting ticket => shared.lifecycle.closing = true ∧
      (ticket < shared.notifications ∨
        ticket = shared.notifications ∧ shared.lifecycle.active ≠ 0)
  | .returned => shared.lifecycle.Drained

def Frame.Fits (shared : Shared) : Frame → Prop
  | .arm _ => True
  | .deregister stage => stage.Fits shared

/-- A waiter that has missed no notification still waits for a guard, or the
last guard notifies it. -/
theorem missed_apply {ticket : Nat}
    (waits : ticket < shared.notifications ∨
      ticket = shared.notifications ∧ shared.lifecycle.active ≠ 0)
    (closing : shared.lifecycle.closing = true) :
    ticket < (op.apply shared).notifications ∨
      ticket = (op.apply shared).notifications ∧
        (op.apply shared).lifecycle.active ≠ 0 := by
  rcases waits with missed | ⟨rfl, busy⟩
  · exact Or.inl (missed.trans_le notifications_le_apply)
  cases op with
  | enter =>
      have refused : shared.lifecycle.enter.2 = false := by
        rw [Bool.eq_false_iff, ne_eq, WakeLifecycle.enter_eq_true, closing]
        exact Bool.noConfusion
      refine Or.inr ⟨rfl, ?_⟩
      change shared.lifecycle.enter.1.active ≠ 0
      rw [WakeLifecycle.enter_of_refused refused]
      exact busy
  | leave =>
      by_cases last : shared.lifecycle.leave.active = 0
      · refine Or.inl ?_
        change _ < ite _ _ _
        rw [if_pos last]
        exact Nat.lt_succ_self _
      · refine Or.inr ⟨?_, last⟩
        change _ = ite _ _ _
        rw [if_neg last]
  | _ => exact Or.inr ⟨rfl, busy⟩

theorem fits_apply {frame : Frame} (fits : frame.Fits shared) :
    frame.Fits (op.apply shared) := by
  cases frame with
  | arm arm => trivial
  | deregister stage =>
      cases stage with
      | called => trivial
      | closing => exact closing_apply fits
      | checking => exact closing_apply fits
      | waiting ticket =>
          exact ⟨closing_apply fits.1, missed_apply fits.2 fits.1⟩
      | returned => exact drained_apply fits

theorem fits_of_acts {frame next : Frame} (acts : frame.Acts shared op next)
    (fits : frame.Fits shared) : next.Fits (op.apply shared) := by
  cases acts with
  | arm acts => trivial
  | deregister acts =>
      cases acts with
      | beginClose => rfl
      | deregisterSource => exact fits
      | wait busy =>
          have working : shared.lifecycle.active ≠ 0 :=
            of_decide_eq_false busy
          exact ⟨fits, Or.inr ⟨rfl, working⟩⟩
      | notified => exact fits.1
      | spurious => exact fits.1
      | waitClosed quiet => exact ⟨fits, of_decide_eq_true quiet⟩

/-- Every call fits the state of the source. -/
theorem fits_of_reachable (reached : program.Reachable world) {thread : Nat}
    {found : Thread} (running : world.threads thread = some found) :
    ∀ frame ∈ found, frame.Fits world.shared := by
  refine Program.thread_invariant
    (fun shared found => ∀ frame ∈ found, Frame.Fits shared frame)
    ?_ ?_ ?_ reached running
  · rintro world first _ rfl frame member
    cases member
  · intro world thread current op next _ _ acts fits frame member
    cases acts with
    | act acts =>
        rcases List.mem_cons.mp member with rfl | below
        · exact fits_of_acts acts (fits _ List.mem_cons_self)
        · exact fits_apply (fits frame (List.mem_cons_of_mem _ below))
    | call starts =>
        rcases List.mem_cons.mp member with rfl | below
        · cases starts <;> trivial
        · exact fits_apply (fits frame below)
    | return_ =>
        exact fits_apply (fits frame (List.mem_cons_of_mem _ member))
  · intro world thread bystander current op next found _ _ _ _ _ fits frame
      member
    exact fits_apply (fits frame member)

section Later

variable {later : World}

theorem closing_of_steps (reached : program.Reachable world)
    (steps : program.Steps world later)
    (closing : world.shared.lifecycle.closing = true) :
    later.shared.lifecycle.closing = true :=
  Program.shared_lasts (fun shared => shared.lifecycle.closing = true)
    reached steps closing fun _ _ _ _ _ _ _ _ => closing_apply

theorem drained_of_steps (reached : program.Reachable world)
    (steps : program.Steps world later)
    (drained : world.shared.lifecycle.Drained) :
    later.shared.lifecycle.Drained :=
  Program.shared_lasts (fun shared => shared.lifecycle.Drained) reached
    steps drained fun _ _ _ _ _ _ _ _ => drained_apply

end Later

/-- No call is inside the callback. -/
def Uncalled (world : World) : Prop :=
  ∀ thread found, world.threads thread = some found →
    .arm .calling ∉ found

/-- Whoever waits has missed a notification. -/
def Notified (world : World) : Prop :=
  ∀ thread found ticket, world.threads thread = some found →
    .deregister (.waiting ticket) ∈ found →
    ticket < world.shared.notifications

theorem uncalled_of_drained (reached : program.Reachable world)
    (drained : world.shared.lifecycle.Drained) : Uncalled world := by
  intro thread found running member
  have none := activeCounting.holds_eq_zero reached drained.2 running
  have held := guards_le_of_mem member
  rw [none] at held
  exact absurd held (by decide)

theorem notified_of_drained (reached : program.Reachable world)
    (drained : world.shared.lifecycle.Drained) : Notified world := by
  intro thread found ticket running member
  obtain ⟨-, missed | ⟨-, busy⟩⟩ := fits_of_reachable reached running _ member
  · exact missed
  · exact absurd drained.2 busy

/-- In every interleaving: `active` counts the live guards; `closing` stays;
once a `wait_closed` has returned, `active` stays zero and no callback runs or
begins; and if a guard is the last one that is dropped after `closing`, whoever
waits is notified from then on. -/
theorem deregister_barrier (reached : program.Reachable world) :
    Program.Counted (fun shared => shared.lifecycle.active) Thread.guards
      world ∧
    (world.shared.lifecycle.closing = true →
      ∀ later, program.Steps world later →
        later.shared.lifecycle.closing = true) ∧
    (∀ thread found, world.threads thread = some found →
      .deregister .returned ∈ found →
      ∀ later, program.Steps world later →
        later.shared.lifecycle.active = 0 ∧ Uncalled later) ∧
    ∀ thread next, program.Moves thread .leave world next →
      world.shared.lifecycle.closing = true →
      next.shared.lifecycle.active = 0 →
      ∀ later, program.Steps next later → Notified later := by
  refine ⟨activeCounting.counted reached, ?_, ?_, ?_⟩
  · intro closing later steps
    exact closing_of_steps reached steps closing
  · intro thread found running member later steps
    have drained : world.shared.lifecycle.Drained :=
      fits_of_reachable reached running _ member
    have after := drained_of_steps reached steps drained
    exact ⟨after.2, uncalled_of_drained (reached.steps steps) after⟩
  · intro thread next moves closing none later steps
    have reachedNext := reached.step (.move moves)
    have drained : next.shared.lifecycle.Drained := by
      refine ⟨?_, none⟩
      obtain ⟨running, acts⟩ := moves
      exact closing_apply closing
    exact notified_of_drained (reachedNext.steps steps)
      (drained_of_steps reachedNext steps drained)

/-- The callback wakes the source, and a deregistration waits for the outer
call, which is about to drop its guard. -/
theorem exists_waiting :
    ∃ world, program.Reachable world ∧
      world.threads 0 = some [.arm .leaving] ∧
      world.threads 1 = some [.deregister (.waiting 0)] ∧
      world.shared = ⟨⟨1, true⟩, 0⟩ := by
  have fresh : program.Reachable (World.quiet ⟨WakeLifecycle.default, 0⟩) :=
    Program.Reachable.quiet rfl
  have called := (fresh.fork 0 rfl rfl).move 0 rfl (.call .arm rfl)
  have polling := (called.move 0 rfl (.act (.arm (.enter rfl)))).move 0 rfl
    (.act (.arm .upgrade))
  have calling := polling.move 0 rfl (.act (.arm .ready))
  have inner := (calling.move 0 rfl (.call .arm rfl)).move 0 rfl
    (.act (.arm (.enter rfl)))
  have closing := ((inner.fork 1 rfl rfl).move 1 rfl
    (.call .deregister rfl)).move 1 rfl (.act (.deregister .beginClose))
  have waiting := (closing.move 1 rfl
    (.act (.deregister .deregisterSource))).move 1 rfl
      (.act (.deregister (.wait rfl)))
  have left := (waiting.move 0 rfl (.act (.arm .upgradeFails))).move 0 rfl
    (.act (.arm .leave))
  have finished := (left.move 0 rfl (.return_ rfl)).move 0 rfl
    (.act (.arm .finish))
  have leaving := (finished.move 0 rfl (.act (.arm .clear))).move 0 rfl
    (.act (.arm .pending))
  exact ⟨_, leaving, rfl, rfl, rfl⟩

theorem deregister_barrier_waiting :
    ∃ world next, program.Reachable world ∧
      program.Moves 0 .leave world next ∧
      next.threads 1 = some [.deregister (.waiting 0)] ∧ Notified next := by
  obtain ⟨world, reached, leaving, waiting, same⟩ := exists_waiting
  have moves : program.Moves 0 .leave world _ :=
    .mk leaving (.act (.arm .leave))
  refine ⟨world, _, reached, moves, ?_, ?_⟩
  · exact (World.put_threads_of_ne _ _ _ (by decide)).trans waiting
  · refine (deregister_barrier reached).2.2.2 _ _ moves ?_ ?_ _ .refl
    · rw [same]
    · change world.shared.lifecycle.leave.active = 0
      rw [same]
      rfl

end Telekio.Driver.Barrier
