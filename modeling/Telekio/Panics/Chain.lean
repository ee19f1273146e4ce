import Telekio.Panics.Machine

/-!
# The panic chain names the live frames

Ending a frame undoes its beginning, so a reachable thread is as if it had
only begun the frames that it is still in.
-/

namespace Telekio.Panics

open Telekio.Nesting
open Telekio.Crossing (Artifact)

variable {machine next : Machine}

namespace Machine

variable (machine : Machine)

/-- The frames of `with_execution_state` that the thread is in, innermost
first: the addresses of their records, and their artifacts. -/
def live : List (Nat × Artifact) :=
  machine.frames.filterMap fun frame =>
    match frame with
    | .enter _ _ => none
    | .execution artifact record _ => some (record, artifact)

/-- The code that runs: the artifact of the innermost frame, or the host that
it has called. -/
def Runs (artifact : Artifact) : Prop :=
  match machine.frames with
  | [] => True
  | .enter _ _ :: _ => artifact = .host
  | .execution innermost _ _ :: _ =>
      artifact = innermost ∨ artifact = .host

end Machine

/-- A thread that has only begun the frames that it is in. -/
inductive Nest : Machine → Prop
  | start {panicked : Artifact → Bool} : Nest (.start panicked)
  | opens {machine next : Machine} (before : Nest machine)
      (opens : Opens machine next) : Nest next

theorem exists_state_of_nest (nest : Nest machine) {state : Nat}
    (active : machine.active = some state) :
    ∃ execution, machine.states state = some execution := by
  induction nest generalizing state with
  | start => cases active
  | opens before opens inductionHypothesis =>
      cases opens with
      | enter fresh =>
          cases active
          exact ⟨_, Function.update_self _ _ _⟩
      | @withExecutionState _ _ other current fresh =>
          obtain rfl := Option.some.inj (current.symm.trans active)
          exact ⟨_, Function.update_self _ _ _⟩

/-- Ending a frame undoes its beginning. -/
theorem leave_of_opens (nest : Nest machine) (opens : Opens machine next) :
    next.leave = machine := by
  cases opens with
  | @enter state fresh =>
      have states : Function.update machine.states state none =
          machine.states := by
        rw [← fresh, Function.update_eq_self]
      simp only [Machine.leave, Machine.enter, Function.update_idem, states]
  | @withExecutionState artifact record state active fresh =>
      obtain ⟨execution, found⟩ := exists_state_of_nest nest active
      have records : Function.update machine.records record none =
          machine.records := by
        rw [← fresh, Function.update_eq_self]
      have panic : some (⟨machine.panic state⟩ : ExecutionState) =
          machine.states state := by
        rw [Machine.panic, found, Option.bind_some]
      simp only [Machine.leave, Machine.withExecutionState,
        Function.update_idem, records, panic, Function.update_eq_self]

/-- Who panics does not matter to the frames. -/
theorem Nest.panic (nest : Nest machine) (panicked : Artifact → Bool) :
    Nest { machine with panicked := panicked } := by
  induction nest with
  | start => exact .start
  | opens before opens inductionHypothesis =>
      cases opens with
      | enter fresh =>
          exact inductionHypothesis.opens (Opens.enter fresh)
      | withExecutionState active fresh =>
          exact inductionHypothesis.opens
            (Opens.withExecutionState active fresh)

theorem Nest.leave (nest : Nest machine) : Nest machine.leave := by
  cases nest with
  | start => exact .start
  | opens before opens =>
      rw [leave_of_opens before opens]
      exact before

/-- Every reachable thread is a nest of live frames. -/
theorem nest_of_reachable (reached : Reachable machine) : Nest machine := by
  obtain ⟨panicked, steps⟩ := reached
  induction steps with
  | refl => exact .start
  | tail earlier step inductionHypothesis =>
      cases step with
      | opens opens => exact inductionHypothesis.opens opens
      | leave => exact inductionHypothesis.leave
      | panic panicked => exact inductionHypothesis.panic panicked

theorem leave_panic (machine : Machine) (panicked : Artifact → Bool) :
    { machine with panicked := panicked }.leave =
      { machine.leave with panicked := panicked } := by
  obtain ⟨records, states, active, execution, frames, before⟩ := machine
  rcases frames with _ | ⟨_ | _, frames⟩ <;> rfl

/-- A run that ends its frames leaves everything as it was. -/
theorem eq_of_balanced {after : Machine} (nest : Nest machine)
    (balanced : Balanced machine after) :
    after = { machine with panicked := after.panicked } := by
  induction balanced with
  | refl => rfl
  | panic before panicked inductionHypothesis =>
      have same := inductionHypothesis nest
      rw [same]
  | @frame machine after opened last before opens inside
      beforeHypothesis insideHypothesis =>
      have same := beforeHypothesis nest
      have nestAfter : Nest after := by
        rw [same]
        exact nest.panic _
      have inner := insideHypothesis (nestAfter.opens opens)
      rw [inner, leave_panic, leave_of_opens nestAfter opens, same]

/-- The chain of the active state is the live frames. -/
theorem linked_of_nest (nest : Nest machine) :
    Linked machine.records machine.activePanic machine.live := by
  induction nest with
  | start => exact .nil
  | @opens machine next before opens inductionHypothesis =>
      cases opens with
      | @enter state fresh =>
          have same : (machine.enter state).activePanic =
              machine.activePanic := by
            simp [Machine.activePanic, Machine.enter, Machine.panic]
          rw [same]
          exact inductionHypothesis
      | @withExecutionState artifact record state active fresh =>
          have before : machine.activePanic = machine.panic state := by
            rw [Machine.activePanic, active, Option.bind_some]
          have after : (machine.withExecutionState artifact record
              state).activePanic = some record := by
            simp [Machine.activePanic, Machine.withExecutionState,
              Machine.panic, active]
          rw [after]
          rw [before] at inductionHypothesis
          exact inductionHypothesis.push fresh artifact

/-- The code that runs finds the active state. -/
theorem executionState_of_runs (nest : Nest machine) {artifact : Artifact}
    (runs : machine.Runs artifact) :
    machine.executionState artifact = machine.active := by
  cases nest with
  | start => cases artifact <;> rfl
  | opens before opens =>
      cases opens with
      | enter fresh =>
          obtain rfl := runs
          rfl
      | withExecutionState active fresh =>
          cases artifact with
          | host => rfl
          | guest guest =>
              rcases runs with same | same
              · rw [← same]
                exact (Function.update_self _ _ _).trans active.symm
              · cases same

theorem panicking_of_nest (nest : Nest machine) {artifact : Artifact}
    (runs : machine.Runs artifact) {fuel : Nat}
    (enough : machine.frames.length ≤ fuel) :
    machine.panicking fuel artifact =
      some (machine.panicked artifact ||
        machine.live.any fun frame => machine.panicked frame.2) := by
  have linked := linked_of_nest nest
  have short : machine.live.length ≤ fuel :=
    Nat.le_trans (List.length_filterMap_le _ _) enough
  have walk := linked.anyFrom_eq machine.panicked short
  rw [Machine.panicking, executionState_of_runs nest runs]
  cases active : machine.active with
  | none =>
      rw [Machine.activePanic, active] at linked
      rw [linked.eq_nil, List.any_nil, Bool.or_false]
  | some state =>
      rw [Machine.activePanic, active, Option.bind_some] at walk
      simp only [Machine.isPanicking, walk]
      cases machine.panicked artifact <;> rfl

/-- The chain of the active state is the list of the live frames, every frame
that ends has left the thread as it found it, and the code that runs sees
whether it or an artifact with a live frame is panicking. -/
structure Exact (machine : Machine) : Prop where
  linked : Linked machine.records machine.activePanic machine.live
  restores : ∀ after, Balanced machine after →
    after = { machine with panicked := after.panicked }
  panicking : ∀ artifact, machine.Runs artifact →
    ∀ fuel, machine.frames.length ≤ fuel →
      machine.panicking fuel artifact =
        some (machine.panicked artifact ||
          machine.live.any fun frame => machine.panicked frame.2)

theorem panicChain_isExact {machine : Machine}
    (reached : Reachable machine) : Exact machine where
  linked := linked_of_nest (nest_of_reachable reached)
  restores := fun _ => eq_of_balanced (nest_of_reachable reached)
  panicking := fun _ runs _ =>
    panicking_of_nest (nest_of_reachable reached) runs

/-- A guest that the host has entered calls the host, which enters another
guest in a state of its own. -/
theorem panicChain_isExact_of_task :
    ∃ machine, machine.live = [(3, .guest 2), (2, .host), (1, .guest 1),
      (0, .host)] ∧ Exact machine := by
  have start : Reachable (.start fun _ => false) := ⟨_, .refl⟩
  have entered := start.opens (@Opens.enter _ 10 rfl)
  have host := entered.opens
    (@Opens.withExecutionState _ .host 0 10 rfl rfl)
  have guest := host.opens
    (@Opens.withExecutionState _ (.guest 1) 1 10 rfl rfl)
  have task := guest.opens (@Opens.enter _ 11 rfl)
  have inner := task.opens
    (@Opens.withExecutionState _ .host 2 11 rfl rfl)
  have other := inner.opens
    (@Opens.withExecutionState _ (.guest 2) 3 11 rfl rfl)
  exact ⟨_, rfl, panicChain_isExact other⟩

end Telekio.Panics
