/-!
# The task budget across `block_in_place`

`stop`, `restore` and `block_on` of `guest/runtime/context.rs` and
`exit_runtime` of `guest/runtime/context/runtime_mt.rs`, on one thread of a
guest that has no multi-thread scheduler context, with the host's
`block_in_place` and the functions of `task::coop` that they run between.
-/

namespace Telekio.Blocking

/-- `coop::Budget`; without a number it is unconstrained. -/
abbrev Budget := Option Nat

inductive EnterRuntime where
  | entered (allowBlockInPlace : Bool)
  | notEntered
deriving DecidableEq, Repr

/-- The execution state of the thread, and `BLOCKING_BUDGET`. -/
structure Context where
  budget : Budget
  runtime : EnterRuntime
  blockingBudget : Option Budget
deriving DecidableEq, Repr

namespace Context

variable (context : Context)

/-- `stop`; it returns the budget that it finds. -/
def stop : Context × Budget :=
  ({ context with
      budget := none
      blockingBudget := some context.budget }, context.budget)

def restore : Context :=
  match context.blockingBudget with
  | some budget =>
      { context with
        budget := budget
        blockingBudget := none }
  | none => context

end Context

inductive Outcome where
  | returned
  | panicked
deriving DecidableEq, Repr

/-- What the host makes of a `block_in_place`: it refuses it, for instance
because the owner is shutting down, or runs it, with a scheduler context of
its own on a worker thread. -/
inductive HostCall where
  | refused
  | runs (worker : Bool)
deriving DecidableEq, Repr

/-- What a thread runs, as far as budgets and runtimes are concerned.
`withBudget` is `coop::budget` or `coop::with_unconstrained`; `proceed` is
`poll_proceed` around a leaf that makes progress or not. -/
inductive Code where
  | skip
  | panic
  | seq (first second : Code)
  | catchUnwind (body : Code)
  | withBudget (budget : Budget) (body : Code)
  | proceed (progress : Bool) (body : Code)
  | blockOn (allowBlockInPlace : Bool) (body : Code)
  | blockInPlace (host : HostCall) (body : Code)

/-- The host's `block_in_place`, whose `Reset` guard restores the budget
where the host has a scheduler context. -/
def hostBlockInPlace (body : Context → Context × Outcome)
    (context : Context) : HostCall → Context × Outcome
  | .refused => (context, .panicked)
  | .runs worker =>
      let (after, outcome) :=
        body { context with budget := none, runtime := .notEntered }
      ({ after with
          budget := if worker then context.budget else after.budget
          runtime := context.runtime }, outcome)

def exitRuntime (body : Context → Context × Outcome)
    (context : Context) (host : HostCall) : Context × Outcome :=
  let (after, outcome) := hostBlockInPlace body context host
  (after.restore, outcome)

def run : Code → Context → Context × Outcome
  | .skip, context => (context, .returned)
  | .panic, context => (context, .panicked)
  | .seq first second, context =>
      match run first context with
      | (after, .returned) => run second after
      | (after, .panicked) => (after, .panicked)
  | .catchUnwind body, context => ((run body context).1, .returned)
  | .withBudget budget body, context =>
      let (after, outcome) := run body { context with budget := budget }
      ({ after with budget := context.budget }, outcome)
  | .proceed progress body, context =>
      match context.budget with
      | none => run body context
      -- the leaf yields instead
      | some 0 => (context, .returned)
      | some (left + 1) =>
          let (after, outcome) := run body { context with budget := some left }
          (if progress then after else { after with budget := context.budget },
            outcome)
  | .blockOn allowBlockInPlace body, context =>
      match context.runtime with
      -- "Cannot start a runtime from within a runtime"
      | .entered _ => (context, .panicked)
      | .notEntered =>
          let (after, outcome) :=
            run body { context with runtime := .entered allowBlockInPlace }
          ({ after with runtime := .notEntered }, outcome)
  | .blockInPlace host body, context =>
      match context.runtime with
      | .entered true => exitRuntime (run body) context.stop.1 host
      | .entered false => (context, .panicked)
      | .notEntered => run body context

/-- Whether running the code calls `stop`. -/
def stops : Code → Context → Bool
  | .skip, _ | .panic, _ => false
  | .seq first second, context =>
      stops first context ||
        match run first context with
        | (after, .returned) => stops second after
        | (_, .panicked) => false
  | .catchUnwind body, context => stops body context
  | .withBudget budget body, context =>
      stops body { context with budget := budget }
  | .proceed _ body, context =>
      match context.budget with
      | none => stops body context
      | some 0 => false
      | some (left + 1) => stops body { context with budget := some left }
  | .blockOn allowBlockInPlace body, context =>
      match context.runtime with
      | .entered _ => false
      | .notEntered =>
          stops body { context with runtime := .entered allowBlockInPlace }
  | .blockInPlace _ body, context =>
      match context.runtime with
      | .entered allowBlockInPlace => allowBlockInPlace
      | .notEntered => stops body context

/-- Where the body of a `block_in_place` starts that has called `stop`. -/
def Context.blocking (context : Context) : Context :=
  { context.stop.1 with runtime := .notEntered }

@[simp]
theorem Context.restore_blockingBudget (context : Context) :
    context.restore.blockingBudget = none := by
  unfold restore
  split
  · rfl
  · assumption

theorem Context.restore_budget (context : Context) :
    context.restore.budget =
      context.blockingBudget.getD context.budget := by
  unfold restore
  split <;> simp_all

/-- Every call of `stop` is followed by a `restore` that empties the
cell. -/
theorem run_blockingBudget (code : Code) (context : Context) :
    (run code context).1.blockingBudget =
      if stops code context then none else context.blockingBudget := by
  induction code generalizing context with
  | skip => rfl
  | panic => rfl
  | seq first second firstHypothesis secondHypothesis =>
      have before := firstHypothesis context
      rcases ran : run first context with ⟨after, outcome⟩
      rw [ran] at before
      cases outcome with
      | panicked => simpa [run, stops, ran] using before
      | returned =>
          change after.blockingBudget = _ at before
          simp only [run, stops, ran, secondHypothesis, before]
          cases stops first context <;> simp
  | catchUnwind body inductionHypothesis => exact inductionHypothesis context
  | withBudget budget body inductionHypothesis =>
      exact inductionHypothesis { context with budget := budget }
  | proceed progress body inductionHypothesis =>
      rcases budget : context.budget with _ | _ | left
      · simp only [run, stops, budget]
        exact inductionHypothesis context
      · simp [run, stops, budget]
      · simp only [run, stops, budget]
        cases progress <;>
          exact inductionHypothesis { context with budget := some left }
  | blockOn allowBlockInPlace body inductionHypothesis =>
      cases runtime : context.runtime with
      | entered allowed => simp [run, stops, runtime]
      | notEntered =>
          simp only [run, stops, runtime]
          exact inductionHypothesis
            { context with runtime := .entered allowBlockInPlace }
  | blockInPlace host body inductionHypothesis =>
      rcases runtime : context.runtime with (_ | _) | _
      · simp [run, stops, runtime]
      · simp [run, stops, runtime, exitRuntime]
      · simp only [run, stops, runtime]
        exact inductionHypothesis context

/-- After a nested `stop` nothing is left to restore. -/
theorem exitRuntime_budget (body : Code) (context : Context)
    (worker : Bool)
    (unconstrained : (run body context.blocking).1.budget = none) :
    (exitRuntime (run body) context.stop.1 (.runs worker)).1.budget =
      if stops body context.blocking then none else context.budget := by
  have emptied := run_blockingBudget body context.blocking
  have started : { context.stop.1 with
      budget := none, runtime := .notEntered } = context.blocking := rfl
  simp only [exitRuntime, hostBlockInPlace, started,
    Context.restore_budget, emptied]
  cases stops body context.blocking with
  | false => rfl
  | true =>
      cases worker with
      | false => exact unconstrained
      | true => rfl

/-- Unconstrained code stays so. -/
theorem run_budget_of_unconstrained (code : Code) (context : Context)
    (unconstrained : context.budget = none) :
    (run code context).1.budget = none := by
  induction code generalizing context with
  | skip => exact unconstrained
  | panic => exact unconstrained
  | seq first second firstHypothesis secondHypothesis =>
      have before := firstHypothesis context unconstrained
      rcases ran : run first context with ⟨after, outcome⟩
      rw [ran] at before
      cases outcome with
      | panicked => simpa [run, ran] using before
      | returned =>
          simp only [run, ran]
          exact secondHypothesis after before
  | catchUnwind body inductionHypothesis =>
      exact inductionHypothesis context unconstrained
  | withBudget budget body inductionHypothesis => exact unconstrained
  | proceed progress body inductionHypothesis =>
      simp only [run, unconstrained]
      exact inductionHypothesis context unconstrained
  | blockOn allowBlockInPlace body inductionHypothesis =>
      simp only [run]
      split
      · exact unconstrained
      · exact inductionHypothesis _ unconstrained
  | blockInPlace host body inductionHypothesis =>
      simp only [run]
      split
      · cases host with
        | refused => exact unconstrained
        | runs worker =>
            rw [exitRuntime_budget body context worker
              (inductionHypothesis context.blocking rfl)]
            split
            · rfl
            · exact unconstrained
      · exact unconstrained
      · exact inductionHypothesis context unconstrained

/-- The budget after a `block_in_place` is the one that its own `stop` has
found. -/
def Restores (host : HostCall) (body : Code) (context : Context) : Prop :=
  (run (.blockInPlace host body) context).1.budget = context.stop.2

/-- The body is not run, or it calls no `stop` of its own, or there is no
budget to restore. -/
def Unnested (host : HostCall) (body : Code) (context : Context) : Prop :=
  context.budget = none ∨ host = .refused ∨
    stops body context.blocking = false

/-- A `block_in_place` that exits the runtime restores its budget if and only
if no other one does so inside. -/
theorem blockInPlace_restores_iff (host : HostCall) (body : Code)
    (context : Context) (entered : context.runtime = .entered true) :
    Restores host body context ↔ Unnested host body context := by
  have exits : run (.blockInPlace host body) context =
      exitRuntime (run body) context.stop.1 host := by
    simp only [run, entered]
  rw [Restores, Unnested, exits]
  cases host with
  | refused => exact iff_of_true rfl (Or.inr (Or.inl rfl))
  | runs worker =>
      rw [exitRuntime_budget body context worker
        (run_budget_of_unconstrained body context.blocking rfl)]
      cases stops body context.blocking with
      | false => simp [Context.stop]
      | true => simp [Context.stop, eq_comm]

/-- A task with a budget of `127` left, in a multi-thread runtime. -/
def task : Context where
  budget := some 127
  runtime := .entered true
  blockingBudget := none

theorem blockInPlace_restores_of_blockOn :
    Restores (.runs false) (.blockOn true (.withBudget (some 128) .skip))
      task :=
  (blockInPlace_restores_iff _ _ task rfl).mpr (Or.inr (Or.inr rfl))

/-- A future that the task blocks on blocks in place itself. -/
theorem not_forall_restores :
    ¬ ∀ host body context, context.runtime = .entered true →
      Restores host body context := by
  intro restores
  have restored := restores (.runs false)
    (.blockOn true (.withBudget (some 128)
      (.blockInPlace (.runs false) .skip))) task rfl
  cases restored

end Telekio.Blocking
