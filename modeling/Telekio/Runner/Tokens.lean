import Telekio.Runner.System

/-!
# The run token of a guest task

At most one `Notified` of the task exists at a time, and after the release
hook neither the slot nor the stored waker holds anything.
-/

namespace Telekio.Runner

open Telekio.Interleave

variable {shared : Shared} {current next : Thread} {op : Op}

/-- The `Notified` in the hands of a call of `schedule`. -/
def Scheduling.holds : Scheduling → Nat
  | .called | .locking _ | .checked _ => 1
  | _ => 0

/-- A poll has one before and while it runs the task. -/
def PollStage.holds : PollStage → Nat
  | .defer | .run | .running | .completing .bit => 1
  | .yielding call | .aborting call => call.holds
  | _ => 0

def Host.holds : Host → Nat
  | .binding => 1
  | .polling _ _ stage => stage.holds
  | _ => 0

def Thread.holds : Thread → Nat
  | .waking _ (.scheduling call) => call.holds
  | _ => 0

/-- What the slot and the host have. -/
def Shared.rests (shared : Shared) : Nat :=
  shared.runnable.toNat + shared.host.holds

/-- The host is inside `run_host`, with the task not complete. -/
def Host.runs : Host → Bool
  | .polling _ _ .running | .polling _ _ (.completing .bit) => true
  | _ => false

/-- At most one `Notified` exists; while it is not being run, NOTIFIED is
set. -/
structure Shared.Bounded (shared : Shared) : Prop where
  single : shared.tokens ≤ 1
  notified : shared.tokens = 0 ∨ shared.state.notified = true ∨
    shared.host.runs = true
  running : shared.host.runs = true → shared.state.running = true

attribute [grind] Host.runs Host.holds PollStage.holds Scheduling.holds
  Thread.holds Shared.rests Option.elim

/-- No effect moves the host by itself. -/
theorem host_apply (effect : Effect) (shared : Shared) :
    (effect.apply shared).host = shared.host := by
  cases effect <;> grind -ring -linarith

variable {tracing : Bool} {waker : WakerRef} {effect : Effect}

theorem bounded_of_scheduling {call after : Scheduling}
    (acts : Scheduling.Acts shared tracing call effect after)
    (bounded : shared.Bounded) : (effect.apply shared).Bounded := by
  obtain ⟨single, notified, running⟩ := bounded
  cases acts <;> constructor <;> grind -ring -linarith

/-- The host goes from a stage outside `run_host` to another one. -/
theorem bounded_of_host_put {next : Host} (bounded : shared.Bounded)
    (outside : shared.host.runs = false) (stays : next.runs = false) :
    Shared.Bounded { shared with host := next } := by
  obtain ⟨single, notified, running⟩ := bounded
  constructor <;> grind -ring -linarith

/-- The task, its `Notified` and `run_host` are left alone. -/
theorem bounded_of_kept {after : Shared} (bounded : shared.Bounded)
    (state : after.state = shared.state)
    (tokens : after.tokens = shared.tokens)
    (runs : after.host.runs = shared.host.runs) : after.Bounded where
  single := tokens.symm ▸ bounded.single
  notified := by
    rw [tokens, state, runs]
    exact bounded.notified
  running := by
    rw [state, runs]
    exact bounded.running

/-- The `Notified` is dropped. -/
theorem bounded_of_discard {after : Shared} (bounded : shared.Bounded)
    (tokens : after.tokens = shared.tokens - 1)
    (outside : after.host.runs = false) : after.Bounded := by
  have single := bounded.single
  have dropped : after.tokens = 0 := by omega
  refine ⟨by omega, Or.inl dropped, ?_⟩
  rw [outside]
  exact nofun

theorem bounded_of_poll {stage after : PollStage}
    (acts : PollStage.Acts shared waker tracing stage effect after)
    (same : shared.host = .polling waker tracing stage)
    (bounded : shared.Bounded) :
    (Op.apply ⟨effect, some (.polling waker tracing after)⟩
      shared).Bounded := by
  cases acts with
  | yield acts =>
      refine bounded_of_host_put (bounded_of_scheduling acts bounded) ?_ rfl
      rw [host_apply, same]
      rfl
  | aborting acts =>
      refine bounded_of_host_put (bounded_of_scheduling acts bounded) ?_ rfl
      rw [host_apply, same]
      rfl
  | completing acts =>
      obtain ⟨single, notified, running⟩ := bounded
      cases acts <;> simp only [Option.elim_some, Option.elim_none] <;>
        constructor <;> grind -ring -linarith
  | incomplete | take | takeNone | takeTraced | orNotify | defer | yielded
  | ready | stillIncomplete | store | recheck =>
      refine bounded_of_kept bounded rfl rfl ?_
      rw [same]
      rfl
  | deferPanics | runPanics | runningPanics =>
      exact bounded_of_discard bounded rfl rfl
  | _ =>
      obtain ⟨single, notified, running⟩ := bounded
      constructor <;> grind -ring -linarith

theorem bounded_of_shutdown {call after : ShuttingDown} {next : Host}
    (acts : ShuttingDown.Acts shared call effect after)
    (outside : shared.host.runs = false) (stays : next.runs = false)
    (bounded : shared.Bounded) :
    (Op.apply ⟨effect, some next⟩ shared).Bounded := by
  obtain ⟨single, notified, running⟩ := bounded
  cases acts with
  | completing acts => cases acts <;> constructor <;> grind -ring -linarith
  | _ => constructor <;> grind -ring -linarith

theorem bounded_of_host {host next : Host}
    (acts : Host.Acts shared host effect next)
    (same : shared.host = host) (bounded : shared.Bounded) :
    (Op.apply ⟨effect, some next⟩ shared).Bounded := by
  cases acts with
  | polling acts => exact bounded_of_poll acts same bounded
  | cancelling acts | shuttingDown acts =>
      exact bounded_of_shutdown acts (by rw [same]; rfl) rfl bounded
  | @recheckWake waker tracing =>
      refine bounded_of_kept bounded ?_ ?_ (by rw [same]; rfl) <;>
        cases tracing <;> rfl
  | abortedAlready =>
      obtain ⟨single, notified, running⟩ := bounded
      constructor <;> grind -ring -linarith
  | _ => exact bounded_of_kept bounded rfl rfl (by rw [same]; rfl)

theorem bounded_of_waking {call after : Waking}
    (acts : Waking.Acts shared tracing call effect after)
    (bounded : shared.Bounded) : (effect.apply shared).Bounded := by
  cases acts with
  | schedule acts => exact bounded_of_scheduling acts bounded
  | _ =>
      obtain ⟨single, notified, running⟩ := bounded
      constructor <;> grind -ring -linarith

theorem bounded_of_acts (acts : Thread.Acts shared current op next)
    (bounded : shared.Bounded) : (op.apply shared).Bounded := by
  cases acts with
  | host acts => exact bounded_of_host acts rfl bounded
  | waking acts => exact bounded_of_waking acts bounded

theorem bounded_of_reachable {world : World}
    (reached : program.Reachable world) : world.shared.Bounded := by
  refine Program.shared_invariant Shared.Bounded ?_ ?_ reached
  · rintro shared rfl
    exact ⟨Nat.le_refl 1, Or.inr (Or.inl rfl), nofun⟩
  · intro world thread current op next _ _ acts bounded
    exact bounded_of_acts acts bounded

/-- A step of `schedule` passes its `Notified` on, or drops it. -/
theorem tokens_of_scheduling {call after : Scheduling}
    (acts : Scheduling.Acts shared tracing call effect after)
    (counted : shared.runnable.toNat + call.holds ≤ shared.tokens) :
    (effect.apply shared).tokens +
        (shared.runnable.toNat + call.holds) =
      shared.tokens +
        ((effect.apply shared).runnable.toNat + after.holds) := by
  cases acts <;> grind -ring -linarith

theorem tokens_of_poll {stage after : PollStage}
    (acts : PollStage.Acts shared waker tracing stage effect after)
    (counted : shared.runnable.toNat + stage.holds ≤ shared.tokens) :
    (effect.apply shared).tokens +
        (shared.runnable.toNat + stage.holds) =
      shared.tokens +
        ((effect.apply shared).runnable.toNat + after.holds) := by
  cases acts with
  | yield acts => exact tokens_of_scheduling acts counted
  | aborting acts => exact tokens_of_scheduling acts counted
  | completing acts => cases acts <;> grind -ring -linarith
  | _ => grind -ring -linarith

theorem tokens_of_shutdown {call after : ShuttingDown}
    (acts : ShuttingDown.Acts shared call effect after)
    (counted : shared.runnable.toNat ≤ shared.tokens) :
    (effect.apply shared).tokens + shared.runnable.toNat =
      shared.tokens + (effect.apply shared).runnable.toNat := by
  cases acts with
  | completing acts => cases acts <;> grind -ring -linarith
  | _ => grind -ring -linarith

/-- Every `Notified` is in the slot or in the hands of a call. -/
theorem balancing :
    program.Balancing Shared.tokens Shared.rests Thread.holds where
  initially := by
    rintro shared rfl
    rfl
  starts := by
    intro first starts
    cases starts <;> rfl
  moves := by
    intro world thread current op next reached running acts counted
    have bounded := bounded_of_reachable reached
    change (op.apply world.shared).tokens + _ =
      _ + ((op.apply world.shared).rests + _)
    cases acts with
    | host acts =>
        generalize same : world.shared.host = host at acts
        simp only [Shared.rests, same, Thread.holds, Nat.add_zero,
          Op.apply] at counted ⊢
        cases acts with
        | polling acts => exact tokens_of_poll acts counted
        | cancelling acts => exact tokens_of_shutdown acts counted
        | shuttingDown acts => exact tokens_of_shutdown acts counted
        | _ => grind -ring -linarith [Shared.Bounded]
    | waking acts =>
        simp only [Shared.rests, Op.apply, host_apply] at counted ⊢
        cases acts with
        | schedule acts =>
            have passed := tokens_of_scheduling acts
              (by simp only [Thread.holds] at counted; omega)
            simp only [Thread.holds]
            omega
        | _ => grind -ring -linarith

theorem twice_of_scheduling {call after : Scheduling}
    (acts : Scheduling.Acts shared tracing call effect after)
    (single : shared.runnable.toNat + call.holds ≤ 1)
    (once : shared.twice = false) :
    (effect.apply shared).twice = false := by
  cases acts <;> grind -ring -linarith

theorem twice_of_poll {stage after : PollStage}
    (acts : PollStage.Acts shared waker tracing stage effect after)
    (single : shared.runnable.toNat + stage.holds ≤ 1)
    (once : shared.twice = false) :
    (effect.apply shared).twice = false := by
  cases acts with
  | yield acts => exact twice_of_scheduling acts single once
  | aborting acts => exact twice_of_scheduling acts single once
  | completing acts => cases acts <;> grind -ring -linarith
  | _ => grind -ring -linarith

theorem twice_of_shutdown {call after : ShuttingDown}
    (acts : ShuttingDown.Acts shared call effect after)
    (once : shared.twice = false) :
    (effect.apply shared).twice = false := by
  cases acts with
  | completing acts => cases acts <;> grind -ring -linarith
  | _ => grind -ring -linarith

/-- No call of `schedule` finds the slot full. -/
theorem not_twice_of_reachable {world : World}
    (reached : program.Reachable world) :
    world.shared.twice = false := by
  refine Program.shared_invariant (fun shared => shared.twice = false)
    ?_ ?_ reached
  · rintro shared rfl
    rfl
  · intro world thread current op next reached running acts once
    have counted :=
      Program.le_of_balanced (balancing.balanced reached) running
    have single := (bounded_of_reachable reached).single
    change (op.apply world.shared).twice = false
    cases acts with
    | host acts =>
        generalize same : world.shared.host = host at acts
        simp only [Shared.rests, same, Thread.holds] at counted
        cases acts with
        | polling acts =>
            exact twice_of_poll acts (Nat.le_trans counted single) once
        | cancelling acts => exact twice_of_shutdown acts once
        | shuttingDown acts => exact twice_of_shutdown acts once
        | _ => grind -ring -linarith
    | waking acts =>
        cases acts with
        | schedule acts =>
            refine twice_of_scheduling acts ?_ once
            simp only [Shared.rests, Thread.holds] at counted
            omega
        | _ => grind -ring -linarith

end Telekio.Runner
