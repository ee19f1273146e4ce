/-!
# The lifecycle of a wake source

`WakeLifecycle` of the host's I/O driver counts the wakes inside their
`WakeGuard`. Each function is one critical section of its mutex.
-/

namespace Telekio.Driver

structure WakeLifecycle where
  active : Nat
  closing : Bool
deriving DecidableEq, Repr

namespace WakeLifecycle

/-- `WakeLifecycle::default()`. -/
def default : WakeLifecycle :=
  ⟨0, false⟩

variable (lifecycle : WakeLifecycle)

/-- The second component tells whether a `WakeGuard` was made. -/
def enter : WakeLifecycle × Bool :=
  if lifecycle.closing then
    (lifecycle, false)
  else
    ({ lifecycle with active := lifecycle.active + 1 }, true)

/-- The drop of a `WakeGuard`. -/
def leave : WakeLifecycle :=
  { lifecycle with active := lifecycle.active - 1 }

def beginClose : WakeLifecycle :=
  { lifecycle with closing := true }

/-- The test that `wait_closed` repeats until it succeeds. -/
def waitClosed : Bool :=
  lifecycle.active = 0

/-- Closed for new wakes, and the last wake has left. -/
def Drained : Prop :=
  lifecycle.closing = true ∧ lifecycle.active = 0

variable {lifecycle}

theorem enter_eq_true :
    lifecycle.enter.2 = true ↔ lifecycle.closing = false := by
  cases closing : lifecycle.closing <;> simp [enter, closing]

theorem active_enter (entered : lifecycle.enter.2 = true) :
    lifecycle.enter.1.active = lifecycle.active + 1 := by
  simp [enter, enter_eq_true.mp entered]

theorem enter_of_refused (refused : lifecycle.enter.2 = false) :
    lifecycle.enter.1 = lifecycle := by
  cases closing : lifecycle.closing <;> simp_all [enter]

@[simp]
theorem closing_enter :
    lifecycle.enter.1.closing = lifecycle.closing := by
  cases closing : lifecycle.closing <;> simp [enter, closing]

theorem drained_enter (drained : lifecycle.Drained) :
    lifecycle.enter.1.Drained := by
  simpa [enter, drained.1] using drained

theorem drained_leave (drained : lifecycle.Drained) :
    lifecycle.leave.Drained := by
  simpa [leave, Drained, drained.2] using drained.1

theorem drained_beginClose (drained : lifecycle.Drained) :
    lifecycle.beginClose.Drained :=
  ⟨rfl, drained.2⟩

end WakeLifecycle

end Telekio.Driver
