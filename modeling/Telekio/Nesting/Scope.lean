import Mathlib.Logic.Relation

/-!
# A thread-local cell under nested guards

A guard stores a new value into a cell of its thread and puts back what it
found there when it is dropped. Guards are dropped in the reverse order of
their making, whether their calls return or unwind.
-/

namespace Telekio.Nesting

universe u v

variable {α : Type u} {Frame : Type v}

/-- A guard of the call `frame`, with the value it will put back. -/
structure Guard (α : Type u) (Frame : Type v) where
  frame : Frame
  previous : α
deriving DecidableEq, Repr

/-- The cell and the guards alive on its thread, innermost first. -/
structure Scope (α : Type u) (Frame : Type v) where
  cell : α
  guards : List (Guard α Frame)
deriving DecidableEq, Repr

namespace Scope

/-- A thread without guards. -/
def bare (base : α) : Scope α Frame :=
  ⟨base, []⟩

def enter (value : α) (frame : Frame) (scope : Scope α Frame) :
    Scope α Frame :=
  ⟨value, ⟨frame, scope.cell⟩ :: scope.guards⟩

/-- The innermost guard is dropped. -/
def leave (scope : Scope α Frame) : Scope α Frame :=
  match scope.guards with
  | [] => scope
  | guard :: guards => ⟨guard.previous, guards⟩

/-- The calls that the thread is inside of, innermost first. -/
def frames (scope : Scope α Frame) : List Frame :=
  scope.guards.map Guard.frame

end Scope

variable (value : Frame → α)

/-- One guard is made, with the value its call stores, or dropped. -/
inductive Step : Scope α Frame → Scope α Frame → Prop
  | enter {scope : Scope α Frame} (frame : Frame) :
      Step scope (scope.enter (value frame) frame)
  | leave {scope : Scope α Frame} : Step scope scope.leave

/-- A well-nested run of the thread. -/
def Runs : Scope α Frame → Scope α Frame → Prop :=
  Relation.ReflTransGen (Step value)

/-- The value that the innermost call stored. -/
def innermost (base : α) (frames : List Frame) : α :=
  (frames.head?.map value).getD base

/-- Every guard saved the value of the next outer call. -/
def Saved (base : α) : List (Guard α Frame) → Prop
  | [] => True
  | guard :: guards =>
      guard.previous = innermost value base (guards.map Guard.frame) ∧
        Saved base guards

variable {value}

/-- The cell shows the innermost call, and so it will after any number of
returns. -/
def Restoring (value : Frame → α) (base : α) (scope : Scope α Frame) :
    Prop :=
  scope.cell = innermost value base scope.frames ∧
    Saved value base scope.guards

theorem restoring_bare (base : α) :
    Restoring value base (Scope.bare base) :=
  ⟨rfl, trivial⟩

theorem restoring_step {base : α} {before after : Scope α Frame}
    (step : Step value before after)
    (restoring : Restoring value base before) :
    Restoring value base after := by
  obtain ⟨shown, saved⟩ := restoring
  cases step with
  | enter frame => exact ⟨rfl, shown, saved⟩
  | leave =>
      obtain ⟨cell, guards⟩ := before
      cases guards with
      | nil => exact ⟨shown, saved⟩
      | cons guard guards => exact ⟨saved.1, saved.2⟩

/-- After any well-nested run the cell shows the innermost call. -/
theorem restoring_of_runs {base : α} {scope : Scope α Frame}
    (runs : Runs value (Scope.bare base) scope) :
    Restoring value base scope := by
  induction runs with
  | refl => exact restoring_bare base
  | tail earlier step inductionHypothesis =>
      exact restoring_step step inductionHypothesis

theorem cell_of_runs {base : α} {scope : Scope α Frame}
    (runs : Runs value (Scope.bare base) scope) :
    scope.cell = innermost value base scope.frames :=
  (restoring_of_runs runs).1

end Telekio.Nesting
