import Mathlib.Data.Set.Insert
import Mathlib.Data.List.Count

/-!
# Rundown protection

What may be used by many until someone wants it gone: users acquire it and
release it, a close turns new users away, and the one who closed waits until
the users that are left have released it. The state is what is held; the
theorems are about histories of events.
-/

namespace Telekio.Rundown

variable {Key : Type}

inductive Event (Key : Type) where
  | acquire (key : Key)
  | refuse
  | release (key : Key)
  | close
  | drained
deriving DecidableEq, Repr

structure State (Key : Type) where
  accepting : Bool
  held : Set Key

namespace State

def start : State Key :=
  ⟨true, ∅⟩

end State

/-- A key is held once at a time, and the wait ends when nothing is held. -/
inductive Step : State Key → Event Key → State Key → Prop
  | acquire {held : Set Key} {key : Key} (absent : key ∉ held) :
      Step ⟨true, held⟩ (.acquire key) ⟨true, insert key held⟩
  | refuse {held : Set Key} : Step ⟨false, held⟩ .refuse ⟨false, held⟩
  | release {accepting : Bool} {held : Set Key} {key : Key}
      (present : key ∈ held) :
      Step ⟨accepting, held⟩ (.release key) ⟨accepting, held \ {key}⟩
  | close {accepting : Bool} {held : Set Key} :
      Step ⟨accepting, held⟩ .close ⟨false, held⟩
  | drained : Step ⟨false, ∅⟩ .drained ⟨false, ∅⟩

/-- The history between two states. -/
inductive Runs : State Key → List (Event Key) → State Key → Prop
  | nil (state : State Key) : Runs state [] state
  | cons {first state last : State Key} {event : Event Key}
      {events : List (Event Key)} (step : Step first event state)
      (rest : Runs state events last) :
      Runs first (event :: events) last

namespace Runs

variable {first last : State Key} {events before after : List (Event Key)}

theorem cons_iff {event : Event Key} :
    Runs first (event :: events) last ↔
      ∃ state, Step first event state ∧ Runs state events last := by
  constructor
  · intro runs
    cases runs with
    | cons step rest => exact ⟨_, step, rest⟩
  · rintro ⟨state, step, rest⟩
    exact .cons step rest

/-- A history can be cut anywhere. -/
theorem append_iff :
    Runs first (before ++ after) last ↔
      ∃ state, Runs first before state ∧ Runs state after last := by
  induction before generalizing first with
  | nil =>
      constructor
      · intro runs
        exact ⟨first, .nil first, runs⟩
      · rintro ⟨state, start, rest⟩
        cases start
        exact rest
  | cons event events inductionHypothesis =>
      rw [List.cons_append, cons_iff]
      constructor
      · rintro ⟨next, step, rest⟩
        obtain ⟨state, earlier, later⟩ := inductionHypothesis.mp rest
        exact ⟨state, .cons step earlier, later⟩
      · rintro ⟨state, start, later⟩
        obtain ⟨next, step, earlier⟩ := cons_iff.mp start
        exact ⟨next, step, inductionHypothesis.mpr ⟨state, earlier, later⟩⟩

theorem snoc {state : State Key} {event : Event Key}
    (runs : Runs first events state) (step : Step state event last) :
    Runs first (events ++ [event]) last :=
  append_iff.mpr ⟨state, runs, .cons step (.nil last)⟩

/-- After a close nothing is acquired. -/
theorem refuses (runs : Runs first events last)
    (closed : first.accepting = false) :
    last.accepting = false ∧ ∀ key, Event.acquire key ∉ events := by
  induction runs with
  | nil state => exact ⟨closed, by simp⟩
  | cons step rest inductionHypothesis =>
      cases step <;> simp_all

/-- Only a close ends the admission. -/
theorem close_mem (runs : Runs first events last)
    (opened : first.accepting = true)
    (closed : last.accepting = false) : Event.close ∈ events := by
  induction runs with
  | nil state => simp_all
  | cons step rest inductionHypothesis =>
      cases step <;> simp_all

/-- A close is kept for good. -/
theorem acquire_before_close
    (runs : Runs first (before ++ .close :: after) last) :
    last.accepting = false ∧ ∀ key, Event.acquire key ∉ after := by
  obtain ⟨state, earlier, rest⟩ := append_iff.mp runs
  obtain ⟨closed, step, later⟩ := cons_iff.mp rest
  cases step
  exact later.refuses rfl

/-- Who is turned away came after a close. -/
theorem close_before_refuse
    (runs : Runs State.start (before ++ .refuse :: after) last) :
    Event.close ∈ before := by
  obtain ⟨state, earlier, rest⟩ := append_iff.mp runs
  obtain ⟨closed, step, later⟩ := cons_iff.mp rest
  cases step
  exact earlier.close_mem rfl rfl

/-- A key is held when it was acquired once more than it was released. -/
theorem balanced [DecidableEq Key] (runs : Runs first events last)
    (key : Key) :
    (key ∈ first.held → key ∈ last.held →
      events.count (.acquire key) = events.count (.release key)) ∧
    (key ∈ first.held → key ∉ last.held →
      events.count (.acquire key) + 1 = events.count (.release key)) ∧
    (key ∉ first.held → key ∈ last.held →
      events.count (.acquire key) = events.count (.release key) + 1) ∧
    (key ∉ first.held → key ∉ last.held →
      events.count (.acquire key) = events.count (.release key)) := by
  induction runs with
  | nil state => simp_all
  | cons step rest inductionHypothesis =>
      cases step with
      | @acquire held other absent =>
          by_cases same : other = key
          · subst same
            simp_all
          · have different : key ≠ other := fun equal => same equal.symm
            simp_all
      | @release accepting held other present =>
          by_cases same : other = key
          · subst same
            simp_all
          · have different : key ≠ other := fun equal => same equal.symm
            simp_all
      | _ => simp_all

/-- Once nothing is held after a close, only refusals are to come. -/
theorem quiescent (runs : Runs first events last)
    (closed : first.accepting = false) (empty : first.held = ∅) :
    last.held = ∅ ∧ ∀ key, Event.acquire key ∉ events ∧
      Event.release key ∉ events := by
  induction runs with
  | nil state => exact ⟨empty, by simp⟩
  | cons step rest inductionHypothesis =>
      cases step <;> simp_all

/-- The end of a wait cuts the history: before it came a close, and whatever
was acquired was released; after it nothing is acquired or released. -/
theorem drained [DecidableEq Key]
    (runs : Runs State.start (before ++ .drained :: after) last) :
    Event.close ∈ before ∧
      (∀ key, before.count (.acquire key) =
        before.count (.release key)) ∧
      ∀ key, Event.acquire key ∉ after ∧ Event.release key ∉ after := by
  obtain ⟨state, earlier, rest⟩ := append_iff.mp runs
  obtain ⟨ended, step, later⟩ := cons_iff.mp rest
  cases step
  refine ⟨earlier.close_mem rfl rfl, fun key => ?_, ?_⟩
  · exact (earlier.balanced key).2.2.2 (by simp [State.start]) (by simp)
  · exact (later.quiescent rfl rfl).2

end Runs

end Telekio.Rundown
