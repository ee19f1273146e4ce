import Mathlib.Data.List.Induction
import Telekio.Runner.System

/-!
# A task dump

The host polls guest tasks while it is tracing, one after the other, and then
delivers the wakers that the polls have deferred. The steps are the effects
of the scheduler of one task, each on the task it is about. Which tasks a dump
polls, whether it delivers a waker at once, and which tasks it wakes again by
itself is up to the host.
-/

namespace Telekio.Runner

namespace Shared

/-- `TaskSchedule::schedule`, by one call alone. -/
def schedule (tracing : Bool) (cell : Shared) : Shared :=
  if cell.state.complete then Effect.discard.apply cell
  else (Effect.wake tracing).apply
    (Effect.store.apply (Effect.lock.apply cell))

/-- `wake_by_ref` of a waker of the task. -/
def wakeByRef (tracing : Bool) (cell : Shared) : Shared :=
  if cell.state.toNotified.2 then
    schedule tracing (Effect.toNotified.apply cell)
  else Effect.toNotified.apply cell

/-- `take_or_notify`, and whether it has got a `Notified`. -/
def takeOrNotify (cell : Shared) : Shared × Bool :=
  if cell.runnable then (Effect.takeRunnable.apply cell, true)
  else (Effect.toNotifiedForTracing.apply (Effect.takeRunnable.apply cell),
    cell.state.toNotifiedForTracing.2)

/-- The completion of a task by its own run. -/
def finish (cell : Shared) : Shared :=
  Effect.emptyWaker.apply
    (Effect.emptyRunnable.apply ((Effect.toComplete true).apply cell))

/-- The end of `run_host`, after the future has returned. -/
def endRun (completes : Bool) (cell : Shared) : Shared :=
  if completes then cell.finish
  else match cell.state.toIdle.2 with
    | .ok => Effect.toIdle.apply cell
    | .okNotified => schedule true (Effect.toIdle.apply cell)
    | .cancelled => (Effect.toIdle.apply cell).finish

/-- The end of `poll_task_inner`: it stores the waker and looks again. -/
def endPoll (waker : WakerRef) (cell : Shared) : Shared :=
  if cell.state.complete then cell
  else if cell.runnable then
    (Effect.wakeAndFinish true waker).apply
      ((Effect.setWaker waker).apply cell)
  else (Effect.finish waker).apply ((Effect.setWaker waker).apply cell)

/-- The host will poll the task: it never has, or the waker of the latest
poll has been woken since the slot was taken. -/
def Awake (cell : Shared) : Prop :=
  cell.polled = false ∨
    ∃ waker, cell.waker = some waker ∧ waker ∈ cell.woken

end Shared

/-- A poll in tracing mode: whether the host wakes the deferred waker before
`defer` has returned, the wakes that the run of the task makes, and whether
the task completes. -/
structure TracedPoll where
  task : Nat
  waker : WakerRef
  early : Bool
  wakes : List Nat
  completes : Bool
deriving Repr

/-- The guest tasks, and the tasks whose wakers are deferred. -/
structure Dump where
  tasks : Nat → Shared
  deferred : List Nat

namespace Dump

def modify (dump : Dump) (task : Nat) (change : Shared → Shared) : Dump :=
  { dump with
    tasks := Function.update dump.tasks task (change (dump.tasks task)) }

def wakeAll (tracing : Bool) (tasks : List Nat) (dump : Dump) : Dump :=
  tasks.foldl
    (fun dump task => dump.modify task (Shared.wakeByRef tracing)) dump

/-- `poll_task_inner` while the thread is tracing. -/
def poll (dump : Dump) (poll : TracedPoll) : Dump :=
  let cell := dump.tasks poll.task
  if cell.state.complete then dump
  else
    let taken := (Effect.begin.apply cell).takeOrNotify
    if taken.2 then
      let cell := if poll.early then taken.1.wakeByRef true else taken.1
      let running : Dump :=
        { dump.modify poll.task fun _ => Effect.toRunning.apply cell with
          deferred :=
            if poll.early then dump.deferred
            else dump.deferred ++ [poll.task] }
      match cell.state.toRunning.2 with
      | .success =>
          (running.wakeAll true poll.wakes).modify poll.task
            fun cell => (cell.endRun poll.completes).endPoll poll.waker
      | .cancelled =>
          running.modify poll.task
            fun cell => cell.finish.endPoll poll.waker
      | .failed =>
          running.modify poll.task fun cell => cell.endPoll poll.waker
    else dump.modify poll.task fun _ => taken.1.endPoll poll.waker

/-- The deferred wakers, after the thread has stopped tracing. -/
def deliver (dump : Dump) : Dump :=
  dump.wakeAll false dump.deferred

def run (dump : Dump) (script : List TracedPoll) : Dump :=
  (script.foldl poll dump).deliver

/-- No task is stranded: an incomplete task with a full slot will be polled
again, for the wakes it had or because the host itself wakes it after the
dump. -/
def NoneStranded (rewoken : Nat → Prop) (dump : Dump) : Prop :=
  ∀ task, (dump.tasks task).state.complete = false →
    (dump.tasks task).runnable = true →
    (dump.tasks task).Awake ∨ rewoken task

end Dump

variable {cell : Shared} {tracing : Bool}

attribute [grind] Shared.schedule Shared.wakeByRef Shared.takeOrNotify
  Shared.finish Shared.endRun Shared.endPoll

/-- A wake of a task that is complete or notified does nothing. -/
theorem wakeByRef_of_silent (silent : cell.state.complete = true ∨
    cell.state.notified = true) : cell.wakeByRef tracing = cell := by
  have same : cell.state.toNotified = (cell.state, false) := by
    grind -ring -linarith
  simp [Shared.wakeByRef, same, Effect.apply, Shared.submit]

theorem silent_wakeByRef : (cell.wakeByRef tracing).state.complete = true ∨
    (cell.wakeByRef tracing).state.notified = true := by
  grind -ring -linarith

@[simp]
theorem wakeByRef_wakeByRef :
    (cell.wakeByRef tracing).wakeByRef tracing = cell.wakeByRef tracing :=
  wakeByRef_of_silent silent_wakeByRef

/-- A task between two polls, whose slot is full exactly when it is
notified. -/
structure Shared.Rested (cell : Shared) (full : Bool) : Prop where
  state : cell.state = ⟨full, false, false, false⟩
  runnable : cell.runnable = full

theorem rested_wakeByRef {full : Bool} (rested : cell.Rested full) :
    (cell.wakeByRef tracing).Rested true := by
  obtain ⟨state, runnable⟩ := rested
  constructor <;> grind -ring -linarith

/-- A wake from a tracing thread does not reach the host. -/
theorem host_wakeByRef_true :
    (cell.wakeByRef true).waker = cell.waker ∧
      (cell.wakeByRef true).woken = cell.woken ∧
      (cell.wakeByRef true).polled = cell.polled := by
  grind -ring -linarith

/-- A deferred wake of a task that is not notified reaches the host. -/
theorem awake_wakeByRef_false {waker : WakerRef}
    (rested : cell.Rested false) (stored : cell.waker = some waker) :
    (cell.wakeByRef false).Awake := by
  have submits : cell.state.toNotified =
      (⟨true, false, false, false⟩, true) := by
    rw [rested.state]
    rfl
  have kept : (cell.wakeByRef false).waker = cell.waker := by
    grind -ring -linarith
  have woken : (cell.wakeByRef false).woken =
      cell.waker.toList ++ cell.woken := by grind -ring -linarith
  exact Or.inr ⟨waker, kept.trans stored, by simp [woken, stored]⟩

theorem complete_wakeByRef :
    (cell.wakeByRef tracing).state.complete = cell.state.complete := by
  grind -ring -linarith

/-- A task that is running only notes that it has been woken. -/
theorem wakeByRef_of_running (running : cell.state =
      ⟨false, true, false, false⟩) :
    cell.wakeByRef tracing =
      { cell with state := ⟨true, true, false, false⟩ } := by
  simp [Shared.wakeByRef, Effect.apply, Shared.submit,
    TaskState.toNotified, running]

namespace Dump

variable {dump : Dump}

@[simp]
theorem tasks_modify_self (task : Nat) (change : Shared → Shared) :
    (dump.modify task change).tasks task = change (dump.tasks task) :=
  Function.update_self _ _ _

theorem tasks_modify_of_ne {task other : Nat} (change : Shared → Shared)
    (different : other ≠ task) :
    (dump.modify task change).tasks other = dump.tasks other :=
  Function.update_of_ne different _ _

@[simp]
theorem deferred_modify (task : Nat) (change : Shared → Shared) :
    (dump.modify task change).deferred = dump.deferred :=
  rfl

@[simp]
theorem deferred_wakeAll (tracing : Bool) (tasks : List Nat) :
    (dump.wakeAll tracing tasks).deferred = dump.deferred := by
  induction tasks generalizing dump with
  | nil => rfl
  | cons task rest inductionHypothesis => exact inductionHypothesis

/-- However often a task is woken, it is woken once. -/
theorem tasks_wakeAll (tracing : Bool) (tasks : List Nat) (task : Nat) :
    (dump.wakeAll tracing tasks).tasks task =
      if task ∈ tasks then (dump.tasks task).wakeByRef tracing
      else dump.tasks task := by
  induction tasks generalizing dump with
  | nil => rfl
  | cons first rest inductionHypothesis =>
      refine inductionHypothesis.trans ?_
      by_cases same : task = first
      · subst same
        simp
      · simp [same, tasks_modify_of_ne _ same]

end Dump

/-- What a poll in tracing mode leaves of its task. -/
structure Shared.Polled (cell : Shared) (full : Bool) : Prop where
  rested : cell.Rested full
  waker : cell.waker ≠ none
  woken : cell.woken = []
  polled : cell.polled = true

namespace Dump

variable {dump : Dump}

theorem poll_of_complete (poll : TracedPoll)
    (complete : (dump.tasks poll.task).state.complete = true) :
    dump.poll poll = dump := by
  simp [Dump.poll, complete]

/-- `take_or_notify` takes the `Notified` or mints one. -/
theorem takeOrNotify_of_rested {cell : Shared} {full : Bool}
    (rested : cell.Rested full) :
    cell.takeOrNotify.2 = true ∧
      cell.takeOrNotify.1.state = ⟨true, false, false, false⟩ ∧
      cell.takeOrNotify.1.runnable = false ∧
      cell.takeOrNotify.1.woken = [] ∧
      cell.takeOrNotify.1.polled = cell.polled := by
  obtain ⟨state, runnable⟩ := rested
  cases full <;> grind -ring -linarith

/-- A traced poll runs its task. -/
theorem poll_of_rested (poll : TracedPoll) {full : Bool}
    (rested : (dump.tasks poll.task).Rested full) :
    ∃ running : Shared, running.state = ⟨false, true, false, false⟩ ∧
      running.runnable = false ∧ running.woken = [] ∧
      running.polled = true ∧
      dump.poll poll =
        (wakeAll true poll.wakes
          { dump.modify poll.task fun _ => running with
            deferred :=
              if poll.early then dump.deferred
              else dump.deferred ++ [poll.task] }).modify poll.task
          fun cell => (cell.endRun poll.completes).endPoll poll.waker := by
  have begun : (Effect.begin.apply (dump.tasks poll.task)).Rested full :=
    ⟨rested.state, rested.runnable⟩
  obtain ⟨got, state, runnable, woken, polled⟩ :=
    takeOrNotify_of_rested begun
  have incomplete : (dump.tasks poll.task).state.complete = false := by
    rw [rested.state]
  have success : (Effect.begin.apply
      (dump.tasks poll.task)).takeOrNotify.1.state.toRunning =
        (⟨false, true, false, false⟩, .success) := by
    rw [state]
    rfl
  -- the deferred waker finds the `Notified` that was just taken
  have early : (if poll.early then (Effect.begin.apply
        (dump.tasks poll.task)).takeOrNotify.1.wakeByRef true
      else (Effect.begin.apply (dump.tasks poll.task)).takeOrNotify.1) =
        (Effect.begin.apply (dump.tasks poll.task)).takeOrNotify.1 := by
    rw [wakeByRef_of_silent (Or.inr (by rw [state])), ite_self]
  refine ⟨Effect.toRunning.apply _, congrArg Prod.fst success, runnable,
    woken, polled, ?_⟩
  simp only [Dump.poll, incomplete, got, early, success, if_true, if_false,
    Bool.false_eq_true]

/-- The end of a traced run that does not complete its task: a wake of the
running task fills the slot. -/
theorem polled_endPoll {cell : Shared} {full : Bool} (waker : WakerRef)
    (state : cell.state = ⟨full, true, false, false⟩)
    (runnable : cell.runnable = false) (woken : cell.woken = [])
    (polled : cell.polled = true) :
    ((cell.endRun false).endPoll waker).Polled full := by
  cases full <;> refine ⟨⟨?_, ?_⟩, ?_, ?_, ?_⟩ <;> grind -ring -linarith

theorem complete_endPoll {cell : Shared} (waker : WakerRef) :
    ((cell.endRun true).endPoll waker).state.complete = true := by
  grind -ring -linarith

/-- A traced poll of another task may wake this one. -/
theorem tasks_poll_of_ne (poll : TracedPoll) {full : Bool} {task : Nat}
    (rested : (dump.tasks poll.task).Rested full)
    (different : task ≠ poll.task) :
    (dump.poll poll).tasks task =
      if task ∈ poll.wakes then (dump.tasks task).wakeByRef true
      else dump.tasks task := by
  obtain ⟨running, -, -, -, -, same⟩ := poll_of_rested poll rested
  rw [same, tasks_modify_of_ne _ different, tasks_wakeAll]
  simp only [tasks_modify_of_ne _ different]

theorem deferred_poll (poll : TracedPoll) {full : Bool}
    (rested : (dump.tasks poll.task).Rested full) :
    (dump.poll poll).deferred =
      if poll.early then dump.deferred
      else dump.deferred ++ [poll.task] := by
  obtain ⟨running, -, -, -, -, same⟩ := poll_of_rested poll rested
  rw [same, deferred_modify, deferred_wakeAll]

/-- The task of a traced poll completes, or its slot is full exactly when
its run has woken it. -/
theorem tasks_poll_self (poll : TracedPoll) {full : Bool}
    (rested : (dump.tasks poll.task).Rested full) :
    if poll.completes then
      ((dump.poll poll).tasks poll.task).state.complete = true
    else ((dump.poll poll).tasks poll.task).Polled
      (decide (poll.task ∈ poll.wakes)) := by
  obtain ⟨running, state, runnable, woken, polled, same⟩ :=
    poll_of_rested poll rested
  rw [same, tasks_modify_self, tasks_wakeAll]
  cases completes : poll.completes with
  | true => exact complete_endPoll poll.waker
  | false =>
      simp only [tasks_modify_self, Bool.false_eq_true, if_false]
      by_cases wakes : poll.task ∈ poll.wakes
      · rw [if_pos wakes, wakeByRef_of_running state]
        simp only [wakes, decide_true]
        exact polled_endPoll poll.waker rfl runnable woken polled
      · rw [if_neg wakes]
        simp only [wakes, decide_false]
        exact polled_endPoll poll.waker state runnable woken polled

end Dump

/-! ## What a script does to one task -/

/-- The polls of a script that find their task incomplete, when the tasks of
`done` are complete. -/
def live (done : List Nat) : List TracedPoll → List TracedPoll
  | [] => []
  | poll :: rest =>
      if poll.task ∈ done then live done rest
      else poll ::
        live (if poll.completes then poll.task :: done else done) rest

/-- Whether a task has completed, whether it has been traced, and whether it
has been woken since its latest traced poll took its `Notified`. -/
structure Trace where
  complete : Bool
  traced : Bool
  woken : Bool

namespace Trace

def first : Trace where
  complete := false
  traced := false
  woken := false

def step (task : Nat) (trace : Trace) (poll : TracedPoll) : Trace :=
  if poll.task = task then
    ⟨trace.complete || poll.completes, true, decide (task ∈ poll.wakes)⟩
  else { trace with woken := trace.woken || decide (task ∈ poll.wakes) }

end Trace

/-- The task is where its trace says; `begun` is the task before the dump. -/
structure Follows (begun cell : Shared) (trace : Trace) : Prop where
  complete : cell.state.complete = trace.complete
  rested : trace.complete = false →
    cell.Rested (trace.woken || !trace.traced && begun.runnable)
  traced : trace.complete = false → trace.traced = true →
    cell.waker ≠ none ∧ cell.woken = [] ∧ cell.polled = true
  untraced : trace.traced = false → trace.complete = false ∧
    cell.waker = begun.waker ∧ cell.woken = begun.woken ∧
      cell.polled = begun.polled

variable {dump : Dump} {begun : Shared} {trace : Trace}

theorem follows_wake (follows : Follows begun cell trace) :
    Follows begun (cell.wakeByRef true)
      { trace with woken := true } := by
  obtain ⟨complete, rested, traced, untraced⟩ := follows
  obtain ⟨waker, woken, polled⟩ := @host_wakeByRef_true cell
  refine ⟨complete_wakeByRef.trans complete, ?_, ?_, ?_⟩
  · exact fun incomplete => rested_wakeByRef (rested incomplete)
  · rw [waker, woken, polled]
    exact traced
  · rw [waker, woken, polled]
    exact untraced

theorem follows_poll (poll : TracedPoll) {task : Nat} {full : Bool}
    (rested : (dump.tasks poll.task).Rested full)
    (follows : Follows begun (dump.tasks task) trace) :
    Follows begun ((dump.poll poll).tasks task) (trace.step task poll) := by
  by_cases same : poll.task = task
  · subst same
    have after := Dump.tasks_poll_self poll rested
    have incomplete : trace.complete = false := by
      rw [← follows.complete, rested.state]
    cases completes : poll.completes with
    | true =>
        rw [completes, if_pos rfl] at after
        simp only [Trace.step, if_true, completes, Bool.or_true]
        exact ⟨after, nofun, nofun, nofun⟩
    | false =>
        rw [completes, if_neg Bool.false_ne_true] at after
        simp only [Trace.step, if_true, completes, Bool.or_false,
          incomplete]
        refine ⟨by rw [after.rested.state], ?_, ?_, nofun⟩
        · intro _
          simpa using after.rested
        · exact fun _ _ => ⟨after.waker, after.woken, after.polled⟩
  · rw [Dump.tasks_poll_of_ne poll rested (Ne.symm same), Trace.step,
      if_neg same]
    by_cases wakes : task ∈ poll.wakes
    · rw [if_pos wakes]
      simpa [wakes] using follows_wake follows
    · rw [if_neg wakes]
      simpa [wakes] using follows

/-- The tasks of a dump follow their traces through a script. -/
theorem follows_script (begun : Nat → Shared) (script : List TracedPoll)
    (done : List Nat) (trace : Nat → Trace)
    (follows : ∀ task, Follows (begun task) (dump.tasks task) (trace task))
    (isDone : ∀ task, task ∈ done ↔ (trace task).complete = true)
    (deferred : ∀ task, task ∈ dump.deferred → (trace task).traced = true)
    (task : Nat) :
    Follows (begun task) ((script.foldl Dump.poll dump).tasks task)
        ((live done script).foldl (Trace.step task) (trace task)) ∧
      (task ∈ (script.foldl Dump.poll dump).deferred →
        ((live done script).foldl (Trace.step task)
          (trace task)).traced = true) := by
  induction script generalizing dump done trace with
  | nil => exact ⟨follows task, deferred task⟩
  | cons poll rest inductionHypothesis =>
      simp only [List.foldl_cons, live]
      by_cases complete : poll.task ∈ done
      · rw [if_pos complete, Dump.poll_of_complete poll
          ((follows poll.task).complete.trans ((isDone _).mp complete))]
        exact inductionHypothesis done trace follows isDone deferred
      · rw [if_neg complete, List.foldl_cons]
        have incomplete : (trace poll.task).complete = false :=
          Bool.eq_false_iff.mpr (mt (isDone _).mpr complete)
        have rested := (follows poll.task).rested incomplete
        refine inductionHypothesis _
          (fun task => (trace task).step task poll) ?_ ?_ ?_
        · exact fun task => follows_poll poll rested (follows task)
        · intro task
          by_cases same : poll.task = task
          · subst same
            cases completes : poll.completes <;>
              simp [Trace.step, completes, incomplete, complete]
          · cases completes : poll.completes <;>
              simp [Trace.step, same, Ne.symm same, isDone]
        · intro task member
          by_cases same : poll.task = task
          · simp [Trace.step, same]
          · rw [Trace.step, if_neg same]
            refine deferred task ?_
            rw [Dump.deferred_poll poll rested] at member
            split at member
            · exact member
            · simpa [Ne.symm same] using member

/-- The script completes the task. -/
def Completes (script : List TracedPoll) (task : Nat) : Prop :=
  ∃ poll ∈ script, poll.task = task ∧ poll.completes = true

def Traces (script : List TracedPoll) (task : Nat) : Prop :=
  ∃ poll ∈ script, poll.task = task

/-- A poll of the script wakes the task, and no later one is a poll of the
task: nobody takes the `Notified` again. -/
def WakesAfterTake (script : List TracedPoll) (task : Nat) : Prop :=
  ∃ before poll after, script = before ++ poll :: after ∧
    task ∈ poll.wakes ∧ ∀ later ∈ after, later.task ≠ task

theorem wakesAfterTake_append (script : List TracedPoll)
    (poll : TracedPoll) (task : Nat) :
    WakesAfterTake (script ++ [poll]) task ↔
      task ∈ poll.wakes ∨
        poll.task ≠ task ∧ WakesAfterTake script task := by
  constructor
  · rintro ⟨before, found, after, same, wakes, untaken⟩
    cases after using List.reverseRecOn with
    | nil =>
        obtain ⟨-, last⟩ := List.append_inj' same rfl
        obtain rfl := List.head_eq_of_cons_eq last
        exact Or.inl wakes
    | append_singleton after last =>
        rw [← List.cons_append, ← List.append_assoc] at same
        obtain ⟨rfl, isLast⟩ := List.append_inj' same rfl
        obtain rfl := List.head_eq_of_cons_eq isLast
        refine Or.inr ⟨untaken poll (by simp), before, found, after, rfl,
          wakes, fun later member => untaken later ?_⟩
        exact List.mem_append_left _ member
  · rintro (wakes | ⟨other, before, found, after, rfl, wakes, untaken⟩)
    · exact ⟨script, poll, [], rfl, wakes, nofun⟩
    · refine ⟨before, found, after ++ [poll], by simp, wakes, ?_⟩
      intro later member
      rcases List.mem_append.mp member with earlier | last
      · exact untaken later earlier
      · rw [List.mem_singleton.mp last]
        exact other

/-- The trace of a task tells what the script does to it. -/
theorem trace_iff (script : List TracedPoll) (task : Nat) :
    ((script.foldl (Trace.step task) .first).complete = true ↔
        Completes script task) ∧
      ((script.foldl (Trace.step task) .first).traced = true ↔
        Traces script task) ∧
      ((script.foldl (Trace.step task) .first).woken = true ↔
        WakesAfterTake script task) := by
  induction script using List.reverseRecOn with
  | nil =>
      refine ⟨?_, ?_, ?_⟩
      · simp [Trace.first, Completes]
      · simp [Trace.first, Traces]
      · simp [Trace.first, WakesAfterTake]
  | append_singleton script poll inductionHypothesis =>
      obtain ⟨complete, traced, woken⟩ := inductionHypothesis
      rw [List.foldl_append, wakesAfterTake_append, ← woken]
      simp only [List.foldl_cons, List.foldl_nil, Trace.step]
      by_cases same : poll.task = task
      · simp [same, Completes, Traces, or_and_right, exists_or,
          complete, Completes]
      · simp [same, Completes, Traces, or_and_right, exists_or, complete,
          traced, Completes, Traces]
        exact or_comm

/-- A task between two polls: idle, or notified with the host told, or
never polled. -/
structure Shared.Settled (cell : Shared) : Prop where
  rested : cell.Rested cell.runnable
  awake : cell.runnable = true → cell.Awake

/-- Whoever is woken after the last poll that takes its `Notified` completes,
is woken again by the host, or is not traced at all and will be polled
anyway. -/
def Undisturbed (dump : Dump) (script : List TracedPoll)
    (rewoken : Nat → Prop) : Prop :=
  ∀ task, WakesAfterTake (live [] script) task →
    Completes (live [] script) task ∨ rewoken task ∨
      ¬ Traces (live [] script) task ∧ (dump.tasks task).Awake

/-- What is left of one task; `after` is the task after the delivery. -/
theorem stranded_iff {after : Shared} (settled : begun.Settled)
    (follows : Follows begun cell trace)
    (delivered : after = cell ∨
      trace.traced = true ∧ after = cell.wakeByRef false) :
    (after.state.complete = false → after.runnable = true → after.Awake) ↔
      (trace.woken = true → trace.complete = true ∨
        trace.traced = false ∧ begun.Awake) := by
  obtain ⟨complete, rested, traced, untraced⟩ := follows
  cases isTraced : trace.traced with
  | false =>
      obtain rfl : cell = after := by
        simpa [isTraced, eq_comm] using delivered
      obtain ⟨incomplete, waker, woken, polled⟩ := untraced isTraced
      obtain ⟨-, runnable⟩ := rested incomplete
      have same : cell.Awake ↔ begun.Awake := by
        rw [Shared.Awake, waker, woken, polled]
        rfl
      have awake := settled.awake
      simp only [isTraced, complete, incomplete, runnable, same]
      grind -ring -linarith
  | true =>
      cases isComplete : trace.complete with
      | true =>
          have ended : after.state.complete = true := by
            rcases delivered with rfl | ⟨_, rfl⟩
            · exact complete.trans isComplete
            · rw [complete_wakeByRef, complete, isComplete]
          simp [ended]
      | false =>
          have isRested := rested isComplete
          obtain ⟨stored, unwoken, polled⟩ := traced isComplete isTraced
          simp only [isTraced, Bool.not_true, Bool.false_and,
            Bool.or_false] at isRested
          obtain ⟨waker, stored⟩ := Option.ne_none_iff_exists'.mp stored
          cases again : trace.woken with
          | false =>
              rw [again] at isRested
              rcases delivered with rfl | ⟨_, rfl⟩
              · simp [isRested.runnable]
              · simp [awake_wakeByRef_false isRested stored]
          | true =>
              rw [again] at isRested
              obtain rfl : after = cell := by
                rcases delivered with same | ⟨_, same⟩
                · exact same
                · exact same.trans (wakeByRef_of_silent
                    (Or.inr (by rw [isRested.state])))
              simp [Shared.Awake, unwoken, polled, isRested.state,
                isRested.runnable]

/-- A dump strands no task exactly when every task that is woken after its
`Notified` was last taken completes, is woken again by the host, or is left
alone with the host about to poll it. -/
theorem noneStranded_iff {dump : Dump} (script : List TracedPoll)
    (rewoken : Nat → Prop)
    (settled : ∀ task, (dump.tasks task).Settled)
    (fresh : dump.deferred = []) :
    (dump.run script).NoneStranded rewoken ↔
      Undisturbed dump script rewoken := by
  refine forall_congr' fun task => ?_
  obtain ⟨complete, traced, woken⟩ := trace_iff (live [] script) task
  have followed := @follows_script dump dump.tasks script []
    (fun _ => .first) ?_ ?_ ?_ task
  · obtain ⟨follows, deferred⟩ := followed
    rw [← complete, ← traced, ← woken]
    have delivered :
        (dump.run script).tasks task =
            (script.foldl Dump.poll dump).tasks task ∨
          ((live [] script).foldl (Trace.step task) .first).traced = true ∧
            (dump.run script).tasks task =
              ((script.foldl Dump.poll dump).tasks task).wakeByRef
                false := by
      rw [Dump.run, Dump.deliver, Dump.tasks_wakeAll]
      split
      · exact Or.inr ⟨deferred ‹_›, rfl⟩
      · exact Or.inl rfl
    have left := stranded_iff (settled task) follows delivered
    grind
  · intro task
    refine ⟨?_, ?_, nofun, fun _ => ⟨rfl, rfl, rfl, rfl⟩⟩
    · rw [(settled task).rested.state]
      rfl
    · intro _
      simpa [Trace.first] using (settled task).rested
  · simp [Trace.first]
  · simp [fresh]

/-- Idle tasks, each with the waker of its latest poll. -/
def idleTasks : Dump where
  tasks := fun _ =>
    { Shared.new with
      state := ⟨false, false, false, false⟩
      waker := some 7
      host := .ready
      polled := true
      finished := some 7
      tokens := 0 }
  deferred := []

theorem settled_idleTasks (task : Nat) :
    (idleTasks.tasks task).Settled :=
  ⟨⟨rfl, rfl⟩, nofun⟩

/-- A traced poll wakes its own task, which the host wakes again, and another
one, which is traced later. -/
theorem noneStranded_of_later :
    (idleTasks.run [⟨0, 8, false, [0, 1], false⟩,
      ⟨1, 9, true, [], false⟩]).NoneStranded (· = 0) := by
  refine (noneStranded_iff _ _ settled_idleTasks rfl).mpr ?_
  intro task wakes
  have woken := (trace_iff _ task).2.2.mpr wakes
  by_cases first : task = 0
  · exact Or.inr (Or.inl first)
  · by_cases second : task = 1
    · subst second
      cases woken
    · simp [live, Trace.step, Trace.first, first, second, eq_comm] at woken

/-- An idle task that a traced poll of another one wakes is stranded, if the
host wakes only the tasks it has traced. -/
theorem exists_stranded :
    ∃ dump : Dump, (∀ task, (dump.tasks task).Settled) ∧
      dump.deferred = [] ∧
      ∀ early rewoken,
        (∀ task, rewoken task → task = 0) →
        ¬ (dump.run [⟨0, 8, early, [1], false⟩]).NoneStranded rewoken := by
  refine ⟨idleTasks, settled_idleTasks, rfl, ?_⟩
  intro early rewoken traced unstranded
  have full : ((idleTasks.run [⟨0, 8, early, [1], false⟩]).tasks 1).Rested
      true ∧
      ¬ ((idleTasks.run [⟨0, 8, early, [1], false⟩]).tasks 1).Awake := by
    cases early <;> refine ⟨⟨rfl, rfl⟩, ?_⟩ <;>
      rintro (unpolled | ⟨waker, -, woken⟩)
    · cases unpolled
    · cases woken
    · cases unpolled
    · cases woken
  rcases unstranded 1 (by rw [full.1.state]) full.1.runnable with
    awake | again
  · exact full.2 awake
  · cases traced 1 again

end Telekio.Runner
