import Telekio.Observers.Issued

/-!
# Every observer hears of every worker once

An id that is registered is, for each worker, still pending, about to be
called by the tenure that started the worker last, or has been called by it.
-/

namespace Telekio.Observers

open Telekio.Interleave

variable {world : World} {shared : Shared} {op : Op}
variable {tenure : Tenure} {stage : Stage} {next : Thread}

/-! ## Who is told -/

/-- Every registered id is pending for the worker of the tenure, about to be
called by it or called, and those that a tick has covered are called. -/
structure Tenure.Told (state : WorkerObservers) (tenure : Tenure)
    (calls : List Nat) : Prop where
  once : ∀ id ∈ state.observers, tenure.heard.count id +
    (state.pending tenure.worker).count id + calls.count id = 1
  covered : ∀ id ∈ tenure.covered,
    id ∉ state.pending tenure.worker ∧ id ∉ calls

namespace Tenure.Told

variable {state : WorkerObservers} {calls : List Nat} {id : Nat}

theorem start (distinct : calls.Nodup)
    (all : calls.toFinset = state.observers)
    (unheard : tenure.heard = []) (uncovered : tenure.covered = ∅) :
    tenure.Told (state.start tenure.worker) calls where
  once := by
    intro id registered
    have member : id ∈ calls :=
      List.mem_toFinset.mp (by rw [all]; exact registered)
    simp [WorkerObservers.start, unheard,
      List.count_eq_one_of_mem distinct member]
  covered := by
    rw [uncovered]
    exact nofun

theorem hear (told : tenure.Told state (id :: calls)) :
    (tenure.hear id).Told state calls where
  once := by
    intro other registered
    have once := told.once other registered
    simp only [Tenure.hear, List.count_cons] at once ⊢
    omega
  covered := by
    intro other covered
    obtain ⟨unpending, uncalled⟩ := told.covered other covered
    exact ⟨unpending, fun called =>
      uncalled (List.mem_cons_of_mem _ called)⟩

theorem take (told : tenure.Told state []) :
    tenure.Told (state.take tenure.worker) (state.taken tenure.worker) where
  once := by
    intro id registered
    have registered : id ∈ state.observers := registered
    have once := told.once id registered
    simp only [WorkerObservers.take, WorkerObservers.taken,
      Function.update_self, List.count_nil]
    rw [List.count_filter (by simpa using registered)]
    simpa using once
  covered := by
    intro id covered
    obtain ⟨unpending, -⟩ := told.covered id covered
    simp only [WorkerObservers.take, Function.update_self]
    exact ⟨List.not_mem_nil, fun taken =>
      unpending (List.mem_filter.mp taken).1⟩

theorem remove (told : tenure.Told state calls) (id : Nat) :
    tenure.Told (state.remove id) calls where
  once := by
    intro other registered
    obtain ⟨different, registered⟩ := Finset.mem_erase.mp registered
    have once := told.once other registered
    simp only [WorkerObservers.remove]
    rw [List.count_filter (by simpa using different)]
    exact once
  covered := by
    intro other covered
    obtain ⟨unpending, uncalled⟩ := told.covered other covered
    exact ⟨fun pending => unpending (List.mem_filter.mp pending).1,
      uncalled⟩

/-- What `start` and `tick` of another worker change is not for this one. -/
theorem take_other (told : tenure.Told state calls) {worker : Nat}
    (different : tenure.worker ≠ worker) :
    tenure.Told (state.take worker) calls where
  once := by
    simp only [WorkerObservers.take, Function.update_of_ne different]
    exact told.once
  covered := by
    simp only [WorkerObservers.take, Function.update_of_ne different]
    exact told.covered

/-- The new observer is left for the tenure's next tick. -/
theorem add_left (told : tenure.Told state calls)
    {current : Option Nat} (leaves : state.Leaves current tenure.worker)
    (unheard : state.nextId ∉ tenure.heard)
    (unpending : state.nextId ∉ state.pending tenure.worker)
    (uncalled : state.nextId ∉ calls)
    (uncovered : state.nextId ∉ tenure.covered) :
    tenure.Told (state.add current) calls where
  once := by
    intro id registered
    simp only [WorkerObservers.add, if_pos leaves, List.count_append]
    by_cases same : id = state.nextId
    · subst same
      simp [List.count_eq_zero_of_not_mem, unheard, unpending, uncalled]
    · have once := told.once id (Finset.mem_of_mem_insert_of_ne registered
        same)
      rw [List.count_singleton, beq_false_of_ne (Ne.symm same)]
      exact once
  covered := by
    intro id covered
    obtain ⟨absent, uncalled⟩ := told.covered id covered
    refine ⟨?_, uncalled⟩
    simp only [WorkerObservers.add, if_pos leaves, List.mem_append,
      List.mem_singleton]
    rintro (pending | rfl)
    · exact absent pending
    · exact uncovered covered

/-- The new observer is called by the tenure itself. -/
theorem add_own (told : tenure.Told state [])
    (unheard : state.nextId ∉ tenure.heard)
    (unpending : state.nextId ∉ state.pending tenure.worker)
    (uncovered : state.nextId ∉ tenure.covered) :
    tenure.Told (state.add (some tenure.worker)) [state.nextId] := by
  have kept : (state.add (some tenure.worker)).pending tenure.worker =
      state.pending tenure.worker :=
    if_neg fun leaves => leaves.2 rfl
  constructor
  · intro id registered
    rw [kept]
    by_cases same : id = state.nextId
    · subst same
      simp [List.count_eq_zero_of_not_mem, unheard, unpending]
    · have once := told.once id (Finset.mem_of_mem_insert_of_ne registered
        same)
      rw [List.count_singleton, beq_false_of_ne (Ne.symm same)]
      exact once
  · intro id covered
    rw [kept]
    refine ⟨(told.covered id covered).1, fun called => ?_⟩
    rw [List.mem_singleton.mp called] at covered
    exact uncovered covered

/-- A tick is complete, and nothing that it has seen is pending. -/
theorem cover (told : tenure.Told state []) (seen : Finset Nat)
    (unpending : ∀ id ∈ seen, id ∉ state.pending tenure.worker) :
    (tenure.cover seen).Told state [] where
  once := told.once
  covered := fun id covered => ⟨unpending id covered, List.not_mem_nil⟩

end Tenure.Told

/-- What the latest tenure of a worker knows. -/
structure Tenure.Reports (shared : Shared) (tenure : Tenure)
    (stage : Stage) : Prop where
  told : tenure.Told shared.state stage.calls
  passed : ∀ id ∈ stage.passed,
    id ∉ shared.state.pending tenure.worker

/-- A tick passes ids only while it calls observers. -/
theorem Stage.unpassed {stage : Stage} {pending : List Nat}
    (unpassed : stage.passed = ∅) : ∀ id ∈ stage.passed, id ∉ pending := by
  intro id passed
  rw [unpassed] at passed
  exact absurd passed (Finset.notMem_empty id)

theorem Tenure.Reports.of_same {before after : Shared}
    (reports : tenure.Reports before stage)
    (observers : after.state.observers = before.state.observers)
    (pending : after.state.pending tenure.worker =
      before.state.pending tenure.worker) :
    tenure.Reports after stage where
  told :=
    { once := by
        rw [observers, pending]
        exact reports.told.once
      covered := by
        rw [pending]
        exact reports.told.covered }
  passed := by
    rw [pending]
    exact reports.passed

/-- Nobody has in hand what has not been given out. -/
theorem Tenure.Fits.unissued (fits : tenure.Fits shared stage)
    (sound : shared.Sound) :
    shared.state.nextId ∉ tenure.heard ∧
      (∀ worker, shared.state.nextId ∉ shared.state.pending worker) ∧
      shared.state.nextId ∉ stage.calls ∧
      shared.state.nextId ∉ tenure.covered ∧
      shared.state.nextId ∉ shared.returned := by
  have unreturned : shared.state.nextId ∉ shared.returned :=
    fun returned => Nat.lt_irrefl _ (sound.returned _ returned)
  refine ⟨fun heard => ?_, fun worker pending => ?_, fun called => ?_,
    fun covered => ?_, unreturned⟩
  · exact Nat.lt_irrefl _ (fits.heard _ heard)
  · exact Nat.lt_irrefl _ (sound.pending worker _ pending)
  · exact Nat.lt_irrefl _
      (fits.ids _ (Stage.mem_ids_of_calls called))
  · exact unreturned (fits.covered _ covered)

/-- An `add` that is not called with the worker of the tenure. -/
theorem Tenure.Reports.add_left (reports : tenure.Reports shared stage)
    (sound : shared.Sound) (fits : tenure.Fits shared stage)
    {current : Option Nat} (other : some tenure.worker ≠ current) :
    tenure.Reports { shared with state := shared.state.add current }
      stage := by
  obtain ⟨unheard, unpending, uncalled, uncovered, -⟩ :=
    fits.unissued sound
  have leaves : shared.state.Leaves current tenure.worker :=
    ⟨fits.worker, other⟩
  refine ⟨reports.told.add_left leaves unheard (unpending _) uncalled
    uncovered, ?_⟩
  intro id passed
  simp only [WorkerObservers.add, if_pos leaves, List.mem_append,
    List.mem_singleton]
  rintro (pending | rfl)
  · exact reports.passed id passed pending
  · exact Nat.lt_irrefl _ (sound.returned _
      (fits.seen _ (Stage.mem_seen_of_passed passed)))

theorem Tenure.Reports.remove (reports : tenure.Reports shared stage)
    (id : Nat) :
    tenure.Reports { shared with state := shared.state.remove id }
      stage := by
  refine ⟨reports.told.remove id, ?_⟩
  intro other passed pending
  exact reports.passed other passed (List.mem_filter.mp pending).1

theorem Tenure.Reports.take_other (reports : tenure.Reports shared stage)
    {worker : Nat} (different : tenure.worker ≠ worker) :
    tenure.Reports { shared with state := shared.state.take worker }
      stage := by
  refine ⟨reports.told.take_other different, ?_⟩
  simp only [WorkerObservers.take, Function.update_of_ne different]
  exact reports.passed

/-- A thread with the core of a worker that it has started is the one that
has started it last, and the latest tenure of a worker reports it. -/
def Thread.Reports (shared : Shared) : Thread → Prop
  | .worker tenure stage =>
      stage ≠ .taken →
        (stage.core = true →
          shared.tenant tenure.worker = some tenure.number) ∧
        (shared.tenant tenure.worker = some tenure.number →
          tenure.Reports shared stage)
  | _ => True

/-- What a thread does leaves the reports of the others alone. -/
theorem reports_of_other {current : Thread}
    (acts : Thread.Acts shared current op next)
    (allowed : Allowed shared op) (sound : shared.Sound)
    (mine : current.Reports shared) (fits : tenure.Fits shared stage)
    (unlike : ¬ current.numbered tenure.number)
    (alone : stage.core = true → ¬ current.cores tenure.worker)
    (here : (Thread.worker tenure stage).Reports shared) :
    (Thread.worker tenure stage).Reports (op.apply shared) := by
  intro started
  obtain ⟨holds, reports⟩ := here started
  cases acts with
  | add =>
      exact ⟨holds, fun tenant =>
        (reports tenant).add_left sound fits nofun⟩
  | remove => exact ⟨holds, fun tenant => (reports tenant).remove _⟩
  | run | added =>
      exact ⟨holds, fun tenant => (reports tenant).of_same rfl rfl⟩
  | @worker mover moving _ _ acts =>
      -- no two tenures are the latest of one worker
      have apart : shared.tenant mover.worker = some mover.number →
          shared.tenant tenure.worker = some tenure.number →
          tenure.worker ≠ mover.worker := by
        intro moverLatest latest same
        rw [same, moverLatest] at latest
        exact unlike (Option.some.inj latest)
      cases acts with
      | start =>
          by_cases same : tenure.worker = mover.worker
          · refine ⟨fun core => absurd ⟨same.symm, rfl⟩ (alone core), ?_⟩
            intro latest
            simp only [Op.apply, same, Function.update_self] at latest
            exact absurd (Option.some.inj latest) unlike
          · simp only [Op.apply, Function.update_of_ne same]
            refine ⟨holds, fun latest => ?_⟩
            exact ((reports latest).take_other same).of_same rfl rfl
      | take =>
          refine ⟨holds, fun latest => (reports latest).take_other ?_⟩
          exact apart ((mine nofun).1 rfl) latest
      | add | addBlocked =>
          refine ⟨holds, fun latest =>
            (reports latest).add_left sound fits ?_⟩
          exact fun same =>
            apart allowed latest (Option.some.inj same)
      | addElsewhere =>
          exact ⟨holds, fun latest =>
            (reports latest).add_left sound fits nofun⟩
      | remove | removeBlocked =>
          exact ⟨holds, fun latest => (reports latest).remove _⟩
      | _ =>
          exact ⟨holds, fun latest => (reports latest).of_same rfl rfl⟩

/-- A tenure starts with nothing heard. -/
def Thread.Unheard : Thread → Prop
  | .worker tenure .taken => tenure.heard = [] ∧ tenure.covered = ∅
  | _ => True

theorem unheard_of_reachable (reached : program.Reachable world)
    {thread : Nat} {found : Thread}
    (running : world.threads thread = some found) : found.Unheard := by
  refine Program.local_invariant Thread.Unheard ?_ ?_ reached running
  · rintro first rfl
    trivial
  · intro world thread current op next _ _ acts _
    cases acts with
    | worker acts =>
        cases acts with
        | @unwindAdding _ core | @added _ core => cases core <;> trivial
        | _ => trivial
    | run => exact ⟨rfl, rfl⟩
    | _ => trivial

/-- A thread between the swap and the take of its worker's tick. -/
def Thread.ticks (worker : Nat) : Thread → Prop
  | .worker tenure (.swapped _) => tenure.worker = worker
  | _ => False

namespace WorkerObservers

variable (state : WorkerObservers)

/-- Ids are pending, and the flag does not say so. -/
def Unflagged (worker : Nat) : Prop :=
  state.pending worker ≠ [] ∧ state.flag worker = false

variable {state} {worker : Nat}

theorem Unflagged.of_add {current : Option Nat}
    (unflagged : (state.add current).Unflagged worker) :
    state.Unflagged worker := by
  obtain ⟨pending, lowered⟩ := unflagged
  simp only [add] at pending lowered
  by_cases leaves : state.Leaves current worker
  · rw [if_pos leaves] at lowered
    cases lowered
  · rw [if_neg leaves] at pending lowered
    exact ⟨pending, lowered⟩

theorem Unflagged.of_remove {id : Nat}
    (unflagged : (state.remove id).Unflagged worker) :
    state.Unflagged worker := by
  refine ⟨fun none => unflagged.1 ?_, unflagged.2⟩
  simp [remove, none]

theorem Unflagged.of_take {other : Nat}
    (unflagged : (state.take other).Unflagged worker) :
    worker ≠ other ∧ state.Unflagged worker := by
  obtain ⟨pending, lowered⟩ := unflagged
  have different : worker ≠ other := by
    rintro rfl
    exact pending (Function.update_self _ _ _)
  simp only [take, Function.update_of_ne different] at pending
  exact ⟨different, pending, lowered⟩

theorem Unflagged.of_start {other : Nat}
    (unflagged : (state.start other).Unflagged worker) :
    state.Unflagged worker := by
  obtain ⟨pending, lowered⟩ := unflagged
  have different : worker ≠ other := by
    rintro rfl
    exact pending (Function.update_self _ _ _)
  simp only [start, Function.update_of_ne different] at pending lowered
  exact ⟨pending, lowered⟩

theorem Unflagged.of_swap {other : Nat}
    (unflagged : (state.swap other).Unflagged worker) :
    worker = other ∨ state.Unflagged worker := by
  obtain ⟨pending, lowered⟩ := unflagged
  by_cases same : worker = other
  · exact Or.inl same
  · simp only [swap, Function.update_of_ne same] at lowered
    exact Or.inr ⟨pending, lowered⟩

end WorkerObservers

/-- Whoever lowers the flag of a worker takes what is pending. -/
theorem ticksKeeping : program.Keeping
    (fun shared worker => shared.state.Unflagged worker)
    (fun thread worker => thread.ticks worker) where
  absent := by
    intro shared worker initial
    rw [initial.state]
    exact fun present => present.1 rfl
  introduces := by
    intro world thread current op next worker _ _ acts absent present
    cases acts with
    | worker acts =>
        cases acts with
        | add | addBlocked | addElsewhere =>
            exact absurd present.of_add absent
        | remove | removeBlocked => exact absurd present.of_remove absent
        | start => exact absurd present.of_start absent
        | take => exact absurd present.of_take.2 absent
        | tickEarly lowered =>
            rcases present.of_swap with rfl | before
            · exact absurd ⟨present.1, lowered⟩ absent
            · exact absurd before absent
        | swap raised =>
            rcases present.of_swap with rfl | before
            · rfl
            · exact absurd before absent
        | _ => exact absurd present absent
    | add => exact absurd present.of_add absent
    | remove => exact absurd present.of_remove absent
    | _ => exact absurd present absent
  retains := by
    intro world thread current op next worker _ _ acts owned present
    cases acts with
    | worker acts =>
        cases acts with
        | take =>
            obtain rfl := owned
            exact absurd rfl present.of_take.1
        | _ => cases owned
    | _ => cases owned

theorem reports_of_acts {current : Thread}
    (acts : Thread.Acts shared current op next)
    (allowed : Allowed shared op) (sound : shared.Sound)
    (fits : current.Fits shared) (unheard : current.Unheard)
    (clear : ∀ tenure, current = .worker tenure .polling →
      shared.state.flag tenure.worker = false →
      shared.state.pending tenure.worker = [])
    (here : current.Reports shared) :
    next.Reports (op.apply shared) := by
  cases acts with
  | run => exact fun started => absurd rfl started
  | add | added | remove => trivial
  | worker acts =>
      cases acts with
      | start distinct all =>
          intro _
          refine ⟨fun _ => Function.update_self _ _ _, fun _ => ?_⟩
          exact ⟨.start distinct all unheard.1 unheard.2,
            Stage.unpassed rfl⟩
      | unwindStarting | unwindTicking | shutdown | leave => trivial
      | callStarting | callTicking =>
          intro _
          obtain ⟨holds, reports⟩ := here (by simp)
          refine ⟨holds, fun latest => ?_⟩
          exact ⟨(reports latest).told.hear, (reports latest).passed⟩
      | callAdding =>
          intro _
          obtain ⟨holds, reports⟩ := here (by simp)
          refine ⟨holds, fun latest => ?_⟩
          exact ⟨(reports latest).told.hear, Stage.unpassed rfl⟩
      | @unwindAdding _ core =>
          intro _
          obtain ⟨holds, reports⟩ := here (by simp)
          cases core
          · refine ⟨fun core => absurd core Bool.false_ne_true,
              fun latest => ?_⟩
            exact ⟨(reports latest).told.hear, Stage.unpassed rfl⟩
          · refine ⟨holds, fun latest => ?_⟩
            exact ⟨(reports latest).told.hear, Stage.unpassed rfl⟩
      | @added _ core =>
          intro _
          obtain ⟨holds, reports⟩ := here (by simp)
          cases core
          · exact ⟨fun core => absurd core Bool.false_ne_true,
              fun latest => ⟨(reports latest).told, Stage.unpassed rfl⟩⟩
          · exact ⟨holds, fun latest =>
              ⟨(reports latest).told, Stage.unpassed rfl⟩⟩
      | started =>
          intro _
          obtain ⟨holds, reports⟩ := here (by simp)
          exact ⟨holds, fun latest =>
            ⟨(reports latest).told, Stage.unpassed rfl⟩⟩
      | tickEarly lowered =>
          intro _
          obtain ⟨holds, reports⟩ := here (by simp)
          refine ⟨holds, fun latest => ?_⟩
          have told := (reports latest).told.cover shared.returned
            (fun id _ => by
              rw [clear _ rfl lowered]
              exact List.not_mem_nil)
          exact ⟨⟨told.once, told.covered⟩, Stage.unpassed rfl⟩
      | swap raised =>
          intro _
          obtain ⟨holds, reports⟩ := here (by simp)
          refine ⟨holds, fun latest => ?_⟩
          have told := (reports latest).told
          exact ⟨⟨told.once, told.covered⟩, Stage.unpassed rfl⟩
      | take =>
          intro _
          obtain ⟨holds, reports⟩ := here (by simp)
          refine ⟨holds, fun latest =>
            ⟨(reports latest).told.take, fun id _ pending => ?_⟩⟩
          simp [Op.apply, WorkerObservers.take] at pending
      | ticked =>
          intro _
          obtain ⟨holds, reports⟩ := here (by simp)
          refine ⟨holds, fun latest => ?_⟩
          exact ⟨(reports latest).told.cover _ (reports latest).passed,
            Stage.unpassed rfl⟩
      | blockInPlace =>
          intro _
          obtain ⟨-, reports⟩ := here (by simp)
          exact ⟨fun core => absurd core Bool.false_ne_true,
            fun latest => ⟨(reports latest).told, Stage.unpassed rfl⟩⟩
      | retake there =>
          intro _
          obtain ⟨-, reports⟩ := here (by simp)
          exact ⟨fun _ => allowed, fun latest =>
            ⟨(reports latest).told, Stage.unpassed rfl⟩⟩
      | add =>
          intro _
          obtain ⟨holds, reports⟩ := here (by simp)
          obtain ⟨unheard, unpending, -, uncovered, -⟩ :=
            fits.unissued sound
          refine ⟨holds, fun latest => ⟨?_, Stage.unpassed rfl⟩⟩
          exact (reports latest).told.add_own unheard (unpending _)
            uncovered
      | addBlocked =>
          intro _
          obtain ⟨-, reports⟩ := here (by simp)
          obtain ⟨unheard, unpending, -, uncovered, -⟩ :=
            fits.unissued sound
          refine ⟨fun core => absurd core Bool.false_ne_true,
            fun latest => ⟨?_, Stage.unpassed rfl⟩⟩
          exact (reports latest).told.add_own unheard (unpending _)
            uncovered
      | addElsewhere =>
          intro _
          obtain ⟨-, reports⟩ := here (by simp)
          refine ⟨fun core => absurd core Bool.false_ne_true,
            fun latest => ?_⟩
          have left := (reports latest).add_left sound fits
            (@Option.some_ne_none _ _)
          exact ⟨left.told, Stage.unpassed rfl⟩
      | remove =>
          intro _
          obtain ⟨holds, reports⟩ := here (by simp)
          exact ⟨holds, fun latest => (reports latest).remove _⟩
      | removeBlocked =>
          intro _
          obtain ⟨-, reports⟩ := here (by simp)
          exact ⟨fun core => absurd core Bool.false_ne_true,
            fun latest => (reports latest).remove _⟩

/-- Nothing is pending for a worker whose flag is down, unless a tick of it
is between its swap and its take. -/
theorem flagged_of_reachable (reached : program.Reachable world)
    {worker : Nat} (pending : world.shared.state.pending worker ≠ []) :
    world.shared.state.flag worker = true ∨
      ∃ thread tenure seen,
        world.threads thread = some (.worker tenure (.swapped seen)) ∧
          tenure.worker = worker := by
  by_contra idle
  rw [not_or, Bool.not_eq_true] at idle
  obtain ⟨lowered, idle⟩ := idle
  obtain ⟨thread, found, running, ticks⟩ :=
    ticksKeeping.exists_owner reached ⟨pending, lowered⟩
  cases found with
  | worker tenure stage =>
      cases stage with
      | swapped seen => exact idle ⟨thread, tenure, seen, running, ticks⟩
      | _ => cases ticks
  | _ => cases ticks

/-- A thread that polls sees its flag up while something is pending. -/
theorem clear_of_polling (reached : program.Reachable world)
    {thread : Nat}
    (running : world.threads thread = some (.worker tenure .polling))
    (lowered : world.shared.state.flag tenure.worker = false) :
    world.shared.state.pending tenure.worker = [] := by
  by_contra pending
  rcases flagged_of_reachable reached pending with
    raised | ⟨other, found, seen, otherRunning, same⟩
  · rw [lowered] at raised
    cases raised
  · have different : thread ≠ other := by
      rintro rfl
      rw [running] at otherRunning
      cases otherRunning
    exact coreOwning.exclusive reached different running otherRunning
      ⟨rfl, rfl⟩ ⟨same, rfl⟩

theorem reports_of_reachable
    (reached : (program.restrict Allowed).Reachable world)
    {thread : Nat} {found : Thread}
    (running : world.threads thread = some found) :
    found.Reports world.shared := by
  refine (@Program.fits_invariant _ _ _ (program.restrict Allowed)
    (fun _ => True) Thread.Reports (fun _ _ => trivial) ?_ ?_ ?_ _
    reached).2 thread found running
  · rintro shared first _ rfl
    trivial
  · intro world thread current op next reached running acts _ here
    have reached := Program.reachable_of_restrict reached
    obtain ⟨sound, fits⟩ := fits_of_reachable reached
    refine ⟨trivial, reports_of_acts acts.1 acts.2 sound
      (fits thread current running) (unheard_of_reachable reached running)
      ?_ here⟩
    rintro tenure rfl lowered
    exact clear_of_polling reached running lowered
  · intro world thread bystander current op next held reached different
      running otherRunning acts _ mine here
    have reached := Program.reachable_of_restrict reached
    obtain ⟨sound, fits⟩ := fits_of_reachable reached
    cases held with
    | worker tenure stage =>
        refine reports_of_other acts.1 acts.2 sound mine
          (fits bystander _ otherRunning) ?_ ?_ here
        · exact numberOwning.exclusive reached different otherRunning
            running rfl
        · exact fun core => coreOwning.exclusive reached different
            otherRunning running ⟨rfl, core⟩
    | _ => trivial

/-- The thread that holds the core of a worker has called every observer
that its ticks have covered with the worker, once since it started it; and
an id is pending only where its flag or a tick tells. -/
structure Informed (world : World) : Prop where
  once : ∀ thread tenure stage,
    world.threads thread = some (.worker tenure stage) →
    stage.core = true → ∀ id ∈ world.shared.state.observers,
    id ∈ tenure.covered → tenure.heard.count id = 1
  flagged : ∀ worker, world.shared.state.pending worker ≠ [] →
    world.shared.state.flag worker = true ∨
      ∃ thread tenure seen,
        world.threads thread = some (.worker tenure (.swapped seen)) ∧
          tenure.worker = worker

namespace Shared

/-- One worker, whose core is in its slot. -/
def fresh : Shared where
  state := .new 1
  core := fun worker => worker = 0
  tenures := 0
  tenant := fun _ => none
  returned := ∅

theorem fresh_initial : fresh.Initial where
  state := rfl
  core := by
    intro worker found
    rw [of_decide_eq_true found]
    exact Nat.one_pos
  tenures := rfl
  tenant := fun _ => rfl
  returned := rfl

end Shared

/-- As long as nobody adds an observer in the name of a worker that another
thread has started, or takes back its core, all observers are informed. -/
theorem observers_areInformed {world : World}
    (reached : (program.restrict Allowed).Reachable world) :
    Informed world where
  once := by
    intro thread tenure stage running core id registered covered
    have below := Program.reachable_of_restrict reached
    by_cases taken : stage = .taken
    · subst taken
      rw [(unheard_of_reachable below running).2] at covered
      cases covered
    · obtain ⟨holds, reports⟩ := reports_of_reachable reached running taken
      obtain ⟨⟨once, told⟩, -⟩ := reports (holds core)
      obtain ⟨unpending, uncalled⟩ := told id covered
      have total := once id registered
      rwa [List.count_eq_zero_of_not_mem unpending,
        List.count_eq_zero_of_not_mem uncalled] at total
  flagged := fun worker pending => flagged_of_reachable
    (Program.reachable_of_restrict reached) pending

/-- An observer that is added from outside hears of the worker in the next
tick. -/
theorem observers_areInformed_of_tick :
    ∃ world tenure, world.threads 0 = some (.worker tenure .polling) ∧
      0 ∈ tenure.covered ∧ Informed world := by
  have fresh : (program.restrict Allowed).Reachable
      (World.quiet Shared.fresh) := .quiet Shared.fresh_initial
  have outside := fresh.fork 0 rfl rfl
  have taken := outside.move 0 rfl
    ⟨@Thread.Acts.run _ 0 rfl, trivial⟩
  have starting := taken.move 0 rfl
    ⟨.worker (@Stage.Acts.start _ _ [] List.nodup_nil rfl), trivial⟩
  have polling := starting.move 0 rfl ⟨.worker .started, trivial⟩
  have caller := polling.fork 1 rfl rfl
  have adding := caller.move 1 rfl ⟨.add, trivial⟩
  have added := adding.move 1 rfl ⟨.added, trivial⟩
  have swapped := added.move 0 rfl ⟨.worker (.swap rfl), trivial⟩
  have ticking := swapped.move 0 rfl ⟨.worker .take, trivial⟩
  have called := ticking.move 0 rfl ⟨.worker .callTicking, trivial⟩
  have ticked := called.move 0 rfl ⟨.worker .ticked, trivial⟩
  exact ⟨_, _, rfl, Finset.mem_insert_self 0 ∅,
    observers_areInformed ticked⟩

/-- A task in `block_in_place` adds an observer after another thread has
started its worker. -/
theorem not_forall_informed :
    ¬ ∀ world, program.Reachable world → Informed world := by
  intro informed
  have fresh : program.Reachable (World.quiet Shared.fresh) :=
    .quiet Shared.fresh_initial
  have outside := fresh.fork 0 rfl rfl
  have taken := outside.move 0 rfl (@Thread.Acts.run _ 0 rfl)
  have starting := taken.move 0 rfl
    (.worker (@Stage.Acts.start _ _ [] List.nodup_nil rfl))
  have polling := starting.move 0 rfl (.worker .started)
  have blocked := polling.move 0 rfl (.worker .blockInPlace)
  have other := blocked.fork 1 rfl rfl
  have otherTaken := other.move 1 rfl (@Thread.Acts.run _ 0 rfl)
  have otherStarting := otherTaken.move 1 rfl
    (.worker (@Stage.Acts.start _ _ [] List.nodup_nil rfl))
  have otherPolling := otherStarting.move 1 rfl (.worker .started)
  have adding := otherPolling.move 0 rfl (.worker .addBlocked)
  have called := adding.move 0 rfl (.worker .callAdding)
  have added := called.move 0 rfl (.worker .added)
  have ticked := added.move 1 rfl (.worker (.tickEarly rfl))
  have heard := (informed _ ticked).once 1 _ _ rfl rfl 0
    (Finset.mem_insert_self 0 ∅) (Finset.mem_insert_self 0 ∅)
  cases heard

end Telekio.Observers
