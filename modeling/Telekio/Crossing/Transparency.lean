import Telekio.Crossing.Machine

/-!
# Crossing artifacts is transparent

The thread-locals, the execution states and the frames behave like one
context that all artifacts share.
-/

namespace Telekio.Crossing

variable {state : ExecutionState} {context outer : Context}

/-- An accessor without an execution state works on its own context. -/
theorem run_of_none (access : Access) (context : Context) :
    access.run (context, none) =
      some (((access.onContext context).1, none),
        (access.onContext context).2) := by
  cases access <;> rfl

theorem read_budget_store (budget : Budget)
    (read : state.read = some context) :
    (budgetCell.store budget state).read =
      some { context with budget := budget } := by
  obtain ⟨before, -, rfl⟩ := Option.map_eq_some_iff.mp read
  exact congrArg (Option.map _) (Budget.fromTelekio_telekioValue budget)

theorem read_rng_store (rng : Option FastRand)
    (read : state.read = some context) :
    (rngCell.store rng state).read =
      some { context with rng := rng } := by
  obtain ⟨budget, valid, rfl⟩ := Option.map_eq_some_iff.mp read
  cases rng <;> simp [ExecutionState.read, rngCell, valid] <;> rfl

theorem read_runtime_store (runtime : EnterRuntime)
    (read : state.read = some context) :
    (runtimeCell.store runtime state).read =
      some { context with runtime := runtime } := by
  obtain ⟨budget, valid, rfl⟩ := Option.map_eq_some_iff.mp read
  simp only [ExecutionState.read, runtimeCell, valid,
    EnterRuntime.fromTelekio_telekioValue]
  rfl

/-- A cell that is borrowed holds the shared value in its body. -/
theorem borrow_of_load {α β : Type} (cell : Cell α) (body : Body β)
    {current : α} (loads : cell.load state = some current) :
    cell.borrow body (outer, some state) =
      (body (cell.set current outer, some state)).map
        fun ((after, stateAfter), result) =>
          ((cell.set (cell.get outer) after,
            stateAfter.map (cell.store (cell.get after))), result) := by
  rw [Cell.borrow, loads]
  rfl

/-- An accessor with an execution state reads and writes the shared context
there, and leaves its own context alone. -/
theorem run_of_read (access : Access) (outer : Context)
    (read : state.read = some context) :
    ∃ after, access.run (outer, some state) =
        some ((outer, some after), (access.onContext context).2) ∧
      after.read = some (access.onContext context).1 := by
  have budget : Budget.fromTelekio state.budget = some context.budget := by
    obtain ⟨budget, valid, rfl⟩ := Option.map_eq_some_iff.mp read
    exact valid
  have others : state.rng = context.rng ∧
      EnterRuntime.fromTelekio state.runtime = context.runtime ∧
      TaskId.fromTelekio state.taskId = context.currentTaskId := by
    obtain ⟨budget, valid, rfl⟩ := Option.map_eq_some_iff.mp read
    exact ⟨rfl, rfl, rfl⟩
  obtain ⟨rng, runtime, taskId⟩ := others
  cases access with
  | budget body =>
      refine ⟨budgetCell.store (body context.budget) state, ?_,
        read_budget_store _ read⟩
      rw [Access.run, borrow_of_load _ _ budget]
      rfl
  | rng body =>
      refine ⟨rngCell.store (body context.rng) state, ?_,
        read_rng_store _ read⟩
      rw [Access.run, borrow_of_load _ _ (congrArg some rng)]
      rfl
  | runtime body =>
      refine ⟨runtimeCell.store (body context.runtime) state, ?_,
        read_runtime_store _ read⟩
      rw [Access.run, borrow_of_load _ _ (congrArg some runtime)]
      rfl
  | enterRuntime body =>
      refine ⟨runtimeCell.store (body context.runtime context.rng).1
          (rngCell.store (body context.runtime context.rng).2 state), ?_,
        read_runtime_store _ (read_rng_store _ read)⟩
      rw [Access.run, borrow_of_load _ _ (congrArg some runtime),
        borrow_of_load _ _ (congrArg some rng)]
      rfl
  | taskId => exact ⟨state, by rw [Access.onContext, ← taskId]; rfl, read⟩
  | setTaskId id =>
      refine ⟨{ state with taskId := TaskId.telekioValue id }, ?_, ?_⟩
      · rw [Access.onContext, ← taskId]
        rfl
      · obtain ⟨before, valid, rfl⟩ := Option.map_eq_some_iff.mp read
        simp only [ExecutionState.read, valid,
          TaskId.fromTelekio_telekioValue]
        rfl

/-- The artifact inside a list of frames. -/
def artifactOf (frames : List Frame) : Artifact :=
  frames.head?.elim .host Frame.artifact

/-- The frames, with `ACTIVE`, the guests' `EXECUTION` and the top of the
states inside them: every reset restores what was there before its frame.
`base` is the guests' `EXECUTION` outside. -/
inductive Nested (base : Nat → Option Nat) :
    List Frame → Option Nat → (Nat → Option Nat) → Nat → Prop
  | outside : Nested base [] none base 0
  | enter {frames : List Frame} {active : Option Nat}
      {execution : Nat → Option Nat} {top guest : Nat}
      {reset : ExecutionReset} {panic : List Artifact}
      (inside : Nested base frames active execution top)
      (onHost : artifactOf frames = .host) :
      Nested base
        (.entered guest (some (⟨top, active⟩, reset))
          ⟨top, execution guest, panic⟩ :: frames)
        (some top) (Function.update execution guest (some top)) (top + 1)
  | reuse {frames : List Frame} {active : Nat}
      {execution : Nat → Option Nat} {top guest : Nat}
      {panic : List Artifact}
      (inside : Nested base frames (some active) execution top)
      (onHost : artifactOf frames = .host) :
      Nested base
        (.entered guest none ⟨active, execution guest, panic⟩ :: frames)
        (some active) (Function.update execution guest (some active)) top
  | nest {frames : List Frame} {active : Nat}
      {execution : Nat → Option Nat} {top guest : Nat}
      {panic : List Artifact}
      (inside : Nested base frames (some active) execution top)
      (onGuest : artifactOf frames = .guest guest) :
      Nested base
        (.nested guest ⟨active, execution guest, panic⟩ :: frames)
        (some active) (Function.update execution guest (some active)) top
  | call {frames : List Frame} {active : Option Nat}
      {execution : Nat → Option Nat} {top guest : Nat}
      (inside : Nested base frames active execution top)
      (onGuest : artifactOf frames = .guest guest) :
      Nested base (.called guest :: frames) active execution top

variable {base execution : Nat → Option Nat} {frames : List Frame}
variable {active : Option Nat} {top : Nat}

/-- Wherever a guest runs, it finds the active state of the host. -/
theorem execution_of_nested
    (nested : Nested base frames active execution top) {guest : Nat}
    (onGuest : artifactOf frames = .guest guest) :
    ∃ pointer, active = some pointer ∧ execution guest = some pointer := by
  cases nested with
  | outside => cases onGuest
  | enter | reuse | nest =>
      cases onGuest
      exact ⟨_, rfl, Function.update_self _ _ _⟩
  | call => cases onGuest

/-- The machine is at `places` of a well-nested run whose shared context is
`context`. -/
structure Related (start machine : Machine) (places : Places)
    (shared : SharedContext) : Prop where
  places : machine.frames.map Frame.artifact = places
  nested : Nested start.execution machine.frames machine.active
    machine.execution machine.top
  idle : machine.active = none → machine.host = shared.context
  current : ∀ pointer, machine.active = some pointer →
    (machine.states pointer).read = some shared.context
  guests : machine.guests = start.guests
  observed : machine.observed = shared.observed
  entries : ∀ entry, entry ∈ machine.entries →
    entry.execution = some entry.supplied

variable {start machine : Machine} {places : Places}
variable {shared : SharedContext}

namespace Related

/-- All artifacts work on the active state of the host. -/
theorem executionState (related : Related start machine places shared) :
    machine.executionState = machine.active := by
  unfold Machine.executionState
  cases onGuest : machine.artifact with
  | host => rfl
  | guest guest =>
      obtain ⟨pointer, active, found⟩ :=
        execution_of_nested related.nested onGuest
      exact found.trans active.symm

theorem artifact_of_idle (related : Related start machine places shared)
    (idle : machine.active = none) : machine.artifact = .host := by
  cases onGuest : machine.artifact with
  | host => rfl
  | guest guest =>
      obtain ⟨pointer, active, -⟩ :=
        execution_of_nested related.nested onGuest
      rw [idle] at active
      cases active

theorem head? (related : Related start machine places shared) :
    machine.artifact = places.head?.getD .host := by
  rw [← related.places, Machine.artifact]
  cases machine.frames <;> rfl

end Related

theorem setContext_context (machine : Machine) :
    machine.setContext machine.context = machine := by
  unfold Machine.setContext Machine.context
  cases machine.artifact with
  | host => rfl
  | guest guest => simp

/-- An access is one on the shared context. -/
theorem related_access (related : Related start machine places shared)
    (access : Access) (exit : Exit) :
    ∃ after, machine.step (.access access exit) = some after ∧
      Related start after places (shared.step (.access access exit)) := by
  have pointer := related.executionState
  obtain ⟨samePlaces, nested, idle, current, guests, observed, entries⟩ :=
    id related
  cases active : machine.active with
  | none =>
      rw [active] at pointer
      have onHost := related.artifact_of_idle active
      have host : machine.context = shared.context := by
        rw [Machine.context, onHost]
        exact idle active
      have ran := run_of_none access shared.context
      refine ⟨{ machine with
          host := (access.onContext shared.context).1
          observed := machine.observed ++
            (access.onContext shared.context).2 }, ?_, ?_⟩
      · simp [Machine.step, Machine.access, pointer, host, ran,
          Machine.setContext, onHost]
      · exact ⟨samePlaces, nested, fun _ => rfl,
          fun found isActive => by simp [active] at isActive, guests,
          congrArg (· ++ _) observed, entries⟩
  | some found =>
      rw [active] at pointer
      obtain ⟨after, ran, read⟩ :=
        run_of_read access machine.context (current found active)
      refine ⟨{ machine.setState found after with
          observed := machine.observed ++
            (access.onContext shared.context).2 }, ?_, ?_⟩
      · simp [Machine.step, Machine.access, pointer, ran,
          setContext_context]
      · refine ⟨samePlaces, nested, fun none => ?_, ?_, guests,
          congrArg (· ++ _) observed, entries⟩
        · exact absurd (active.symm.trans none) (Option.some_ne_none _)
        · intro other isActive
          obtain rfl := Option.some.inj (active.symm.trans isActive)
          exact (congrArg ExecutionState.read
            (Function.update_self _ _ _)).trans read

/-! ## Entering and leaving -/

/-- A panic record does not change what a state says of the cells. -/
theorem read_update_panic {states : Nat → ExecutionState}
    {pointer found : Nat} {panic : List Artifact}
    (read : (states found).read = some context) :
    (Function.update states pointer
      { states pointer with panic := panic } found).read =
        some context := by
  by_cases same : found = pointer
  · subst same
    rw [Function.update_self]
    exact read
  · rw [Function.update_of_ne same]
    exact read

/-- `with` reuses the active state; otherwise `enter` makes a new one. -/
theorem supply_cases (machine : Machine) (task tracing : Bool) :
    (∃ pointer, machine.active = some pointer ∧
      machine.supply task tracing = (machine, pointer, none)) ∨
    machine.supply task tracing = ((machine.enter tracing).1, machine.top,
      some (machine.enter tracing).2) := by
  cases task with
  | true => exact Or.inr rfl
  | false =>
      cases active : machine.active with
      | none => exact Or.inr (by simp [Machine.supply, active])
      | some pointer =>
          exact Or.inl ⟨pointer, rfl, by simp [Machine.supply, active]⟩

/-- The state that `enter` makes says what is shared. -/
theorem read_enter (related : Related start machine places shared)
    (tracing : Bool) :
    ((machine.enter tracing).1.states machine.top).read =
      some shared.context := by
  refine (congrArg ExecutionState.read
    (Function.update_self _ _ _)).trans ?_
  cases active : machine.active with
  | none =>
      rw [← related.idle active]
      exact ExecutionState.read_ofContext machine.host tracing
  | some pointer => exact related.current pointer active

/-- Entering a guest puts the supplied state into its `EXECUTION`. -/
theorem related_enter (related : Related start machine places shared)
    (task tracing : Bool) (guest : Nat)
    (onHost : machine.artifact = .host) :
    Related start (machine.enterGuest task tracing guest)
      (.guest guest :: places) shared := by
  obtain ⟨samePlaces, nested, idle, current, guests, observed, entries⟩ :=
    id related
  have entered (pointer : Nat) : ∀ entry, entry ∈ machine.entries ++
        [⟨guest, pointer, Function.update machine.execution guest
          (some pointer) guest⟩] →
      entry.execution = some entry.supplied := by
    intro entry member
    rcases List.mem_append.mp member with before | new
    · exact entries entry before
    · rw [List.mem_singleton.mp new]
      exact Function.update_self _ _ _
  rcases supply_cases machine task tracing with
    ⟨pointer, active, supplied⟩ | supplied
  · rw [active] at nested
    rw [Machine.enterGuest, supplied]
    refine ⟨congrArg _ samePlaces, ?_, ?_, ?_, guests, observed,
      entered pointer⟩
    · change Nested _ _ machine.active _ _
      rw [active]
      exact nested.reuse onHost
    · intro none
      exact absurd (active.symm.trans none) (Option.some_ne_none _)
    · intro found isActive
      exact read_update_panic (current found isActive)
  · rw [Machine.enterGuest, supplied]
    refine ⟨congrArg _ samePlaces, nested.enter onHost, nofun, ?_, guests,
      observed, entered machine.top⟩
    intro found isActive
    obtain rfl := Option.some.inj isActive
    exact read_update_panic (read_enter related tracing)

theorem related_nest (related : Related start machine places shared)
    {guest : Nat} (onGuest : machine.artifact = .guest guest) :
    ∃ after, machine.step .nest = some after ∧
      Related start after (.guest guest :: places) shared := by
  obtain ⟨samePlaces, nested, idle, current, guests, observed, entries⟩ :=
    id related
  obtain ⟨pointer, active, found⟩ := execution_of_nested nested onGuest
  have here := related.executionState.trans active
  rw [active] at nested
  refine ⟨_, by simp only [Machine.step, onGuest, here]; rfl, ?_⟩
  refine ⟨congrArg _ samePlaces, ?_, ?_, ?_, guests, observed, entries⟩
  · change Nested _ _ machine.active _ _
    rw [active]
    exact nested.nest onGuest
  · intro none
    exact absurd (active.symm.trans none) (Option.some_ne_none _)
  · intro found isActive
    exact read_update_panic (current found isActive)

theorem related_call (related : Related start machine places shared)
    {guest : Nat} (onGuest : machine.artifact = .guest guest) :
    ∃ after, machine.step .call = some after ∧
      Related start after (.host :: places) shared := by
  obtain ⟨samePlaces, nested, idle, current, guests, observed, entries⟩ :=
    related
  refine ⟨_, by simp only [Machine.step, onGuest]; rfl, ?_⟩
  exact ⟨congrArg _ samePlaces, nested.call onGuest, idle, current, guests,
    observed, entries⟩

/-- The drop of the host's `Reset` hands the shared context to the enclosing
call, or to the host's own `Context`. -/
theorem leave_of_read (enter : HostReset × ExecutionReset)
    (read : (machine.states enter.1.state).read = some context) :
    ∃ after, machine.leave enter = some after ∧
      after.frames = machine.frames ∧ after.active = enter.1.previous ∧
      after.execution = machine.execution ∧
      after.top = enter.1.state ∧ after.guests = machine.guests ∧
      after.observed = machine.observed ∧
      after.entries = machine.entries ∧
      (enter.1.previous = none → after.host = context) ∧
      ∀ pointer, enter.1.previous = some pointer →
        (after.states pointer).read = some context := by
  obtain ⟨⟨pointer, previous⟩, reset⟩ := enter
  have kept := @read_update_panic context machine.states reset.state
    pointer reset.panic read
  cases previous with
  | none =>
      let popped : Machine :=
        { machine.setState reset.state
            { machine.states reset.state with panic := reset.panic } with
          hostExecution := reset.previous }
      have left : machine.leave (⟨pointer, none⟩, reset) =
          (popped.states pointer).read.map fun context =>
            { popped with
              host := context
              active := none
              top := pointer }.recordForcedYields
                (popped.states pointer).forcedYields :=
        rfl
      rw [left, show (popped.states pointer).read = some context from kept]
      exact ⟨_, rfl, rfl, rfl, rfl, rfl, rfl, rfl, rfl, fun _ => rfl, nofun⟩
  | some previous =>
      refine ⟨_, rfl, rfl, rfl, rfl, rfl, rfl, rfl, rfl, nofun, ?_⟩
      rintro found isPrevious
      obtain rfl := Option.some.inj isPrevious
      simp only [Machine.states_recordForcedYields, Machine.setState,
        Function.update_self, ExecutionState.read_writeBack]
      exact kept

/-- Every frame is left the way it was entered. -/
theorem related_leave {place : Artifact}
    (related : Related start machine (place :: places) shared)
    (exit : Exit) :
    ∃ after, machine.step (.leave exit) = some after ∧
      Related start after places shared := by
  obtain ⟨samePlaces, nested, idle, current, guests, observed, entries⟩ :=
    related
  obtain ⟨host, cells, active, hostExecution, execution, states, top,
    frames, reads, entered, handles, recorded⟩ := machine
  simp only at samePlaces nested idle current guests observed entries
  cases nested with
  | outside => cases samePlaces
  | @enter frames active execution top guest reset panic inside onHost =>
      obtain ⟨after, left, sameFrames, sameActive, sameExecution, sameTop,
        sameGuests, sameReads, sameEntries, becomesIdle, becomesCurrent⟩ :=
        @leave_of_read shared.context
          { Machine.popExecution
              ⟨host, cells, some top, hostExecution,
                Function.update execution guest (some top), states, top + 1,
                .entered guest (some (⟨top, active⟩, reset))
                  ⟨top, execution guest, panic⟩ :: frames,
                reads, entered, handles, recorded⟩
              guest ⟨top, execution guest, panic⟩ with
            frames := frames }
          (⟨top, active⟩, reset)
          (@read_update_panic _ states top top panic (current top rfl))
      refine ⟨after, left, ?_, ?_, ?_, ?_, ?_, ?_, ?_⟩
      · rw [sameFrames]
        exact (List.cons.inj samePlaces).2
      · rw [sameFrames, sameActive, sameExecution, sameTop]
        simpa [Machine.popExecution] using inside
      · rw [sameActive]
        exact becomesIdle
      · rw [sameActive]
        exact becomesCurrent
      · exact sameGuests.trans guests
      · exact sameReads.trans observed
      · rw [sameEntries]
        exact entries
  | @reuse frames active execution top guest panic inside onHost =>
      refine ⟨_, rfl, (List.cons.inj samePlaces).2, ?_, nofun, ?_, guests,
        observed, entries⟩
      · change Nested _ frames (some active) (Function.update
          (Function.update execution guest (some active)) guest
          (execution guest)) top
        rw [Function.update_idem, Function.update_eq_self]
        exact inside
      · intro found isActive
        exact read_update_panic (current found isActive)
  | @nest frames active execution top guest panic inside onGuest =>
      refine ⟨_, rfl, (List.cons.inj samePlaces).2, ?_, nofun, ?_, guests,
        observed, entries⟩
      · change Nested _ frames (some active) (Function.update
          (Function.update execution guest (some active)) guest
          (execution guest)) top
        rw [Function.update_idem, Function.update_eq_self]
        exact inside
      · intro found isActive
        exact read_update_panic (current found isActive)
  | call inside onGuest =>
      exact ⟨_, rfl, (List.cons.inj samePlaces).2, inside, idle, current,
        guests, observed, entries⟩

/-- Every event of a well-nested run can happen, and acts on the shared
context. -/
theorem related_step {event : Event} {next : Places}
    (related : Related start machine places shared)
    (moves : event.move places = some next) :
    ∃ after, machine.step event = some after ∧
      Related start after next (shared.step event) := by
  have here := related.head?
  cases event with
  | access access exit =>
      obtain rfl := Option.some.inj moves
      exact related_access related access exit
  | enter task tracing guest =>
      have onHost : machine.artifact = .host := by
        cases place : places.head? with
        | none => simpa [place] using here
        | some place' =>
            cases place' with
            | host => simpa [place] using here
            | guest other => simp [Event.move, place] at moves
      obtain rfl : .guest guest :: places = next := by
        cases place : places.head? with
        | none => simpa [Event.move, place] using moves
        | some place' =>
            cases place' with
            | host => simpa [Event.move, place] using moves
            | guest other => simp [Event.move, place] at moves
      exact ⟨_, by simp only [Machine.step, onHost],
        related_enter related task tracing guest onHost⟩
  | nest =>
      cases place : places.head? with
      | none => simp [Event.move, place] at moves
      | some place' =>
          cases place' with
          | host => simp [Event.move, place] at moves
          | guest guest =>
              obtain rfl : .guest guest :: places = next := by
                simpa [Event.move, place] using moves
              exact related_nest related (by simpa [place] using here)
  | call =>
      cases place : places.head? with
      | none => simp [Event.move, place] at moves
      | some place' =>
          cases place' with
          | host => simp [Event.move, place] at moves
          | guest guest =>
              obtain rfl : .host :: places = next := by
                simpa [Event.move, place] using moves
              exact related_call related (by simpa [place] using here)
  | leave exit =>
      cases places with
      | nil => cases moves
      | cons place places =>
          obtain rfl := Option.some.inj moves
          exact related_leave related exit

theorem related_start (host : Context) (guests : Nat → Context)
    (execution : Nat → Option Nat) :
    Related (Machine.start host guests execution)
      (Machine.start host guests execution) [] ⟨host, []⟩ where
  places := rfl
  nested := .outside
  idle := fun _ => rfl
  current := nofun
  guests := rfl
  observed := rfl
  entries := nofun

theorem related_run {events : List Event} {next : Places}
    (related : Related start machine places shared)
    (nests : events.foldlM Event.move places = some next) :
    ∃ after, machine.run events = some after ∧
      Related start after next (shared.run events) := by
  induction events generalizing machine places shared with
  | nil =>
      obtain rfl := Option.some.inj nests
      exact ⟨machine, rfl, related⟩
  | cons event rest inductionHypothesis =>
      rw [List.foldlM_cons] at nests
      obtain ⟨between, moves, nests⟩ := Option.bind_eq_some_iff.mp nests
      obtain ⟨stepped, ran, relatedStep⟩ := related_step related moves
      obtain ⟨after, ranRest, relatedRest⟩ :=
        inductionHypothesis relatedStep nests
      refine ⟨after, ?_, relatedRest⟩
      rw [Machine.run, List.foldlM_cons, ran]
      exact ranRest

/-- The thread behaves as if all artifacts shared one context: the run goes
through, every read returns what the shared context holds, the guests' cells
are as before, every guest finds the state that it was supplied with, and
outside all frames the host's `Context` holds the final values. -/
def Transparent (start : Machine) (events : List Event)
    (places : Places) : Prop :=
  ∃ after, start.run events = some after ∧
    after.observed =
      (SharedContext.run ⟨start.host, []⟩ events).observed ∧
    after.guests = start.guests ∧
    (∀ entry, entry ∈ after.entries →
      entry.execution = some entry.supplied) ∧
    (places = [] → after.active = none ∧
      after.execution = start.execution ∧
      after.host = (SharedContext.run ⟨start.host, []⟩ events).context)

/-- Crossing artifacts is transparent for the context of a thread, at every
point of every well-nested run. -/
theorem crossings_areTransparent (host : Context)
    (guests : Nat → Context) (execution : Nat → Option Nat)
    {events : List Event} {places : Places}
    (nests : Nests events places) :
    Transparent (Machine.start host guests execution) events places := by
  obtain ⟨after, ran, related⟩ :=
    related_run (related_start host guests execution) nests
  refine ⟨after, ran, related.observed, related.guests, related.entries, ?_⟩
  rintro rfl
  have nested := related.nested
  rw [List.map_eq_nil_iff.mp related.places] at nested
  generalize active : after.active = found at nested
  generalize inside : after.execution = found at nested
  generalize after.top = top at nested
  cases nested
  exact ⟨rfl, rfl, related.idle active⟩

/-- A guest spends budget and calls the host, which enters another guest with
the same state; the inner frames are left by a panic. -/
theorem crossings_areTransparent_of_calls :
    Transparent
      (Machine.start ⟨some 128, some ⟨1, 2⟩, .notEntered, none⟩
        (fun _ => ⟨none, none, .notEntered, none⟩) fun _ => none)
      [.enter true false 3, .access (.budget fun _ => some 7) .normal, .call,
        .access (.budget id) .normal, .enter false false 4,
        .access (.rng fun _ => none) .panic, .leave .panic, .leave .panic,
        .access (.setTaskId none) .normal, .leave .normal] [] :=
  crossings_areTransparent _ _ _ rfl

end Telekio.Crossing
