import Mathlib.Algebra.Ring.Nat
import Telekio.Crossing.Transparency

/-!
# Forced yields

`forced_yield` of `guest/task/coop/mod.rs`. A guest counts a yield that its
budget has forced in the state that it was entered with; the drop of the
host's `Reset` hands the count over to the metrics of the host's current
runtime, or drops it when there is none.
-/

namespace Telekio.Crossing

namespace Machine

variable (machine : Machine)

/-- Tokio counts a yield for its current handle. A guest without a state
counts in metrics of its own. -/
def forcedYield : Machine :=
  match machine.artifact with
  | .host => machine.countYields .host 1
  | .guest guest =>
      match machine.handles (.guest guest), machine.execution guest with
      | none, _ => machine
      | some _, none => machine.countYields (.guest guest) 1
      | some _, some pointer =>
          let state := machine.states pointer
          machine.setState pointer
            { state with forcedYields := state.forcedYields + 1 }

/-- The counts in the states, by their places. -/
def yieldsAt (pointer : Nat) : Nat :=
  (machine.states pointer).forcedYields

/-- What is counted in the states on the stack, the last one first. -/
def counts : List Nat :=
  ((List.range machine.top).map machine.yieldsAt).reverse

end Machine

/-- The events of a thread, with forced yields between them. `current` is a
change of the current handle, which the running Tokio makes. -/
inductive Happening where
  | crossing (event : Event)
  | current (handle : Option Nat)
  | forcedYield

def Happening.event : Happening → Option Event
  | .crossing event => some event
  | .current _ | .forcedYield => none

def Happening.isYield : Happening → Bool
  | .crossing _ | .current _ => false
  | .forcedYield => true

namespace Machine

def setCurrent (machine : Machine) (handle : Option Nat) : Machine :=
  { machine with
    handles := Function.update machine.handles machine.artifact handle }

def happen (machine : Machine) : Happening → Option Machine
  | .crossing event => machine.step event
  | .current handle => some (machine.setCurrent handle)
  | .forcedYield => some machine.forcedYield

def happens (machine : Machine) (happenings : List Happening) :
    Option Machine :=
  happenings.foldlM happen machine

end Machine

/-- The bookkeeping without states and resets: each frame with whether it
counts for itself, the counts that are open, the runtimes for which the host
has counted, and what nothing has counted. -/
structure Tally where
  handles : Artifact → Option Nat
  frames : List (Artifact × Bool)
  counts : List Nat
  recorded : List Nat
  dropped : Nat

namespace Tally

variable (tally : Tally)

def start : Tally where
  handles := fun _ => none
  frames := []
  counts := []
  recorded := []
  dropped := 0

/-- The artifact whose code is running. -/
def artifact : Artifact :=
  tally.frames.head?.elim .host Prod.fst

def handle : Option Nat :=
  tally.handles tally.artifact

/-- A count belongs to the current runtime of the host. -/
def handOver (count : Nat) : Tally :=
  match tally.handles .host with
  | some runtime =>
      { tally with
        recorded := tally.recorded ++ List.replicate count runtime }
  | none => { tally with dropped := tally.dropped + count }

def enter (artifact : Artifact) (counting : Bool) : Tally :=
  { tally with
    frames := (artifact, counting) :: tally.frames
    counts := if counting then 0 :: tally.counts else tally.counts }

def leave : Tally :=
  match tally.frames with
  | [] => tally
  | (_, false) :: frames => { tally with frames := frames }
  | (_, true) :: frames =>
      { tally with
        frames := frames
        counts := tally.counts.tail }.handOver (tally.counts.headD 0)

def forcedYield : Tally :=
  match tally.handle, tally.artifact with
  | none, _ => tally
  | some _, .host => tally.handOver 1
  | some _, .guest _ =>
      { tally with counts := tally.counts.modifyHead Nat.succ }

def next (tally : Tally) : Happening → Tally
  | .crossing (.access _ _) => tally
  | .crossing (.enter task _ guest) =>
      tally.enter (.guest guest) (task || tally.counts.isEmpty)
  | .crossing .nest => tally.enter tally.artifact false
  | .crossing .call => tally.enter .host false
  | .crossing (.leave _) => tally.leave
  | .current handle =>
      { tally with
        handles := Function.update tally.handles tally.artifact handle }
  | .forcedYield => tally.forcedYield

def run (tally : Tally) (happenings : List Happening) : Tally :=
  happenings.foldl next tally

/-- The forced yields that Tokio makes with a current handle. -/
def noticed (tally : Tally) : List Happening → Nat
  | [] => 0
  | first :: rest =>
      (if first.isYield && tally.handle.isSome then 1 else 0) +
        (tally.next first).noticed rest

def total : Nat :=
  tally.recorded.length + tally.counts.sum + tally.dropped

end Tally

/-- The host has a current handle whenever a frame is left. -/
def Attended (tally : Tally) (happenings : List Happening) : Prop :=
  ∀ earlier exit later,
    happenings = earlier ++ .crossing (.leave exit) :: later →
      ((tally.run earlier).handles .host).isSome

/-- The metrics of a machine after a run that ends in `places`: those of the
host have counted what the bookkeeping says, and those of the guests nothing.
Every yield that was noticed is in the metrics, in a frame, or dropped; outside
all frames no count is open, and none is dropped if the host always had a
current handle. -/
structure Accounted (machine : Machine) (happenings : List Happening)
    (places : Places) : Prop where
  recorded : machine.recorded .host = (Tally.start.run happenings).recorded
  guests : ∀ guest, machine.recorded (.guest guest) = []
  total : (Tally.start.run happenings).total =
    Tally.start.noticed happenings
  settled : places = [] → (Tally.start.run happenings).counts = []
  dropped : Attended Tally.start happenings →
    (Tally.start.run happenings).dropped = 0

variable {machine after start : Machine} {places : Places}
variable {shared : SharedContext} {tally : Tally}

theorem counts_of_top {last : Nat} (top : machine.top = last + 1) :
    machine.counts = machine.yieldsAt last ::
      ((List.range last).map machine.yieldsAt).reverse := by
  simp [Machine.counts, top, List.range_succ]

/-- Nothing has been counted. -/
structure SameCounts (machine after : Machine) : Prop where
  handles : after.handles = machine.handles
  recorded : after.recorded = machine.recorded
  top : after.top = machine.top
  yieldsAt : after.yieldsAt = machine.yieldsAt

namespace SameCounts

variable {middle : Machine}

theorem trans (first : SameCounts machine middle)
    (second : SameCounts middle after) : SameCounts machine after :=
  ⟨second.handles.trans first.handles, second.recorded.trans first.recorded,
    second.top.trans first.top, second.yieldsAt.trans first.yieldsAt⟩

theorem counts (same : SameCounts machine after) :
    after.counts = machine.counts := by
  rw [Machine.counts, same.top, same.yieldsAt]
  rfl

theorem setState {pointer : Nat} {state : ExecutionState}
    (same : state.forcedYields = machine.yieldsAt pointer) :
    SameCounts machine (machine.setState pointer state) := by
  refine ⟨rfl, rfl, rfl, ?_⟩
  funext other
  change (Function.update machine.states pointer state other).forcedYields =
    (machine.states other).forcedYields
  by_cases here : other = pointer
  · subst here
    rw [Function.update_self]
    exact same
  · rw [Function.update_of_ne here]

theorem setContext (context : Context) :
    SameCounts machine (machine.setContext context) := by
  unfold Machine.setContext
  cases machine.artifact <;> exact ⟨rfl, rfl, rfl, rfl⟩

end SameCounts

/-- A body that leaves the count of its state alone. -/
def Quiet {α : Type} (body : Body α) : Prop :=
  ∀ context state view result,
    body (context, some state) = some (view, result) →
      ∃ after, view.2 = some after ∧
        after.forcedYields = state.forcedYields

theorem quiet_body (access : Access) : Quiet access.body := by
  intro context state view result ran
  cases ran
  exact ⟨state, rfl, rfl⟩

theorem quiet_borrow {α β : Type} {cell : Cell α} {body : Body β}
    (stores : ∀ value state,
      (cell.store value state).forcedYields = state.forcedYields)
    (quiet : Quiet body) : Quiet (cell.borrow body) := by
  intro context state view result ran
  obtain ⟨current, -, ran⟩ := Option.bind_eq_some_iff.mp ran
  obtain ⟨⟨inner, value⟩, did, same⟩ := Option.map_eq_some_iff.mp ran
  cases same
  obtain ⟨after, left, kept⟩ := quiet _ _ _ _ did
  refine ⟨_, congrArg (Option.map _) left, ?_⟩
  rw [stores, kept]

theorem store_rng (rng : Option FastRand) (state : ExecutionState) :
    (rngCell.store rng state).forcedYields = state.forcedYields := by
  cases rng <;> rfl

theorem quiet_run (access : Access) : Quiet access.run := by
  cases access with
  | budget body => exact quiet_borrow (fun _ _ => rfl) (quiet_body _)
  | rng body => exact quiet_borrow store_rng (quiet_body _)
  | runtime body => exact quiet_borrow (fun _ _ => rfl) (quiet_body _)
  | enterRuntime body =>
      exact quiet_borrow (fun _ _ => rfl)
        (quiet_borrow store_rng (quiet_body _))
  | taskId =>
      rintro context state view result ⟨⟩
      exact ⟨_, rfl, rfl⟩
  | setTaskId id =>
      rintro context state view result ⟨⟩
      exact ⟨_, rfl, rfl⟩

theorem sameCounts_access {access : Access}
    (ran : machine.access access = some after) :
    SameCounts machine after := by
  obtain ⟨⟨⟨context, state⟩, observed⟩, did, rfl⟩ :=
    Option.map_eq_some_iff.mp ran
  have written := @SameCounts.setContext machine context
  cases found : machine.executionState with
  | none =>
      exact ⟨written.handles, written.recorded, written.top,
        written.yieldsAt⟩
  | some pointer =>
      rw [found] at did
      obtain ⟨stored, left, kept⟩ := quiet_run access _ _ _ _ did
      obtain rfl : state = some stored := left
      have same := written.trans (@SameCounts.setState _ pointer stored (by
        rw [written.yieldsAt]
        exact kept))
      exact ⟨same.handles, same.recorded, same.top, same.yieldsAt⟩

/-- A panic record does not change a count. -/
theorem sameCounts_pushExecution {guest pointer : Nat} :
    SameCounts machine (machine.pushExecution guest pointer).1 := by
  have same := @SameCounts.setState machine pointer
    { machine.states pointer with
      panic := .guest guest :: (machine.states pointer).panic } rfl
  exact ⟨rfl, rfl, rfl, same.yieldsAt⟩

theorem sameCounts_popExecution {guest : Nat} {reset : ExecutionReset} :
    SameCounts machine (machine.popExecution guest reset) := by
  have same := @SameCounts.setState machine reset.state
    { machine.states reset.state with panic := reset.panic } rfl
  exact ⟨rfl, rfl, rfl, same.yieldsAt⟩

/-- A new state counts nothing yet. -/
theorem counts_enter {tracing : Bool} :
    (machine.enter tracing).1.counts = 0 :: machine.counts := by
  have zero : (machine.enter tracing).1.yieldsAt machine.top = 0 := by
    change (Function.update machine.states machine.top _
      machine.top).forcedYields = 0
    rw [Function.update_self]
    cases machine.active <;> rfl
  have others : ∀ pointer ∈ List.range machine.top,
      (machine.enter tracing).1.yieldsAt pointer =
        machine.yieldsAt pointer := by
    intro pointer member
    have below : pointer ≠ machine.top :=
      Nat.ne_of_lt (List.mem_range.mp member)
    change (Function.update machine.states machine.top _
      pointer).forcedYields = (machine.states pointer).forcedYields
    rw [Function.update_of_ne below]
  rw [@counts_of_top (machine.enter tracing).1 machine.top rfl, zero,
    List.map_congr_left others]
  rfl

/-- The drop of a `Reset` takes the last count and hands it over. -/
structure HandsOver (machine after : Machine) : Prop where
  handles : after.handles = machine.handles
  frames : after.frames = machine.frames
  counts : after.counts = machine.counts.tail
  recorded : after.recorded =
    (machine.recordForcedYields (machine.counts.headD 0)).recorded

theorem handsOver_reset {reset : HostReset}
    (top : machine.top = reset.state + 1)
    (ran : machine.reset reset = some after) : HandsOver machine after := by
  have last := counts_of_top top
  unfold Machine.reset at ran
  cases previous : reset.previous with
  | none =>
      rw [previous] at ran
      obtain ⟨context, -, rfl⟩ := Option.map_eq_some_iff.mp ran
      refine ⟨rfl, rfl, ?_, ?_⟩
      · rw [last]
        rfl
      · rw [last]
        rfl
  | some outer =>
      rw [previous] at ran
      obtain rfl := Option.some.inj ran
      have kept := @SameCounts.setState machine outer
        ((machine.states reset.state).writeBack (machine.states outer)) rfl
      refine ⟨rfl, rfl, ?_, ?_⟩
      · rw [last]
        exact congrArg (fun yieldsAt =>
          ((List.range reset.state).map yieldsAt).reverse) kept.yieldsAt
      · rw [last]
        rfl

theorem handsOver_leave {enter : HostReset × ExecutionReset}
    (top : machine.top = enter.1.state + 1)
    (ran : machine.leave enter = some after) : HandsOver machine after := by
  have same := @SameCounts.setState machine enter.2.state
    { machine.states enter.2.state with panic := enter.2.panic } rfl
  have resets := @handsOver_reset
    { machine.setState enter.2.state
        { machine.states enter.2.state with panic := enter.2.panic } with
      hostExecution := enter.2.previous } _ _ top ran
  refine ⟨resets.handles, resets.frames, ?_, ?_⟩
  · exact resets.counts.trans (congrArg List.tail same.counts)
  · refine resets.recorded.trans ?_
    exact congrArg (fun counts : List Nat =>
      (machine.recordForcedYields (counts.headD 0)).recorded) same.counts

theorem top_of_active {base execution : Nat → Option Nat}
    {frames : List Frame} {active : Option Nat} {top pointer : Nat}
    (nested : Nested base frames active execution top)
    (found : active = some pointer) : top = pointer + 1 := by
  induction nested with
  | outside => cases found
  | enter inside onHost ih =>
      cases found
      rfl
  | reuse inside onHost ih =>
      cases found
      exact ih rfl
  | nest inside onGuest ih =>
      cases found
      exact ih rfl
  | call inside onGuest ih => exact ih found

theorem top_of_idle {base execution : Nat → Option Nat}
    {frames : List Frame} {active : Option Nat} {top : Nat}
    (nested : Nested base frames active execution top)
    (idle : active = none) : top = 0 := by
  induction nested with
  | outside => rfl
  | enter | reuse | nest => cases idle
  | call inside onGuest ih => exact ih idle

/-- The state of a frame that `enter` has made is the last one. -/
theorem top_of_nested {base execution : Nat → Option Nat}
    {frames : List Frame} {active : Option Nat} {top guest : Nat}
    {enter : HostReset × ExecutionReset} {reset : ExecutionReset}
    (nested : Nested base (.entered guest (some enter) reset :: frames)
      active execution top) : top = enter.1.state + 1 := by
  cases nested
  rfl

theorem counts_isEmpty (related : Related start machine places shared) :
    machine.counts.isEmpty = machine.active.isNone := by
  cases active : machine.active with
  | none =>
      have top := top_of_idle related.nested active
      simp [Machine.counts, top]
  | some pointer =>
      rw [counts_of_top (top_of_active related.nested active)]
      rfl

/-! ## The bookkeeping -/

/-- Whether a frame has a state of its own. -/
def Frame.counting : Frame → Bool
  | .entered _ enter _ => enter.isSome
  | .nested _ _ | .called _ => false

/-- The machine counts what the bookkeeping says. -/
structure Tallied (machine : Machine) (tally : Tally) : Prop where
  handles : machine.handles = tally.handles
  frames : machine.frames.map
    (fun frame => (frame.artifact, frame.counting)) = tally.frames
  counts : machine.counts = tally.counts
  recorded : machine.recorded .host = tally.recorded
  guests : ∀ guest, machine.recorded (.guest guest) = []

namespace Tally

@[simp]
theorem handles_handOver (count : Nat) :
    (tally.handOver count).handles = tally.handles := by
  unfold handOver
  split <;> rfl

@[simp]
theorem frames_handOver (count : Nat) :
    (tally.handOver count).frames = tally.frames := by
  unfold handOver
  split <;> rfl

@[simp]
theorem counts_handOver (count : Nat) :
    (tally.handOver count).counts = tally.counts := by
  unfold handOver
  split <;> rfl

theorem total_handOver (count : Nat) :
    (tally.handOver count).total = tally.total + count := by
  unfold handOver total
  split
  · simp only [List.length_append, List.length_replicate]
    omega
  · exact (Nat.add_assoc _ _ _).symm

end Tally

namespace Tallied

theorem artifact (tallied : Tallied machine tally) :
    machine.artifact = tally.artifact := by
  rw [Tally.artifact, ← tallied.frames, Machine.artifact]
  cases machine.frames <;> rfl

theorem same (tallied : Tallied machine tally)
    (same : SameCounts machine after)
    (frames : after.frames = machine.frames) : Tallied after tally where
  handles := same.handles.trans tallied.handles
  frames := by rw [frames, tallied.frames]
  counts := same.counts.trans tallied.counts
  recorded := by rw [same.recorded, tallied.recorded]
  guests := by
    rw [same.recorded]
    exact tallied.guests

theorem recordForcedYields (tallied : Tallied machine tally) (count : Nat) :
    Tallied (machine.recordForcedYields count) (tally.handOver count) where
  handles := by
    rw [Tally.handles_handOver]
    exact tallied.handles
  frames := by
    rw [Tally.frames_handOver]
    exact tallied.frames
  counts := by
    rw [Tally.counts_handOver]
    exact tallied.counts
  recorded := by
    simp only [Machine.recordForcedYields, Machine.countYields,
      Tally.handOver, tallied.handles]
    cases tally.handles .host with
    | none => exact tallied.recorded
    | some runtime =>
        simp only [Option.elim_some, Function.update_self]
        rw [tallied.recorded]
  guests := by
    intro guest
    simp only [Machine.recordForcedYields, Machine.countYields]
    cases machine.handles .host with
    | none => exact tallied.guests guest
    | some runtime =>
        have other : Artifact.guest guest ≠ .host := by simp
        simp only [Option.elim_some, Function.update_of_ne other]
        exact tallied.guests guest

theorem handsOver (tallied : Tallied machine tally)
    (hands : HandsOver machine after) :
    Tallied after ({ tally with counts := tally.counts.tail }.handOver
      (tally.counts.headD 0)) := by
  have handed := tallied.recordForcedYields (tally.counts.headD 0)
  have recorded := hands.recorded
  rw [tallied.counts] at recorded
  refine ⟨?_, ?_, ?_, ?_, ?_⟩
  · rw [Tally.handles_handOver, hands.handles]
    exact tallied.handles
  · rw [Tally.frames_handOver, hands.frames]
    exact tallied.frames
  · rw [Tally.counts_handOver, hands.counts, tallied.counts]
  · rw [recorded, handed.recorded, Tally.handOver, Tally.handOver]
    cases tally.handles .host <;> rfl
  · rw [recorded]
    exact handed.guests

/-- A frame is entered, which may have a state of its own. -/
theorem enter {frame : Frame} (tallied : Tallied machine tally)
    (handles : after.handles = machine.handles)
    (recorded : after.recorded = machine.recorded)
    (frames : after.frames = frame :: machine.frames)
    (counts : after.counts =
      if frame.counting then 0 :: machine.counts else machine.counts) :
    Tallied after (tally.enter frame.artifact frame.counting) where
  handles := handles.trans tallied.handles
  frames := by
    rw [frames, List.map_cons, tallied.frames]
    rfl
  counts := by
    rw [counts, tallied.counts]
    rfl
  recorded := by
    rw [recorded]
    exact tallied.recorded
  guests := by
    rw [recorded]
    exact tallied.guests

end Tallied

/-! ## One event -/

theorem tallied_access {access : Access}
    (tallied : Tallied machine tally)
    (ran : machine.access access = some after) : Tallied after tally := by
  refine tallied.same (sameCounts_access ran) ?_
  obtain ⟨⟨⟨context, state⟩, observed⟩, -, rfl⟩ :=
    Option.map_eq_some_iff.mp ran
  have written : (machine.setContext context).frames = machine.frames := by
    unfold Machine.setContext
    cases machine.artifact <;> rfl
  refine Eq.trans ?_ written
  cases machine.executionState <;> cases state <;> rfl

/-- A call makes a state exactly when nothing is counted yet, or for a
task. -/
theorem supply_tallied (related : Related start machine places shared)
    (tallied : Tallied machine tally) (task tracing : Bool) :
    (task || tally.counts.isEmpty) =
      (machine.supply task tracing).2.2.isSome := by
  rw [← tallied.counts, counts_isEmpty related]
  cases task with
  | true => rfl
  | false => cases active : machine.active <;> simp [Machine.supply, active]

theorem supply_counts (machine : Machine) (task tracing : Bool) :
    (machine.supply task tracing).1.handles = machine.handles ∧
    (machine.supply task tracing).1.recorded = machine.recorded ∧
    (machine.supply task tracing).1.counts =
      if (machine.supply task tracing).2.2.isSome then 0 :: machine.counts
      else machine.counts := by
  rcases supply_cases machine task tracing with
    ⟨pointer, -, supplied⟩ | supplied
  · rw [supplied]
    exact ⟨rfl, rfl, rfl⟩
  · rw [supplied]
    exact ⟨rfl, rfl, counts_enter⟩

theorem tallied_enterGuest (related : Related start machine places shared)
    (tallied : Tallied machine tally) (task tracing : Bool) (guest : Nat) :
    Tallied (machine.enterGuest task tracing guest)
      (tally.next (.crossing (.enter task tracing guest))) := by
  rw [Tally.next, supply_tallied related tallied task tracing]
  obtain ⟨handles, recorded, counts⟩ := supply_counts machine task tracing
  have pushed := @sameCounts_pushExecution
    (machine.supply task tracing).1 guest (machine.supply task tracing).2.1
  exact @Tallied.enter machine (machine.enterGuest task tracing guest) tally
    (.entered guest (machine.supply task tracing).2.2
      ((machine.supply task tracing).1.pushExecution guest
        (machine.supply task tracing).2.1).2) tallied
    (pushed.handles.trans handles) (pushed.recorded.trans recorded) rfl
    (pushed.counts.trans counts)

theorem tallied_leave (related : Related start machine places shared)
    (tallied : Tallied machine tally) {exit : Exit}
    (ran : machine.step (.leave exit) = some after) :
    Tallied after tally.leave := by
  have nested := related.nested
  have frames := tallied.frames
  simp only [Machine.step] at ran
  cases inside : machine.frames with
  | nil =>
      rw [inside] at ran
      cases ran
  | cons frame rest =>
      rw [inside] at ran nested frames
      have left (other : Machine) (same : SameCounts machine other)
          (isRest : other.frames = rest) :
          Tallied other { tally with
            frames := rest.map fun frame =>
              (frame.artifact, frame.counting) } := by
        exact ⟨same.handles.trans tallied.handles,
          by rw [isRest], same.counts.trans tallied.counts,
          by rw [same.recorded, tallied.recorded],
          by rw [same.recorded]; exact tallied.guests⟩
      rw [Tally.leave, ← frames]
      cases frame with
      | entered guest enter reset =>
          have popped := @sameCounts_popExecution machine guest reset
          cases enter with
          | none =>
              obtain rfl := Option.some.inj ran
              exact left _ ⟨popped.handles, popped.recorded, popped.top,
                popped.yieldsAt⟩ rfl
          | some enter =>
              have before := left
                { machine.popExecution guest reset with frames := rest }
                ⟨popped.handles, popped.recorded, popped.top,
                  popped.yieldsAt⟩ rfl
              have hands := @handsOver_leave
                { machine.popExecution guest reset with frames := rest }
                after enter (top_of_nested nested) ran
              exact before.handsOver hands
      | nested guest reset =>
          have popped := @sameCounts_popExecution machine guest reset
          obtain rfl := Option.some.inj ran
          exact left _ ⟨popped.handles, popped.recorded, popped.top,
            popped.yieldsAt⟩ rfl
      | called guest =>
          obtain rfl := Option.some.inj ran
          exact left _ ⟨rfl, rfl, rfl, rfl⟩ rfl

theorem countYields_of_none {artifact : Artifact} {count : Nat}
    (none : machine.handles artifact = none) :
    machine.countYields artifact count = machine := by
  rw [Machine.countYields, none]
  rfl

theorem counts_of_guest (related : Related start machine places shared)
    {guest : Nat} (onGuest : machine.artifact = .guest guest) :
    ∃ pointer, machine.execution guest = some pointer ∧
      machine.top = pointer + 1 := by
  obtain ⟨pointer, active, found⟩ :=
    execution_of_nested related.nested onGuest
  exact ⟨pointer, found, top_of_active related.nested active⟩

theorem counts_setState {last : Nat} (top : machine.top = last + 1)
    (state : ExecutionState) :
    (machine.setState last state).counts =
      state.forcedYields :: machine.counts.tail := by
  have below : ∀ other ∈ List.range last,
      (machine.setState last state).yieldsAt other =
        machine.yieldsAt other := by
    intro other member
    have apart : other ≠ last := Nat.ne_of_lt (List.mem_range.mp member)
    change (Function.update machine.states last state other).forcedYields = _
    rw [Function.update_of_ne apart]
    rfl
  have here : (machine.setState last state).yieldsAt last =
      state.forcedYields := by
    change (Function.update machine.states last state last).forcedYields = _
    rw [Function.update_self]
  rw [@counts_of_top (machine.setState last state) last top,
    counts_of_top top, List.map_congr_left below, here]
  rfl

/-- A yield is one more in the last state. -/
theorem counts_yield {last : Nat} (top : machine.top = last + 1) :
    (machine.setState last
      { machine.states last with
        forcedYields := (machine.states last).forcedYields + 1 }).counts =
      machine.counts.modifyHead Nat.succ := by
  rw [counts_setState top, counts_of_top top]
  rfl

theorem tallied_forcedYield (related : Related start machine places shared)
    (tallied : Tallied machine tally) :
    Tallied machine.forcedYield tally.forcedYield := by
  rw [Machine.forcedYield, Tally.forcedYield, Tally.handle,
    ← tallied.artifact, ← tallied.handles]
  cases inside : machine.artifact with
  | host =>
      cases handle : machine.handles .host with
      | none =>
          simp only [countYields_of_none handle]
          exact tallied
      | some runtime => exact tallied.recordForcedYields 1
  | guest guest =>
      obtain ⟨pointer, found, top⟩ := counts_of_guest related inside
      cases handle : machine.handles (.guest guest) with
      | none =>
          simp only [handle]
          exact tallied
      | some runtime =>
          simp only [handle, found]
          exact ⟨rfl, tallied.frames,
            (counts_yield top).trans (congrArg _ tallied.counts),
            tallied.recorded, tallied.guests⟩

theorem related_forcedYield
    (related : Related start machine places shared) :
    Related start machine.forcedYield places shared := by
  unfold Machine.forcedYield
  cases onGuest : machine.artifact with
  | host => exact { related with }
  | guest guest =>
      obtain ⟨pointer, active, found⟩ :=
        execution_of_nested related.nested onGuest
      cases handle : machine.handles (.guest guest) with
      | none =>
          simp only [handle]
          exact related
      | some runtime =>
          simp only [handle, found]
          refine { related with current := ?_ }
          intro other isActive
          have read := related.current other isActive
          have kept : (Function.update machine.states pointer
              { machine.states pointer with
                forcedYields := (machine.states pointer).forcedYields + 1 }
              other).read = (machine.states other).read := by
            by_cases same : other = pointer
            · subst same
              rw [Function.update_self]
              rfl
            · rw [Function.update_of_ne same]
          exact kept.trans read

theorem tallied_step {event : Event}
    (related : Related start machine places shared)
    (tallied : Tallied machine tally)
    (ran : machine.step event = some after) :
    Tallied after (tally.next (.crossing event)) := by
  cases event with
  | access access exit => exact tallied_access tallied ran
  | enter task tracing guest =>
      simp only [Machine.step] at ran
      split at ran
      · obtain rfl := Option.some.inj ran
        exact tallied_enterGuest related tallied task tracing guest
      · cases ran
  | nest =>
      simp only [Machine.step] at ran
      split at ran
      · rename_i guest pointer onGuest found
        obtain rfl := Option.some.inj ran
        have pushed := @sameCounts_pushExecution machine guest pointer
        rw [Tally.next, ← tallied.artifact, onGuest]
        exact @Tallied.enter machine _ tally
          (.nested guest (machine.pushExecution guest pointer).2) tallied
          pushed.handles pushed.recorded rfl pushed.counts
      · cases ran
  | call =>
      simp only [Machine.step] at ran
      split at ran
      · rename_i guest onGuest
        obtain rfl := Option.some.inj ran
        exact @Tallied.enter machine _ tally (.called guest) tallied rfl rfl
          rfl rfl
      · cases ran
  | leave exit => exact tallied_leave related tallied ran

theorem tallied_setCurrent (tallied : Tallied machine tally)
    (handle : Option Nat) :
    Tallied (machine.setCurrent handle) (tally.next (.current handle)) := by
  refine ⟨?_, tallied.frames, tallied.counts, tallied.recorded,
    tallied.guests⟩
  rw [Machine.setCurrent, Tally.next, tallied.handles, tallied.artifact]

/-- Entering and leaving only move counts. -/
theorem total_crossing (tally : Tally) (event : Event) :
    (tally.next (.crossing event)).total = tally.total := by
  cases event with
  | access access exit => rfl
  | enter task tracing guest =>
      simp only [Tally.next, Tally.enter, Tally.total]
      split
      · rw [List.sum_cons, Nat.zero_add]
      · rfl
  | nest => rfl
  | call => rfl
  | leave exit =>
      simp only [Tally.next, Tally.leave]
      split
      · rfl
      · rfl
      · rw [Tally.total_handOver]
        cases counts : tally.counts with
        | nil => simp [Tally.total, counts]
        | cons last counts =>
            simp only [Tally.total, counts, List.tail_cons, List.headD_cons,
              List.sum_cons]
            omega

/-- A yield that is noticed is one more. -/
theorem total_forcedYield (related : Related start machine places shared)
    (tallied : Tallied machine tally) :
    tally.forcedYield.total =
      tally.total + if tally.handle.isSome then 1 else 0 := by
  unfold Tally.forcedYield
  cases handle : tally.handle with
  | none => rfl
  | some runtime =>
      cases inside : tally.artifact with
      | host => exact Tally.total_handOver 1
      | guest guest =>
          obtain ⟨pointer, -, top⟩ :=
            counts_of_guest related (tallied.artifact.trans inside)
          have counts := tallied.counts
          rw [counts_of_top top] at counts
          simp only [Tally.total, ← counts, List.modifyHead_cons,
            List.sum_cons, Nat.succ_eq_add_one, Option.isSome_some, if_true]
          omega

theorem total_next (related : Related start machine places shared)
    (tallied : Tallied machine tally) (first : Happening) :
    (tally.next first).total = tally.total +
      if first.isYield && tally.handle.isSome then 1 else 0 := by
  cases first with
  | crossing event => exact total_crossing tally event
  | current handle => rfl
  | forcedYield => exact total_forcedYield related tallied

/-- A count is dropped only when a frame is left without a current handle. -/
theorem dropped_run {happenings : List Happening}
    (attended : Attended tally happenings) :
    (tally.run happenings).dropped = tally.dropped := by
  induction happenings generalizing tally with
  | nil => rfl
  | cons first rest ih =>
      have later : Attended (tally.next first) rest := by
        rintro earlier exit later rfl
        exact attended (first :: earlier) exit later rfl
      refine (ih later).trans ?_
      cases first with
      | crossing event =>
          cases event with
          | access | enter | nest | call => rfl
          | leave exit =>
              obtain ⟨runtime, handle⟩ := Option.isSome_iff_exists.mp
                (attended [] exit rest rfl)
              simp only [Tally.next, Tally.leave]
              split
              · rfl
              · rfl
              · simp only [Tally.handOver, show tally.handles .host =
                  some runtime from handle]
      | current handle => rfl
      | forcedYield =>
          simp only [Tally.next, Tally.forcedYield]
          split
          · rfl
          · rename_i handle onHost
            rw [Tally.handle, onHost] at handle
            simp only [Tally.handOver, handle]
          · rfl

theorem happen_tallied {happening : Happening}
    (related : Related start machine places shared)
    (tallied : Tallied machine tally) {next : Places}
    (moves : happening.event.elim (some places) (Event.move places) =
      some next) :
    ∃ after left, machine.happen happening = some after ∧
      Related start after next left ∧
      Tallied after (tally.next happening) := by
  cases happening with
  | crossing event =>
      obtain ⟨after, ran, stepped⟩ := related_step related moves
      exact ⟨after, _, ran, stepped, tallied_step related tallied ran⟩
  | current handle =>
      obtain rfl := Option.some.inj moves
      exact ⟨_, shared, rfl, { related with },
        tallied_setCurrent tallied handle⟩
  | forcedYield =>
      obtain rfl := Option.some.inj moves
      exact ⟨_, shared, rfl, related_forcedYield related,
        tallied_forcedYield related tallied⟩

theorem happens_tallied {happenings : List Happening} {next : Places}
    (related : Related start machine places shared)
    (tallied : Tallied machine tally)
    (nests : (happenings.filterMap Happening.event).foldlM Event.move
      places = some next) :
    ∃ after left, machine.happens happenings = some after ∧
      Related start after next left ∧
      Tallied after (tally.run happenings) ∧
      (tally.run happenings).total =
        tally.total + tally.noticed happenings := by
  induction happenings generalizing machine places shared tally with
  | nil =>
      obtain rfl := Option.some.inj nests
      exact ⟨machine, shared, rfl, related, tallied, rfl⟩
  | cons first rest ih =>
      obtain ⟨between, moves, later⟩ : ∃ between,
          first.event.elim (some places) (Event.move places) =
            some between ∧
          (rest.filterMap Happening.event).foldlM Event.move between =
            some next := by
        cases first with
        | crossing event => exact Option.bind_eq_some_iff.mp nests
        | current handle => exact ⟨places, rfl, nests⟩
        | forcedYield => exact ⟨places, rfl, nests⟩
      obtain ⟨middle, seen, ran, relatedNext, talliedNext⟩ :=
        happen_tallied related tallied moves
      obtain ⟨after, left, ranRest, relatedRest, talliedRest, total⟩ :=
        ih relatedNext talliedNext later
      refine ⟨after, left, ?_, relatedRest, talliedRest, ?_⟩
      · rw [Machine.happens, List.foldlM_cons, ran]
        exact ranRest
      · refine total.trans ?_
        rw [total_next related tallied first]
        exact Nat.add_assoc _ _ _

theorem tallied_start (host : Context) (guests : Nat → Context)
    (execution : Nat → Option Nat) :
    Tallied (Machine.start host guests execution) Tally.start where
  handles := rfl
  frames := rfl
  counts := rfl
  recorded := rfl
  guests := fun _ => rfl

/-- In every well-nested run, with forced yields and changes of the current
handles anywhere in it and frames left by returns or panics: the run goes
through, and the metrics count what the bookkeeping says, no yield twice and
none that is not noticed. -/
theorem forcedYields_accounted (host : Context) (guests : Nat → Context)
    (execution : Nat → Option Nat) {happenings : List Happening}
    {places : Places}
    (nests : Nests (happenings.filterMap Happening.event) places) :
    ∃ after, (Machine.start host guests execution).happens happenings =
        some after ∧
      Accounted after happenings places := by
  obtain ⟨after, left, ran, related, tallied, total⟩ :=
    happens_tallied (related_start host guests execution)
      (tallied_start host guests execution) nests
  refine ⟨after, ran, tallied.recorded, tallied.guests, ?_, ?_, dropped_run⟩
  · exact total.trans (Nat.zero_add _)
  · rintro rfl
    have nested := related.nested
    rw [List.map_eq_nil_iff.mp related.places] at nested
    have outside : after.top = 0 := by
      generalize after.top = top at nested
      generalize after.active = active at nested
      generalize after.execution = inside at nested
      cases nested
      rfl
    rw [← tallied.counts, Machine.counts, outside]
    rfl

/-- A guest yields, calls the host, which enters it with a new state, where it
yields again and panics; later it yields on a thread that has no current
handle of the host any more. -/
theorem forcedYields_accounted_panic :
    ∃ after,
      (Machine.start ⟨some 128, none, .notEntered, none⟩
        (fun _ => ⟨none, none, .notEntered, none⟩)
        fun _ => none).happens
          [.current (some 5), .crossing (.enter true false 3),
            .current (some 0), .forcedYield, .crossing .call,
            .crossing (.enter true false 3), .forcedYield,
            .crossing (.leave .panic), .crossing (.leave .panic),
            .crossing (.leave .normal), .current none,
            .crossing (.enter false false 3), .forcedYield,
            .crossing (.leave .normal)] = some after ∧
      after.recorded .host = [5, 5] := by
  obtain ⟨after, ran, accounted⟩ := @forcedYields_accounted
    ⟨some 128, none, .notEntered, none⟩
    (fun _ => ⟨none, none, .notEntered, none⟩) (fun _ => none)
    [.current (some 5), .crossing (.enter true false 3),
      .current (some 0), .forcedYield, .crossing .call,
      .crossing (.enter true false 3), .forcedYield,
      .crossing (.leave .panic), .crossing (.leave .panic),
      .crossing (.leave .normal), .current none,
      .crossing (.enter false false 3), .forcedYield,
      .crossing (.leave .normal)] [] rfl
  exact ⟨after, ran, accounted.recorded⟩

end Telekio.Crossing
