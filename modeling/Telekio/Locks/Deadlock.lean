import Telekio.Interleave.Layer
import Telekio.Locks.Guards

/-!
# Deadlock of the locks

`runtime_block_on` takes a kind and then the mutex; a scan takes the mutex and
then the kinds. A scan only waits for readers when a writer waits among them:
the three together are the one way into a cycle.
-/

namespace Telekio.Locks

open Telekio.Interleave
open Telekio.Owner

variable {world : World} {shared : Shared} {op : Op}

/-- A scan waits for a runtime that a close waits for behind a call of
`runtime_block_on`. -/
def Exposed (shared : Shared) : Prop :=
  ∃ runtime, shared.scan = some (some runtime) ∧
    shared.queued runtime ≠ 0 ∧ shared.entered runtime ≠ 0

theorem scanning_locks {found : Thread} {scanning : Scanning}
    (scans : found.scanning = some scanning) :
    found.wants = scanning.wants ∧ found.reads = scanning.reads ∧
      found.writes = none := by
  cases found with
  | shutdown run => cases run <;> cases scans <;> exact ⟨rfl, rfl, rfl⟩
  | detach call =>
      cases call <;> cases scans
      exact ⟨rfl, rfl, rfl⟩
  | _ => cases scans

/-- Who writes a kind wants nothing. -/
theorem wants_of_writes {found : Thread} {runtime : RuntimeRef}
    (writes : found.writes = some runtime) : found.wants = none := by
  cases found with
  | close thread closed call =>
      cases call <;> cases writes
      rfl
  | build thread call =>
      cases call with
      | closing closed close =>
          cases close <;> cases writes
          rfl
      | _ => cases writes
  | worker thread closure =>
      cases closure with
      | closing job cleanup left closed close =>
          cases close <;> cases writes
          rfl
      | _ => cases writes
  | _ => cases writes

/-- Without a scan, who reads a kind and wants a lock is inside a runtime and
wants the mutex. -/
theorem wants_of_reads {found : Thread} {runtime : RuntimeRef}
    {lock : Lock} {mode : Mode}
    (idle : found.scanning = none) (reads : found.reads = some runtime)
    (wants : found.wants = some (lock, mode)) :
    ∃ thread call, found = .blockOn thread runtime call ∧
      call.inside = true ∧ lock = .state := by
  cases found with
  | blockOn thread entered call =>
      cases call <;> cases reads <;> cases wants <;>
        exact ⟨_, _, rfl, rfl, rfl⟩
  | build thread call =>
      cases call <;> cases reads
      cases wants
  | shutdown run => cases run <;> first | cases reads | cases idle
  | detach call => cases call <;> first | cases reads | cases idle
  | _ => cases reads

/-- A thread that holds a lock and wants another one is a call inside a
runtime that wants the mutex, or a scan that wants a kind. -/
theorem between_cases {found : Thread} {lock wanted : Lock}
    {mode later : Mode}
    (holds : locking.holds found lock = some mode)
    (wants : locking.wants found = some (wanted, later)) :
    (∃ thread runtime call, found = .blockOn thread runtime call ∧
      call.inside = true ∧ lock = .kind runtime ∧ wanted = .state) ∨
    ∃ scan runtime, found.scanning = some (.waiting scan runtime) ∧
      lock = .state ∧ wanted = .kind runtime ∧ later = .read := by
  change found.holds lock = some mode at holds
  change found.wants = some (wanted, later) at wants
  cases scans : found.scanning with
  | none =>
      cases lock with
      | state => simp [Thread.holds, scans] at holds
      | kind runtime =>
          by_cases writes : found.writes = some runtime
          · rw [wants_of_writes writes] at wants
            cases wants
          · by_cases reads : found.reads = some runtime
            · obtain ⟨thread, call, same, inside, mutex⟩ :=
                wants_of_reads scans reads wants
              exact Or.inl
                ⟨thread, runtime, call, same, inside, rfl, mutex⟩
            · simp [Thread.holds, writes, reads] at holds
  | some scanning =>
      obtain ⟨same, reads, writes⟩ := scanning_locks scans
      rw [same] at wants
      cases scanning with
      | waiting scan runtime =>
          cases wants
          refine Or.inr ⟨scan, runtime, rfl, ?_, rfl, rfl⟩
          cases lock with
          | state => rfl
          | kind other =>
              simp [Thread.holds, reads, writes, Scanning.reads] at holds
      | _ => cases wants

/-- A thread that waits to write a kind is counted. -/
theorem queues_of_wants {found : Thread} {runtime : RuntimeRef}
    (wants : found.wants = some (.kind runtime, .write)) :
    found.queues runtime ≠ 0 := by
  cases found with
  | blockOn thread entered call => cases call <;> cases wants
  | close thread closed call =>
      cases call <;> cases wants
      simp [Thread.queues, Close.queues]
  | build thread call =>
      cases call with
      | closing closed close =>
          cases close <;> cases wants
          simp [Thread.queues, Close.queues]
      | _ => cases wants
  | release id released => cases released <;> cases wants
  | shutdown run =>
      cases run with
      | cutting cleanup scan => cases scan <;> cases wants
      | listing cleanup scan => cases scan <;> cases wants
      | turnedAway cleanup => cases cleanup <;> cases wants
      | nothing cleanup => cases cleanup <;> cases wants
      | _ => cases wants
  | worker thread closure =>
      cases closure with
      | closing job cleanup left closed close =>
          cases close <;> cases wants
          simp [Thread.queues, Close.queues]
      | ending job cleanup succeeded =>
          cases cleanup <;> cases wants
      | _ => cases wants
  | detach call =>
      cases call with
      | scanning scan => cases scan <;> cases wants
      | _ => cases wants

/-- A call inside a runtime reads its kind and is counted. -/
theorem enters_of_inside {thread : Nat} {runtime : RuntimeRef}
    {call : BlockOn} (inside : call.inside = true) :
    (Thread.blockOn thread runtime call).enters runtime ≠ 0 := by
  simp [Thread.enters, inside]

theorem holds_of_inside {thread : Nat} {runtime : RuntimeRef}
    {call : BlockOn} (inside : call.inside = true) :
    (Thread.blockOn thread runtime call).holds (.kind runtime) =
      some .read := by
  cases call <;> cases inside <;>
    simp [Thread.holds, Thread.writes, Thread.reads, BlockOn.reads]

/-- Every cycle has a scan that waits. -/
theorem exists_scan_of_onCycle {thread : Nat}
    (cycle : locking.OnCycle world thread) :
    ∃ scanner found scan runtime, locking.OnCycle world scanner ∧
      world.threads scanner = some found ∧
      found.scanning = some (.waiting scan runtime) := by
  obtain ⟨next, ⟨waiter, holder, lock, mode, held, running, nextRunning,
    wants, holds, _⟩, later⟩ := cycle.exists_next
  obtain ⟨own, ownMode, owns⟩ := cycle.exists_holds running
  rcases between_cases owns wants with
    ⟨_, _, _, _, _, _, rfl⟩ | ⟨scan, runtime, scans, _⟩
  · obtain ⟨wanted, wantedMode, wantsNext⟩ :=
      later.exists_wants nextRunning
    rcases between_cases holds wantsNext with
      ⟨_, _, _, _, _, mutex, _⟩ | ⟨scan, runtime, scans, _⟩
    · cases mutex
    · exact ⟨next, holder, scan, runtime, later, nextRunning, scans⟩
  · exact ⟨thread, waiter, scan, runtime, cycle, running, scans⟩

/-- The threads of a cycle are exposed. -/
theorem exposed_of_deadlocked (reached : program.Reachable world)
    (dead : locking.Deadlocked world) : Exposed world.shared := by
  obtain ⟨thread, cycle⟩ := dead
  obtain ⟨scanner, found, scan, runtime, onCycle, running, scans⟩ :=
    exists_scan_of_onCycle cycle
  obtain ⟨next, ⟨waiter, holder, lock, mode, held, same, nextRunning,
    wants, holds, waits⟩, later⟩ := onCycle.exists_next
  rw [running] at same
  cases same
  have wantsKind : found.wants = some (.kind runtime, .read) :=
    (scanning_locks scans).1
  obtain ⟨rfl, rfl⟩ := Prod.mk.inj
    (Option.some.inj (wantsKind.symm.trans wants))
  obtain ⟨wanted, wantedMode, wantsNext⟩ := later.exists_wants nextRunning
  rcases between_cases holds wantsNext with
    ⟨inner, entered, call, rfl, inside, kind, _⟩ | ⟨_, _, _, kind, _⟩
  · cases kind
    have reads := @holds_of_inside inner runtime call inside
    obtain ⟨writer, queued, writerRunning, wantsWrite⟩ :=
      waits rfl (Option.some.inj (holds.symm.trans reads))
    refine ⟨runtime, scan_of_scanning reached running scans, ?_, ?_⟩
    · intro none
      exact queues_of_wants wantsWrite
        ((counting_queued runtime).holds_eq_zero reached none writerRunning)
    · intro none
      exact enters_of_inside inside
        ((counting_entered runtime).holds_eq_zero reached none nextRunning)
  · cases kind

/-! ## Runs -/

/-- The steps that expose no call. A scan comes to a runtime only if no close
waits there behind a call inside; while it waits there, no close queues behind
such a call, and no call enters past such a close. -/
def Allowed (shared : Shared) (op : Op) : Prop :=
  match op with
  | .wait runtime =>
      shared.queued runtime = 0 ∨ shared.entered runtime = 0
  | .queue runtime =>
      shared.scan = some (some runtime) → shared.entered runtime = 0
  | .enter runtime true =>
      shared.scan = some (some runtime) → shared.queued runtime = 0
  | _ => True

/-- Only steps that are not allowed expose a call. -/
theorem not_exposed_apply (allowed : Allowed shared op)
    (hidden : ¬ Exposed shared) : ¬ Exposed (op.apply shared) := by
  rintro ⟨runtime, scans, queued, entered⟩
  rw [scan_apply] at scans
  rw [queued_apply] at queued
  rw [entered_apply] at entered
  cases op with
  | wait other =>
      cases scans
      rcases allowed with unqueued | unentered
      · exact queued unqueued
      · exact entered unentered
  | queue other =>
      by_cases same : runtime = other
      · subst same
        exact entered (allowed scans)
      · refine hidden ⟨runtime, scans, ?_, entered⟩
        simpa [Op.queued, increment, same] using queued
  | write other =>
      refine hidden ⟨runtime, scans, ?_, entered⟩
      intro none
      simp only [Op.queued, decrement, Function.update_apply] at queued
      split at queued <;> simp_all
  | enter other runs =>
      cases runs with
      | false => exact hidden ⟨runtime, scans, queued, entered⟩
      | true =>
          by_cases same : runtime = other
          · subst same
            exact queued (allowed scans)
          · refine hidden ⟨runtime, scans, queued, ?_⟩
            simpa [Op.entered, increment, same] using entered
  | finish other =>
      refine hidden ⟨runtime, scans, queued, ?_⟩
      intro none
      simp only [Op.entered, decrement, Function.update_apply] at entered
      split at entered <;> simp_all
  | unwind other =>
      refine hidden ⟨runtime, scans, queued, ?_⟩
      intro none
      simp only [Op.entered, decrement, Function.update_apply] at entered
      split at entered <;> simp_all
  | lockState => cases scans
  | look other => cases scans
  | unlockState => cases scans
  | cutoff => cases scans
  | clear => cases scans
  | _ => exact hidden ⟨runtime, scans, queued, entered⟩

theorem not_exposed_of_reachable
    (reached : (program.restrict Allowed).Reachable world) :
    ¬ Exposed world.shared := by
  refine @Program.shared_invariant _ _ _ (program.restrict Allowed)
    (fun shared => ¬ Exposed shared) ?_ ?_ _ reached
  · rintro _ rfl ⟨runtime, ⟨⟩, _⟩
  · intro world thread current op next _ _ acts hidden
    exact not_exposed_apply acts.2 hidden

/-- A step that is not allowed exposes a call. -/
theorem exposed_apply (forbidden : ¬ Allowed shared op) :
    Exposed (op.apply shared) := by
  cases op with
  | wait runtime =>
      rw [Allowed, not_or] at forbidden
      exact ⟨runtime, rfl, forbidden.1, forbidden.2⟩
  | queue runtime =>
      rw [Allowed, Classical.not_imp] at forbidden
      refine ⟨runtime, forbidden.1, ?_, forbidden.2⟩
      simp [Op.apply, increment]
  | enter runtime runs =>
      cases runs with
      | false => exact absurd trivial forbidden
      | true =>
          rw [Allowed, Classical.not_imp] at forbidden
          refine ⟨runtime, forbidden.1, forbidden.2, ?_⟩
          simp [Op.apply, increment]
  | _ => exact absurd trivial forbidden

/-- A counted writer waits. -/
theorem wants_of_queues {found : Thread} {runtime : RuntimeRef}
    (queues : found.queues runtime ≠ 0) :
    found.wants = some (.kind runtime, .write) := by
  have queued : ∀ {call : Close} {closed : RuntimeRef},
      call.queues closed runtime ≠ 0 →
      call.wants closed = some (.kind runtime, .write) := by
    intro call closed queues
    rw [Close.queues] at queues
    obtain ⟨rfl, rfl⟩ := of_not_not fun no => queues (if_neg no)
    rfl
  cases found with
  | close thread closed call => exact queued queues
  | build thread call =>
      cases call with
      | closing closed close => exact queued queues
      | _ => exact absurd rfl queues
  | worker thread closure =>
      cases closure with
      | closing job cleanup left closed close => exact queued queues
      | _ => exact absurd rfl queues
  | _ => exact absurd rfl queues

/-- A counted call is inside. -/
theorem inside_of_enters {found : Thread} {runtime : RuntimeRef}
    (enters : found.enters runtime ≠ 0) :
    ∃ thread call, found = .blockOn thread runtime call ∧
      call.inside = true := by
  cases found with
  | blockOn thread entered call =>
      rw [Thread.enters] at enters
      obtain ⟨inside, rfl⟩ := of_not_not fun no => enters (if_neg no)
      exact ⟨thread, call, rfl, inside⟩
  | _ => exact absurd rfl enters

/-- The scan waits for the call behind the close, and the call for the
mutex. -/
theorem deadlocked_of_wants {scanner caller writer thread : Nat}
    {scan : Scan} {found queued : Thread} {runtime : RuntimeRef}
    {call : BlockOn}
    (scanning : world.threads scanner = some found)
    (scans : found.scanning = some (.waiting scan runtime))
    (calling : world.threads caller =
      some (.blockOn thread runtime call))
    (inside : call.inside = true)
    (wants : call.wants runtime = some (.state, .write))
    (writing : world.threads writer = some queued)
    (wantsWrite : queued.wants = some (.kind runtime, .write)) :
    locking.Deadlocked world := by
  have there : locking.WaitsFor world scanner caller :=
    ⟨found, _, .kind runtime, .read, .read, scanning, calling,
      (scanning_locks scans).1, holds_of_inside inside,
      fun _ _ => ⟨writer, queued, writing, wantsWrite⟩⟩
  have back : locking.WaitsFor world caller scanner := by
    refine ⟨_, found, .state, .write, .write, calling, scanning, wants,
      ?_, nofun⟩
    change found.holds .state = some .write
    simp [Thread.holds, scans]
  exact Locking.deadlocked_of_waitsFor there back

/-- An exposed call has at most one step left to the cycle. -/
theorem exists_deadlocked_of_exposed (reached : program.Reachable world)
    (exposed : Exposed world.shared) :
    ∃ later, program.Steps world later ∧ locking.Deadlocked later := by
  obtain ⟨runtime, waits, queued, entered⟩ := exposed
  obtain ⟨scanner, found, scanning, scan, scans⟩ :=
    keeping_scan.exists_owner reached waits
  obtain ⟨writer, waiting, writing, queues⟩ :=
    (counting_queued runtime).exists_holder reached queued
  obtain ⟨caller, inner, calling, enters⟩ :=
    (counting_entered runtime).exists_holder reached entered
  have wantsWrite := wants_of_queues queues
  obtain ⟨thread, call, rfl, inside⟩ := inside_of_enters enters
  by_cases running : call = .entered
  · subst running
    have scannerOther : scanner ≠ caller := by
      rintro rfl
      rw [calling] at scanning
      cases scanning
      cases scans
    have writerOther : writer ≠ caller := by
      rintro rfl
      rw [calling] at writing
      cases writing
      cases wantsWrite
    let later := world.put (program.apply .skip world.shared) caller
      (.blockOn thread runtime .polling)
    have polls : program.Moves caller .skip world later :=
      .mk calling (.blockOn .poll)
    have polling := World.put_threads_self world
      (program.apply .skip world.shared) caller
      (.blockOn thread runtime .polling)
    have scanningLater : later.threads scanner = some found := by
      rwa [World.put_threads_of_ne _ _ _ scannerOther]
    have writingLater : later.threads writer = some waiting := by
      rwa [World.put_threads_of_ne _ _ _ writerOther]
    exact ⟨later, .single (.move polls), deadlocked_of_wants scanningLater
      scans polling rfl rfl writingLater wantsWrite⟩
  · refine ⟨world, .refl, deadlocked_of_wants scanning scans calling inside
      ?_ writing wantsWrite⟩
    cases call with
    | entered => exact absurd rfl running
    | polling => rfl
    | dropping => rfl
    | _ => cases inside

/-- The locks cannot deadlock in a run all of whose steps are allowed, and a
step that is not allowed leads to where they can. -/
theorem locks_doNotDeadlock (world : World) :
    ((program.restrict Allowed).Reachable world →
      ¬ locking.Deadlocked world) ∧
    ∀ thread op next, program.Reachable world →
      program.Moves thread op world next → ¬ Allowed world.shared op →
      ∃ later, program.Steps next later ∧ locking.Deadlocked later := by
  constructor
  · intro reached dead
    exact not_exposed_of_reachable reached
      (exposed_of_deadlocked (Program.reachable_of_restrict reached) dead)
  · intro thread op next reached moves forbidden
    have reachedNext := reached.step (.move moves)
    obtain ⟨running, acts⟩ := moves
    exact exists_deadlocked_of_exposed reachedNext (exposed_apply forbidden)

/-- A close waits for a call of `runtime_block_on` while nothing scans. -/
theorem locks_doNotDeadlock_of_close :
    ∃ world, (program.restrict Allowed).Reachable world ∧
      locking.WaitsFor world 2 1 ∧ ¬ locking.Deadlocked world := by
  have start : (program.restrict Allowed).Reachable (.quiet .fresh) :=
    .quiet rfl
  have building := (start.fork 0 rfl (.build 1)).move 0 rfl
    ⟨.build (.activity rfl rfl), trivial⟩
  have built := building.move 0 rfl ⟨.build (.built .runtime), trivial⟩
  have registered :=
    built.move 0 rfl ⟨.build (.register rfl rfl), trivial⟩
  have counted := (registered.fork 1 rfl (.blockOn 1 0)).move 1 rfl
    ⟨.blockOn (.activity rfl rfl), trivial⟩
  have entered := counted.move 1 rfl
    ⟨.blockOn (.enter rfl rfl), fun scans => nomatch scans⟩
  have queued := (entered.fork 2 rfl (.close 2 0)).move 2 rfl
    ⟨.close .queue, fun scans => nomatch scans⟩
  exact ⟨_, queued,
    ⟨_, _, .kind 0, .write, .read, rfl, rfl, rfl, rfl, nofun⟩,
    (locks_doNotDeadlock _).1 queued⟩

theorem reachable_fresh : program.Reachable (.quiet .fresh) :=
  .quiet rfl

/-- A dropped shutdown leaves its close behind a call of `runtime_block_on`;
the next one scans while the call comes to a poll. -/
theorem not_forall_undeadlocked :
    ¬ ∀ world, program.Reachable world → ¬ locking.Deadlocked world := by
  intro free
  have building :=
    (reachable_fresh.fork 0 rfl (.build 1)).move 0 rfl
      (.build (.activity rfl rfl))
  have built := building.move 0 rfl (.build (.built .runtime))
  have registered := built.move 0 rfl (.build (.register rfl rfl))
  have returned := registered.move 0 rfl (.build (.dropped rfl))
  have counted := (returned.fork 1 rfl (.blockOn 1 0)).move 1 rfl
    (.blockOn (.activity rfl rfl))
  have entered := counted.move 1 rfl (.blockOn (.enter rfl rfl))
  have started := (entered.fork 2 rfl .shutdown).move 2 rfl
    (.shutdown (.callback rfl))
  have locked := started.move 2 rfl (.shutdown (.lock rfl))
  have looked :=
    (locked.move 2 rfl (.shutdown (.cutting .wait))).move 2 rfl
      (.shutdown (.cutting (.look rfl)))
  have scanned :=
    (looked.move 2 rfl (.shutdown (.cutting (.pass rfl)))).move 2 rfl
      (.shutdown (.cutting .finish))
  have cut := scanned.move 2 rfl (.shutdown .cutoff)
  have listing := cut.move 2 rfl (.shutdown (.list rfl))
  have found :=
    (listing.move 2 rfl (.shutdown (.listing .wait))).move 2 rfl
      (.shutdown (.listing (.look rfl)))
  have listed :=
    (found.move 2 rfl (.shutdown (.listing (.pass rfl)))).move 2 rfl
      (.shutdown (.listing .finish))
  have joining :=
    (listed.move 2 rfl (.shutdown .listed)).move 2 rfl (.shutdown .submit)
  have taken := (joining.fork 3 rfl (.worker 2 0)).move 3 rfl
    (.worker (.take rfl))
  have queued := (taken.move 3 rfl (.worker .next)).move 3 rfl
    (.worker (.close .queue))
  have dropped := queued.move 2 rfl (.shutdown .dropJoining)
  have again := (dropped.fork 4 rfl .shutdown).move 4 rfl
    (.shutdown (.callback rfl))
  have waiting := (again.move 4 rfl (.shutdown (.lock rfl))).move 4 rfl
    (.shutdown (.cutting .wait))
  have polling := waiting.move 1 rfl (.blockOn .poll)
  exact free _ polling
    (@deadlocked_of_wants _ 4 1 3 1 _ _ _ 0 .polling rfl rfl rfl rfl rfl rfl
      rfl)

end Telekio.Locks
