import Telekio.Bridge.Settling

/-!
# A shutdown can always complete

Whatever the calls of the plugin and of the host have done so far, a run of
`shutdown_owner` that has not failed can still return `Ok`, by moves of calls
that exist already; after it the owner can be detached. This fails only while
a panic of the host's spawn has left a task behind, which nothing polls.
-/

namespace Telekio.Bridge

open Telekio.Interleave
open Telekio.Owner

variable {world : World} {thread : Nat}

section Loops

variable {cleanup : Cleanup} {closure : ShutdownClosure}

/-- The run has come to the list of its runtimes. -/
def AtListing (cleanup : Cleanup) (closure : ShutdownClosure)
    (_ : Shared) (found : Thread) : Prop :=
  found = .shutdown ⟨cleanup, .listing, closure⟩

theorem run_wakes (wakers : List Waker) :
    ∀ {world : World}, program.Reachable world →
      world.threads thread =
        some (.shutdown ⟨cleanup, .waking wakers, closure⟩) →
      Attains thread world (AtListing cleanup closure) := by
  induction wakers with
  | nil =>
      intro world reached running
      refine .move reached running trivial (.shutdown (.woken rfl)) ?_
      intro later _ _ listing
      exact .here listing rfl
  | cons waker wakers inductionHypothesis =>
      intro world reached running
      refine .move reached running trivial (.shutdown (.wake rfl)) ?_
      intro later reachedLater _ waking
      exact inductionHypothesis reachedLater waking

theorem run_closes (resources : List ResourceRef) (wakers : List Waker) :
    ∀ {world : World}, program.Reachable world →
      world.threads thread =
        some (.shutdown ⟨cleanup, .closing resources wakers, closure⟩) →
      Attains thread world (AtListing cleanup closure) := by
  induction resources with
  | nil =>
      intro world reached running
      refine .move reached running trivial (.shutdown (.closed rfl)) ?_
      intro later reachedLater _ waking
      exact run_wakes wakers reachedLater waking
  | cons resource resources inductionHypothesis =>
      intro world reached running
      refine .move reached running trivial (.shutdown (.takeValue rfl)) ?_
      intro later reachedLater _ valueTaken
      refine .move reachedLater valueTaken trivial
        (.shutdown (.takeWaker rfl)) ?_
      intro last reachedLast _ closing
      exact inductionHypothesis reachedLast closing

theorem run_aborts (tasks : List AbortHandle)
    (resources : List ResourceRef) (wakers : List Waker) :
    ∀ {world : World}, program.Reachable world →
      world.threads thread =
        some (.shutdown
          ⟨cleanup, .aborting ⟨tasks, resources, wakers⟩, closure⟩) →
      Attains thread world (AtListing cleanup closure) := by
  induction tasks with
  | nil =>
      intro world reached running
      refine .move reached running trivial (.shutdown (.aborted rfl)) ?_
      intro later reachedLater _ closing
      exact run_closes resources wakers reachedLater closing
  | cons task tasks inductionHypothesis =>
      intro world reached running
      refine .move reached running trivial (.shutdown (.abort rfl)) ?_
      intro later reachedLater _ aborting
      exact inductionHypothesis reachedLater aborting

/-- The closure closes every runtime it was given. -/
theorem closure_closes {stage : ShutdownStage}
    (runtimes : List RuntimeRef) :
    ∀ {world : World}, program.Reachable world →
      world.threads thread =
        some (.shutdown ⟨cleanup, stage, .closing runtimes⟩) →
      Attains thread world
        (fun _ found =>
          found = .shutdown ⟨cleanup, stage, .dropping (.ok ())⟩) := by
  induction runtimes with
  | nil =>
      intro world reached running
      refine .move reached running trivial (.shutdown (.closedAll rfl)) ?_
      intro later _ _ dropping
      exact .here dropping rfl
  | cons runtime runtimes inductionHypothesis =>
      intro world reached running
      obtain ⟨made, notOpen⟩ :=
        closable_of_closing reached running rfl runtime
          List.mem_cons_self
      obtain ⟨kind, known⟩ := Option.ne_none_iff_exists'.mp made
      have closes : (kind.close 0).2 = .ok () := by
        cases kind with
        | localRuntime origin =>
            simp [Shared.localOpen, known, RuntimeKind.localOpen] at notOpen
        | _ => rfl
      refine .move reached running trivial
        (.shutdown (.closeRuntime 0 rfl known closes)) ?_
      intro later reachedLater _ closing
      exact inductionHypothesis reachedLater closing

end Loops

/-- The run was not turned away, its closure has not failed, and its future
was not dropped. -/
def Shutdown.Going (run : Shutdown) : Prop :=
  run.stage ≠ .leaving ∧ run.stage ≠ .cancelled ∧
    (∀ error, run.stage ≠ .returned (.error error)) ∧
    (∀ error, run.closure ≠ .dropping (.error error)) ∧
    ∀ error, run.closure ≠ .finished (.error error)

/-- The run is in `wait_idle` or past it. -/
def Waits (_ : Shared) (found : Thread) : Prop :=
  ∃ run, found = .shutdown run ∧ run.stage.waits

theorem run_joins (reached : program.Reachable world)
    {cleanup : Cleanup}
    (running : world.threads thread =
      some (.shutdown ⟨cleanup, .joining, .finished (.ok ())⟩)) :
    Attains thread world Waits := by
  refine .move reached running trivial (.shutdown (.joined rfl rfl)) ?_
  intro later _ _ idling
  exact .here idling ⟨_, rfl, trivial⟩

theorem closure_finishes (reached : program.Reachable world)
    {cleanup : Cleanup}
    (running : world.threads thread =
      some (.shutdown ⟨cleanup, .joining, .dropping (.ok ())⟩)) :
    Attains thread world Waits := by
  have given := gives
    (fun held => .shutdown ⟨held, .joining, .dropping (.ok ())⟩)
    (fun _ => trivial) (fun _ _ _ _ drops => .shutdown (.drop trivial drops))
    reached running
  refine given.andThen reached ?_
  rintro later found reachedLater dropped ⟨after, gone, rfl⟩
  refine .move reachedLater dropped trivial (.shutdown (.finish rfl gone)) ?_
  intro last reachedLast _ finished
  exact run_joins reachedLast finished

theorem run_drops (reached : program.Reachable world)
    {cleanup : Cleanup} {closure : ShutdownClosure}
    (running : world.threads thread =
      some (.shutdown ⟨cleanup, .dropping, closure⟩)) :
    Attains thread world Waits := by
  have dropping : ∀ held,
      Shutdown.dropsCleanup ⟨held, .dropping, closure⟩ := by
    intro held
    cases closure <;> trivial
  have given := gives
    (fun held => .shutdown ⟨held, .dropping, closure⟩)
    (fun _ => trivial)
    (fun _ _ _ _ drops => .shutdown (.drop (dropping _) drops))
    reached running
  refine given.andThen reached ?_
  rintro later found reachedLater dropped ⟨after, gone, rfl⟩
  refine .move reachedLater dropped trivial (.shutdown (.dropped rfl gone)) ?_
  intro last _ _ idling
  exact .here idling ⟨_, rfl, trivial⟩

theorem run_lists (reached : program.Reachable world)
    {cleanup : Cleanup} {closure : ShutdownClosure}
    (running : world.threads thread =
      some (.shutdown ⟨cleanup, .listing, closure⟩)) :
    Attains thread world Waits := by
  cases listed : world.shared.owner.runtimes world.shared.runtimeClosed with
  | nil =>
      refine .move reached running trivial
        (.shutdown (.noRuntimes rfl listed)) ?_
      intro later reachedLater _ dropping
      exact run_drops reachedLater dropping
  | cons runtime runtimes =>
      refine .move reached running trivial
        (.shutdown (.spawnBlocking rfl listed)) ?_
      intro later reachedLater _ joining
      refine (closure_closes _ reachedLater joining).andThen
        reachedLater ?_
      rintro last found reachedLast closed rfl
      exact closure_finishes reachedLast closed

/-- Past the cutoff nothing outside the run can make it fail. -/
theorem run_waits (reached : program.Reachable world) {run : Shutdown}
    (running : world.threads thread = some (.shutdown run))
    (going : run.Going) (called : run.stage ≠ .called)
    (entered : run.stage ≠ .entered) :
    Attains thread world Waits := by
  have atListing : ∀ {cleanup closure},
      Attains thread world (AtListing cleanup closure) →
      Attains thread world Waits := by
    intro cleanup closure attains
    refine attains.andThen reached ?_
    rintro later found reachedLater listing rfl
    exact run_lists reachedLater listing
  have placed : run.Placed := placed_of_reachable reached running
  obtain ⟨notLeaving, notCancelled, noError, notFailing, notFailed⟩ :=
    going
  obtain ⟨cleanup, stage, closure⟩ := run
  cases stage with
  | called => exact absurd rfl called
  | entered => exact absurd rfl entered
  | aborting snapshot =>
      exact atListing (run_aborts _ _ _ reached running)
  | closing resources wakers =>
      exact atListing (run_closes _ _ reached running)
  | valueTaken resource resources wakers =>
      refine .move reached running trivial (.shutdown (.takeWaker rfl)) ?_
      intro later reachedLater _ closing
      refine (run_closes _ _ reachedLater closing).andThen
        reachedLater ?_
      rintro last found reachedLast listing rfl
      exact run_lists reachedLast listing
  | waking wakers => exact atListing (run_wakes _ reached running)
  | listing => exact run_lists reached running
  | dropping => exact run_drops reached running
  | joining =>
      cases closure with
      | absent => exact absurd rfl (placed.joining rfl)
      | closing runtimes =>
          refine (closure_closes _ reached running).andThen reached ?_
          rintro later found reachedLater closed rfl
          exact closure_finishes reachedLater closed
      | dropping result =>
          cases result with
          | ok => exact closure_finishes reached running
          | error error => exact absurd rfl (notFailing error)
      | finished result =>
          cases result with
          | ok => exact run_joins reached running
          | error error => exact absurd rfl (notFailed error)
  | idling => exact .here running ⟨_, rfl, trivial⟩
  | checking notified => exact .here running ⟨_, rfl, trivial⟩
  | parked notified => exact .here running ⟨_, rfl, trivial⟩
  | leaving => exact absurd rfl notLeaving
  | cancelled => exact absurd rfl notCancelled
  | returned result =>
      cases result with
      | ok => exact .here running ⟨_, rfl, trivial⟩
      | error error => exact absurd rfl (noError error)

/-- A run that a `LocalRuntime` turned away, or whose closure ends, drops its
activity. -/
theorem run_gives (reached : program.Reachable world) {run : Shutdown}
    (running : world.threads thread = some (.shutdown run))
    (ending : run.stage = .leaving ∨
      ∃ result, run.closure = .dropping result) :
    Attains thread world AtRest := by
  obtain ⟨cleanup, stage, closure⟩ := run
  have dropping : ∀ held,
      Shutdown.dropsCleanup ⟨held, stage, closure⟩ := by
    intro held
    rcases ending with rfl | ⟨result, rfl⟩
    · cases closure <;> trivial
    · cases stage <;> trivial
  have given := gives (fun held => .shutdown ⟨held, stage, closure⟩)
    (fun _ => trivial)
    (fun _ _ _ _ drops => .shutdown (.drop (dropping _) drops))
    reached running
  refine given.mono ?_
  rintro shared found ⟨after, gone, rfl⟩
  exact gone

theorem run_ends (reached : program.Reachable world) {run : Shutdown}
    (running : world.threads thread = some (.shutdown run))
    (going : run.Going) (called : run.stage ≠ .called)
    (entered : run.stage ≠ .entered) :
    Attains thread world AtRest := by
  refine (run_waits reached running going called entered).andThen
    reached ?_
  rintro later found reachedLater waiting ⟨after, rfl, waits⟩
  refine .here waiting ?_
  exact ((ordered_of_shutdown reachedLater waiting).waiting waits).1

theorem run_rests (reached : program.Reachable world) {run : Shutdown}
    (running : world.threads thread = some (.shutdown run)) :
    Attains thread world AtRest := by
  have placed : run.Placed := placed_of_reachable reached running
  have ordered := ordered_of_shutdown reached running
  rcases placed.kept with gone | keeps | keeps
  · exact .here running gone
  · have absent : run.closure = .absent := by
      by_contra closure
      have late := ordered.listing closure
      cases stage : run.stage <;>
        simp_all [ShutdownStage.keepsCleanup, ShutdownStage.waits]
    by_cases leaving : run.stage = .leaving
    · exact run_gives reached running (Or.inl leaving)
    · by_cases entered : run.stage = .entered
      · cases cut : (world.shared.owner.cutoff world.shared.localOpen).2
          with
        | error text =>
            refine .move reached running trivial
              (.shutdown (.refuseCutoff entered cut)) ?_
            intro later reachedLater _ turnedAway
            exact run_gives reachedLater turnedAway (Or.inl rfl)
        | ok snapshot =>
            refine .move reached running trivial
              (.shutdown (.cutoff entered cut)) ?_
            intro later reachedLater _ aborting
            refine run_ends reachedLater aborting ?_ (by simp) (by simp)
            simp [Shutdown.Going, absent]
      · refine run_ends reached running ?_ ?_ entered
        · cases stage : run.stage <;>
            simp_all [ShutdownStage.keepsCleanup, Shutdown.Going]
        · intro called
          simp [called, ShutdownStage.keepsCleanup] at keeps
  · cases closure : run.closure with
    | absent => simp [closure, ShutdownClosure.keepsCleanup] at keeps
    | finished result =>
        simp [closure, ShutdownClosure.keepsCleanup] at keeps
    | dropping result =>
        exact run_gives reached running (Or.inr ⟨result, closure⟩)
    | closing runtimes =>
        obtain ⟨cleanup, stage, _⟩ := run
        subst closure
        refine (closure_closes _ reached running).andThen reached ?_
        rintro later found reachedLater closed rfl
        exact run_gives reachedLater closed (Or.inr ⟨_, rfl⟩)

/-- Every call can come to its end by itself, unless it has left its task
behind. -/
theorem resting : program.Settling Thread.mayMove AtRest where
  settles := by
    intro world thread current reached running mayMove
    cases current with
    | spawn call => exact spawn_rests reached running mayMove
    | entry call => exact entry_rests reached running
    | blockOn call => exact blockOn_rests reached running
    | build call => exact build_rests reached running
    | defer call => exact defer_rests reached running
    | shutdown run => exact run_rests reached running
    | resource call => exact .here running trivial
    | abort call => exact .here running trivial
    | handle call => exact .here running trivial
    | detach call => exact .here running trivial
  stays := by
    intro world thread bystander current op next held _ _ _ _ _ rests
    exact rests

end Telekio.Bridge
