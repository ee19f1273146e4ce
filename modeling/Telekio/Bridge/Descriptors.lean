import Telekio.Bridge.Records
import Telekio.Interleave.Layer

/-!
# What the host calls on a descriptor

A `Task` descriptor is polled any number of times, cancelled at most once and
released; a `BlockingTask` descriptor is run or cancelled, and released. Here
every call of `spawn`, `spawn_local` and `spawn_blocking` keeps the history of
its descriptor beside its stages.
-/

namespace Telekio.Bridge

open Telekio.Interleave
open Telekio.Owner

/-- `telekio_abi::Poll`. -/
inductive Poll where
  | pending
  | ready
  | panicked
deriving DecidableEq, Repr

/-- The callbacks of `Task` and `BlockingTask`. A poll and a run stand with
what the guest returned; a `run` is `ok` when its `CallResult` is. -/
inductive Call where
  | poll (result : Poll)
  | run (ok : Bool)
  | cancel
  | release
deriving DecidableEq, Repr

/-- The callback that a `polling` stage has entered, once it returns. -/
def SpawnKind.invoked : SpawnKind → Poll → Call
  | .spawnBlocking, result => .run (result == .ready)
  | _, result => .poll result

/-- The calls that a move of the `GuestTask` adds. -/
def GuestTask.emitted (kind : SpawnKind) :
    GuestTask → GuestTask → List Call
  | .polling, .held => [kind.invoked .pending]
  | .polling, .ended true => [kind.invoked .ready]
  | .polling, .ended false => [kind.invoked .panicked]
  | .held, .cancelling => [.cancel]
  | .ended _, .cancelling => [.cancel]
  | .cancelling, .releasing => [.release]
  | .ended _, .releasing => [.release]
  | _, _ => []

/-- The task record that an operation adds: an accepted `reserve_task`. -/
def Op.reservations (op : Op) (shared : Shared) : Nat :=
  match op with
  | .reserveTask id => if (shared.owner.reserveTask id).2.isOk then 1 else 0
  | _ => 0

/-- The task record that an operation removes. -/
def Op.removals (op : Op) (shared : Shared) : Nat :=
  match op with
  | .removeTask id => if (shared.tasks.lookup id).isSome then 1 else 0
  | _ => 0

/-- A thread with the calls on its descriptor and the task records that it
has added and removed. -/
structure Traced where
  thread : Thread
  calls : List Call
  reservations : Nat
  removals : Nat

def Thread.emitted : Thread → Thread → List Call
  | .spawn current, .spawn next =>
      GuestTask.emitted current.kind current.task next.task
  | _, _ => []

/-- The code around one owner, with histories. -/
def tracedProgram : Program Shared Traced Op where
  initial := fun shared => shared = Shared.fresh
  start := fun first => first.thread.Starts ∧ first.calls = [] ∧
    first.reservations = 0 ∧ first.removals = 0
  act := fun shared current op next =>
    Thread.Acts shared current.thread op next.thread ∧
      next.calls =
        current.calls ++ current.thread.emitted next.thread ∧
      next.reservations = current.reservations + op.reservations shared ∧
      next.removals = current.removals + op.removals shared
  apply := Op.apply

abbrev TracedWorld :=
  Interleave.World Shared Traced

/-- A thread begins. -/
theorem forkTraced {world : TracedWorld}
    (reached : tracedProgram.Reachable world) (thread : Nat)
    (free : world.threads thread = none) {first : Thread}
    (starts : first.Starts) :
    tracedProgram.Reachable
      (world.put world.shared thread ⟨first, [], 0, 0⟩) :=
  reached.fork thread free ⟨starts, rfl, rfl, rfl⟩

/-- A thread makes one move. -/
theorem moveTraced {world : TracedWorld}
    (reached : tracedProgram.Reachable world) (thread : Nat)
    {traced : Traced} {next : Thread} {op : Op}
    (running : world.threads thread = some traced)
    (acts : Thread.Acts world.shared traced.thread op next) :
    tracedProgram.Reachable
      (world.put (op.apply world.shared) thread
        ⟨next, traced.calls ++ traced.thread.emitted next,
          traced.reservations + op.reservations world.shared,
          traced.removals + op.removals world.shared⟩) :=
  reached.move thread running ⟨acts, rfl, rfl, rfl⟩

theorem reachable_fresh_traced :
    tracedProgram.Reachable (World.quiet Shared.fresh) :=
  Program.Reachable.quiet rfl

/-- Without the histories it is the system of the owner. -/
theorem tracedLayer : tracedProgram.Layer program id
    (fun traced => some traced.thread) where
  initially := fun _ fresh => fresh
  starts := by
    rintro first found ⟨starts, -⟩ ⟨⟩
    exact starts
  moves := by
    rintro state current op next ⟨acts, -⟩
    exact Or.inl ⟨_, op, _, rfl, rfl, acts, rfl⟩

variable {world : TracedWorld}

/-- A traced thread is a thread of the system below. -/
theorem lower_traced {thread : Nat} {traced : Traced}
    (running : world.threads thread = some traced) :
    (Program.lower id (fun traced => some traced.thread) world).threads
      thread = some traced.thread := by
  simp [Program.lower, running]

theorem ordered_of_traced (reached : tracedProgram.Reachable world)
    {thread : Nat} {traced : Traced}
    (running : world.threads thread = some traced) :
    traced.thread.Ordered :=
  ordered_of_reachable (tracedLayer.reachable_lower reached)
    (lower_traced running)

/-- The record of an armed cleanup is in the owner. -/
theorem task_of_traced (reached : tracedProgram.Reachable world)
    {thread : Nat} {traced : Traced}
    (running : world.threads thread = some traced) {spawn : Spawn}
    (isSpawn : traced.thread = .spawn spawn)
    (armed : spawn.cleanup = .armed) :
    (world.shared.tasks.lookup spawn.id).isSome :=
  taskOwning.isPresent (tracedLayer.reachable_lower reached)
    (lower_traced running)
    (Thread.taskRecord_eq_some.mpr ⟨spawn, isSpawn, armed, rfl⟩)

/-- Nothing but polls that returned `Pending`; a blocking closure has none. -/
def Pending (kind : SpawnKind) (calls : List Call) : Prop :=
  ∃ count, calls = List.replicate count (kind.invoked .pending) ∧
    (kind = .spawnBlocking → count = 0)

/-- Polls that never returned `Ready`, for a `GuestTask` dropped with
`complete` unset. -/
def Unready (kind : SpawnKind) (calls : List Call) : Prop :=
  Pending kind calls ∨ ∃ before, Pending kind before ∧
    calls = before ++ [kind.invoked .panicked]

/-- The last poll returned `Ready`, or the blocking closure ran. -/
def Complete (kind : SpawnKind) (calls : List Call) : Prop :=
  ∃ before, Pending kind before ∧ calls = before ++ [kind.invoked .ready]

/-- The history of a released descriptor. -/
def Closed (kind : SpawnKind) (calls : List Call) : Prop :=
  (∃ before, Complete kind before ∧ calls = before ++ [.release]) ∨
    ∃ before, Unready kind before ∧ calls = before ++ [.cancel, .release]

/-- The history of a descriptor in each stage of its `GuestTask`. -/
def Word (kind : SpawnKind) : GuestTask → List Call → Prop
  | .held, calls => Pending kind calls
  | .polling, calls => Pending kind calls
  | .ended true, calls => Complete kind calls
  | .ended false, calls => Unready kind calls
  | .cancelling, calls =>
      ∃ before, Unready kind before ∧ calls = before ++ [.cancel]
  | .releasing, calls => Closed kind calls
  | .released, calls => Closed kind calls

theorem Pending.nil (kind : SpawnKind) : Pending kind [] :=
  ⟨0, rfl, fun _ => rfl⟩

theorem Pending.append {kind : SpawnKind} {calls : List Call}
    (pending : Pending kind calls) (isFuture : kind ≠ .spawnBlocking) :
    Pending kind (calls ++ [kind.invoked .pending]) := by
  obtain ⟨count, rfl, -⟩ := pending
  exact ⟨count + 1, List.replicate_succ'.symm,
    fun blocking => absurd blocking isFuture⟩

theorem GuestTask.emitted_self (kind : SpawnKind) (task : GuestTask) :
    GuestTask.emitted kind task task = [] := by
  cases task <;> rfl

/-- A move of a descriptor extends its word by the calls it makes. -/
theorem word_acts {shared : Shared} {spawn next : Spawn} {op : Op}
    (acts : Spawn.Acts shared spawn op next) {calls : List Call}
    (word : Word spawn.kind spawn.task calls) :
    Word next.kind next.task
      (calls ++ GuestTask.emitted spawn.kind spawn.task next.task) := by
  obtain ⟨kind, id, call, task, cleanup⟩ := spawn
  cases acts with
  | poll hosted held running =>
      cases held
      exact (List.append_nil calls).symm ▸ word
  | cutOff hosted held refusing =>
      cases held
      exact (List.append_nil calls).symm ▸ Or.inl word
  | pending isFuture polling =>
      cases polling
      exact Pending.append word isFuture
  | ready polling =>
      cases polling
      exact ⟨calls, word, rfl⟩
  | guestPanicked polling =>
      cases polling
      exact Or.inr ⟨calls, word, rfl⟩
  | cancel droppable incomplete =>
      rcases incomplete with held | ended
      · cases held
        exact ⟨calls, Or.inl word, rfl⟩
      · cases ended
        exact ⟨calls, word, rfl⟩
  | cancelled cancelling =>
      cases cancelling
      obtain ⟨before, unready, rfl⟩ := word
      exact Or.inr ⟨before, unready, List.append_assoc _ _ _⟩
  | release complete =>
      cases complete
      exact Or.inl ⟨calls, word, rfl⟩
  | released releasing =>
      cases releasing
      exact (List.append_nil calls).symm ▸ word
  | _ =>
      rw [GuestTask.emitted_self, List.append_nil]
      exact word

/-- Every descriptor has the word of its stage. -/
theorem word_of_reachable (reached : tracedProgram.Reachable world)
    {thread : Nat} {traced : Traced}
    (running : world.threads thread = some traced) {spawn : Spawn}
    (isSpawn : traced.thread = .spawn spawn) :
    Word spawn.kind spawn.task traced.calls := by
  refine Program.local_invariant
    (fun traced => ∀ spawn, traced.thread = .spawn spawn →
      Word spawn.kind spawn.task traced.calls)
    ?_ ?_ reached running spawn isSpawn
  · rintro first ⟨starts, empty, -⟩ spawn isSpawn
    rw [isSpawn] at starts
    rw [empty]
    cases starts with
    | spawn kind id => exact Pending.nil kind
  · rintro world thread current op next _ _ ⟨acts, extended, -⟩ before
      spawn isSpawn
    rw [extended, isSpawn]
    rw [isSpawn] at acts
    generalize current.thread = held at acts before
    cases acts with
    | spawn acts => exact word_acts acts (before _ rfl)

/-- The records that a descriptor has added and removed, by the stage of its
`TaskCleanup`. -/
def Recorded (cleanup : TaskCleanup) (traced : Traced) : Prop :=
  match cleanup with
  | .unset => traced.reservations = 0 ∧ traced.removals = 0
  | .armed => traced.reservations = 1 ∧ traced.removals = 0
  | _ => traced.reservations = 1 ∧ traced.removals = 1

theorem recorded_of_reachable (reached : tracedProgram.Reachable world)
    {thread : Nat} {traced : Traced}
    (running : world.threads thread = some traced) {spawn : Spawn}
    (isSpawn : traced.thread = .spawn spawn) :
    Recorded spawn.cleanup traced := by
  refine Program.local_invariant
    (fun traced => ∀ spawn, traced.thread = .spawn spawn →
      Recorded spawn.cleanup traced)
    ?_ ?_ reached running spawn isSpawn
  · rintro first ⟨starts, -, added, removed⟩ spawn isSpawn
    rw [isSpawn] at starts
    cases starts with
    | spawn kind id => exact ⟨added, removed⟩
  · rintro world thread current op next reached running
      ⟨acts, -, added, removed⟩ before spawn isSpawn
    have ordered := ordered_of_traced reached running
    have present : ∀ held : Spawn, current.thread = .spawn held →
        held.cleanup = .armed →
        (world.shared.tasks.lookup held.id).isSome :=
      fun held isHeld => task_of_traced reached running isHeld
    rw [isSpawn] at acts
    generalize current.thread = held at acts before ordered present
    cases acts with
    | spawn acts =>
        have earlier := before _ rfl
        cases acts with
        | reserve called accepted =>
            have unset := ordered.beforeReserve (Or.inl called)
            simp_all [Recorded, Op.reservations, Op.removals, Except.isOk,
              Except.toBool]
        | refuse called refused =>
            simp_all [Recorded, Op.reservations, Op.removals, Except.isOk,
              Except.toBool]
        | removeTask released armed =>
            have found := present _ rfl armed
            simp_all [Recorded, Op.reservations, Op.removals]
        | _ => simp_all [Recorded, Op.reservations, Op.removals]

/-! ## The contract of a task descriptor -/

/-- The descriptor is released and the `TaskCleanup`, if there is one, has
been dropped. -/
def Spawn.dropped (spawn : Spawn) : Prop :=
  spawn.task = .released ∧
    (spawn.cleanup = .unset ∨ spawn.cleanup = .dropped)

/-- The contract of `Task::from_raw`, `poll` and `cancel`, for the calls made
so far. -/
structure TaskContract (task : GuestTask) (calls : List Call)
    (polls : List Poll) (cancelled released : Bool) : Prop where
  word : calls = polls.map .poll ++
    (if cancelled then [.cancel] else []) ++
      if released then [.release] else []
  last : ∀ result ∈ polls.dropLast, result = .pending
  polling : task = .polling →
    (∀ result ∈ polls, result = .pending) ∧
      cancelled = false ∧ released = false
  incomplete : cancelled = true → .ready ∉ polls
  closed : released = true → (cancelled = true ↔ .ready ∉ polls)
  ended : task = .released → released = true

variable {kind : SpawnKind} {calls : List Call}

theorem invoked_of_future (isFuture : kind ≠ .spawnBlocking)
    (result : Poll) : kind.invoked result = .poll result := by
  cases kind with
  | spawnBlocking => exact absurd rfl isFuture
  | _ => rfl

theorem Pending.polls (pending : Pending kind calls)
    (isFuture : kind ≠ .spawnBlocking) :
    ∃ polls : List Poll, calls = polls.map .poll ∧
      ∀ result ∈ polls, result = .pending := by
  obtain ⟨count, rfl, -⟩ := pending
  refine ⟨List.replicate count .pending, ?_, ?_⟩
  · rw [invoked_of_future isFuture, List.map_replicate]
  · intro result found
    exact List.eq_of_mem_replicate found

/-- Only the last poll returned something else than `Pending`. -/
theorem Pending.polls_append (pending : Pending kind calls)
    (isFuture : kind ≠ .spawnBlocking) (result : Poll) :
    ∃ polls : List Poll,
      calls ++ [kind.invoked result] = (polls ++ [result]).map .poll ∧
        ∀ result ∈ polls, result = .pending := by
  obtain ⟨polls, rfl, allPending⟩ := pending.polls isFuture
  refine ⟨polls, ?_, allPending⟩
  rw [invoked_of_future isFuture, List.map_append]
  rfl

theorem Unready.polls (unready : Unready kind calls)
    (isFuture : kind ≠ .spawnBlocking) :
    ∃ polls : List Poll, calls = polls.map .poll ∧ .ready ∉ polls ∧
      ∀ result ∈ polls.dropLast, result = .pending := by
  rcases unready with pending | ⟨before, pending, rfl⟩
  · obtain ⟨polls, rfl, allPending⟩ := pending.polls isFuture
    refine ⟨polls, rfl, ?_, ?_⟩
    · intro found
      cases allPending _ found
    · intro result found
      exact allPending result (List.dropLast_subset polls found)
  · obtain ⟨polls, same, allPending⟩ :=
      pending.polls_append isFuture .panicked
    refine ⟨polls ++ [.panicked], same, ?_, by simpa using allPending⟩
    intro found
    have old : Poll.ready ∈ polls := by simpa using found
    cases allPending _ old

theorem Complete.polls (complete : Complete kind calls)
    (isFuture : kind ≠ .spawnBlocking) :
    ∃ polls : List Poll, calls = polls.map .poll ∧ .ready ∈ polls ∧
      ∀ result ∈ polls.dropLast, result = .pending := by
  obtain ⟨before, pending, rfl⟩ := complete
  obtain ⟨polls, same, allPending⟩ := pending.polls_append isFuture .ready
  exact ⟨polls ++ [.ready], same, by simp, by simpa using allPending⟩

theorem Closed.polls (closed : Closed kind calls)
    (isFuture : kind ≠ .spawnBlocking) :
    ∃ (polls : List Poll) (cancelled : Bool),
      calls = polls.map .poll ++
        (if cancelled then [.cancel] else []) ++ [.release] ∧
      (∀ result ∈ polls.dropLast, result = .pending) ∧
      (cancelled = true ↔ .ready ∉ polls) := by
  rcases closed with ⟨before, complete, rfl⟩ | ⟨before, unready, rfl⟩
  · obtain ⟨polls, rfl, found, last⟩ := complete.polls isFuture
    exact ⟨polls, false, by simp, last, by simp [found]⟩
  · obtain ⟨polls, rfl, absent, last⟩ := unready.polls isFuture
    exact ⟨polls, true, by simp, last, by simp [absent]⟩

/-- The word of a stage meets the contract. -/
theorem taskContract_of_word {task : GuestTask}
    (word : Word kind task calls) (isFuture : kind ≠ .spawnBlocking) :
    ∃ polls cancelled released,
      TaskContract task calls polls cancelled released := by
  have uncalled : ∀ polls : List Poll, calls = polls.map .poll →
      calls = polls.map .poll ++ [] ++ [] := by
    rintro polls rfl
    simp
  cases task with
  | held =>
      obtain ⟨polls, same, allPending⟩ := Pending.polls word isFuture
      exact ⟨polls, false, false, uncalled polls same,
        fun result found => allPending result
          (List.dropLast_subset polls found),
        nofun, nofun, nofun, nofun⟩
  | polling =>
      obtain ⟨polls, same, allPending⟩ := Pending.polls word isFuture
      exact ⟨polls, false, false, uncalled polls same,
        fun result found => allPending result
          (List.dropLast_subset polls found),
        fun _ => ⟨allPending, rfl, rfl⟩, nofun, nofun, nofun⟩
  | ended complete =>
      cases complete with
      | true =>
          obtain ⟨polls, same, -, last⟩ := Complete.polls word isFuture
          exact ⟨polls, false, false, uncalled polls same, last,
            nofun, nofun, nofun, nofun⟩
      | false =>
          obtain ⟨polls, same, -, last⟩ := Unready.polls word isFuture
          exact ⟨polls, false, false, uncalled polls same, last,
            nofun, nofun, nofun, nofun⟩
  | cancelling =>
      obtain ⟨before, unready, rfl⟩ := word
      obtain ⟨polls, rfl, absent, last⟩ := unready.polls isFuture
      exact ⟨polls, true, false, by simp, last, nofun, fun _ => absent,
        nofun, nofun⟩
  | releasing =>
      obtain ⟨polls, cancelled, same, last, cancels⟩ :=
        Closed.polls word isFuture
      exact ⟨polls, cancelled, true, same, last, nofun, cancels.mp,
        fun _ => cancels, nofun⟩
  | released =>
      obtain ⟨polls, cancelled, same, last, cancels⟩ :=
        Closed.polls word isFuture
      exact ⟨polls, cancelled, true, same, last, nofun, cancels.mp,
        fun _ => cancels, fun _ => rfl⟩

/-- The host obeys the contract of every `Task` descriptor, whichever way the
spawn call, the polls, an abort and the cutoff interleave, and removes exactly
the record that `reserve_task` made for it. -/
theorem taskDescriptor_isObeyed
    (reached : tracedProgram.Reachable world)
    {thread : Nat} {traced : Traced}
    (running : world.threads thread = some traced) {spawn : Spawn}
    (isSpawn : traced.thread = .spawn spawn)
    (isFuture : spawn.kind ≠ .spawnBlocking) :
    (∃ polls cancelled released,
      TaskContract spawn.task traced.calls polls cancelled released) ∧
      traced.removals ≤ traced.reservations ∧
      traced.reservations ≤ 1 ∧
      (spawn.dropped → traced.removals = traced.reservations) := by
  have word := word_of_reachable reached running isSpawn
  have recorded := recorded_of_reachable reached running isSpawn
  refine ⟨taskContract_of_word word isFuture, ?_, ?_, ?_⟩
  · cases stage : spawn.cleanup <;> simp_all [Recorded]
  · cases stage : spawn.cleanup <;> simp_all [Recorded]
  · rintro ⟨-, unset | dropped⟩ <;> simp_all [Recorded]

/-- A task is polled to its end and leaves the owner. -/
theorem taskDescriptor_isObeyed_of_ready :
    ∃ (world : TracedWorld) (spawn : Spawn) (traced : Traced),
      tracedProgram.Reachable world ∧
        world.threads 0 = some traced ∧ spawn.dropped ∧
        traced.calls = [.poll .ready, .release] ∧
        traced.reservations = 1 ∧
        (∃ polls cancelled released,
          TaskContract spawn.task traced.calls polls cancelled released) ∧
        (spawn.dropped → traced.removals = traced.reservations) := by
  have fresh := reachable_fresh_traced
  have forked := forkTraced fresh 0 rfl (.spawn .spawn 7)
  have reserved := moveTraced forked 0 rfl (.spawn (.reserve rfl rfl))
  have spawned := moveTraced reserved 0 rfl
    (.spawn (.hostSpawn 0 rfl rfl))
  have registered := moveTraced spawned 0 rfl (.spawn (.register rfl))
  have polling := moveTraced registered 0 rfl
    (.spawn (.poll trivial rfl rfl))
  have ready := moveTraced polling 0 rfl (.spawn (.ready rfl))
  have releasing := moveTraced ready 0 rfl (.spawn (.release rfl))
  have released := moveTraced releasing 0 rfl (.spawn (.released rfl))
  have removed := moveTraced released 0 rfl (.spawn (.removeTask rfl rfl))
  have dropped := moveTraced removed 0 rfl
    (.spawn (.stillAccepting rfl rfl))
  have obeyed :=
    @taskDescriptor_isObeyed _ dropped 0 _ rfl _ rfl nofun
  exact ⟨_, _, _, dropped, rfl, ⟨rfl, Or.inr rfl⟩, rfl, rfl, obeyed.1,
    obeyed.2.2.2⟩

/-- Exactly one of `run` and `cancel`, and then the release. -/
def RanOrCancelled (calls : List Call) : Prop :=
  calls = [.cancel, .release] ∨ ∃ ok, calls = [.run ok, .release]

theorem Pending.eq_nil (pending : Pending .spawnBlocking calls) :
    calls = [] := by
  obtain ⟨count, rfl, none⟩ := pending
  rw [none rfl]
  rfl

/-- The host calls exactly one of `run` and `cancel` on a `BlockingTask` that
it has dropped, unless `run` returned a failed `CallResult`. -/
theorem ranOrCancelled_iff (reached : tracedProgram.Reachable world)
    {thread : Nat} {traced : Traced}
    (running : world.threads thread = some traced) {spawn : Spawn}
    (isSpawn : traced.thread = .spawn spawn)
    (isBlocking : spawn.kind = .spawnBlocking)
    (dropped : spawn.dropped) :
    RanOrCancelled traced.calls ↔ .run false ∉ traced.calls := by
  have word := word_of_reachable reached running isSpawn
  rw [isBlocking, dropped.1] at word
  rcases word with ⟨before, ⟨_, pending, rfl⟩, same⟩ |
    ⟨before, pending | ⟨_, pending, rfl⟩, same⟩
  · rw [same, pending.eq_nil]
    simp [RanOrCancelled, SpawnKind.invoked]
  · rw [same, pending.eq_nil]
    simp [RanOrCancelled]
  · rw [same, pending.eq_nil]
    simp [RanOrCancelled, SpawnKind.invoked]

/-- A blocking closure whose `run` unwinds is cancelled as well. -/
theorem exists_run_cancelled :
    ∃ (world : TracedWorld) (spawn : Spawn) (traced : Traced),
      tracedProgram.Reachable world ∧
        world.threads 0 = some traced ∧ traced.thread = .spawn spawn ∧
        spawn.kind = .spawnBlocking ∧ spawn.dropped ∧
        traced.calls = [.run false, .cancel, .release] ∧
        ¬ RanOrCancelled traced.calls := by
  have forked :=
    forkTraced reachable_fresh_traced 0 rfl (.spawn .spawnBlocking 7)
  have reserved := moveTraced forked 0 rfl (.spawn (.reserve rfl rfl))
  have spawned := moveTraced reserved 0 rfl
    (.spawn (.hostSpawn 0 rfl rfl))
  have registered := moveTraced spawned 0 rfl (.spawn (.register rfl))
  have running := moveTraced registered 0 rfl
    (.spawn (.poll trivial rfl rfl))
  have unwound := moveTraced running 0 rfl (.spawn (.guestPanicked rfl))
  have cancelling := moveTraced unwound 0 rfl
    (.spawn (.cancel trivial (Or.inr rfl)))
  have releasing := moveTraced cancelling 0 rfl (.spawn (.cancelled rfl))
  have released := moveTraced releasing 0 rfl (.spawn (.released rfl))
  have removed := moveTraced released 0 rfl (.spawn (.removeTask rfl rfl))
  have dropped := moveTraced removed 0 rfl
    (.spawn (.stillAccepting rfl rfl))
  refine ⟨_, _, _, dropped, rfl, rfl, rfl, ⟨rfl, Or.inr rfl⟩, rfl, ?_⟩
  rintro (cancelled | ⟨ok, ran⟩)
  · cases cancelled
  · cases ran

/-- A blocking closure that the cutoff finds in the queue is cancelled. -/
theorem ranOrCancelled_iff_of_cutoff :
    ∃ traced : Traced, traced.calls = [.cancel, .release] ∧
      (RanOrCancelled traced.calls ↔ .run false ∉ traced.calls) := by
  have forked :=
    forkTraced reachable_fresh_traced 0 rfl (.spawn .spawnBlocking 7)
  have reserved := moveTraced forked 0 rfl (.spawn (.reserve rfl rfl))
  have spawned := moveTraced reserved 0 rfl
    (.spawn (.hostSpawn 0 rfl rfl))
  have registered := moveTraced spawned 0 rfl (.spawn (.register rfl))
  have began := forkTraced registered 1 rfl .shutdown
  have entered := moveTraced began 1 rfl (.shutdown (.callback rfl rfl))
  have cut := moveTraced entered 1 rfl (.shutdown (.cutoff rfl rfl))
  have ended := moveTraced cut 0 rfl (.spawn (.cutOff trivial rfl rfl))
  have cancelling := moveTraced ended 0 rfl
    (.spawn (.cancel trivial (Or.inr rfl)))
  have releasing := moveTraced cancelling 0 rfl (.spawn (.cancelled rfl))
  have released := moveTraced releasing 0 rfl (.spawn (.released rfl))
  have removed := moveTraced released 0 rfl (.spawn (.removeTask rfl rfl))
  have notifying := moveTraced removed 0 rfl
    (.spawn (.noLongerAccepting rfl rfl))
  have dropped := moveTraced notifying 0 rfl (.spawn (.notify rfl))
  exact ⟨_, rfl, @ranOrCancelled_iff _ dropped 0 _ rfl _ rfl rfl
    ⟨rfl, Or.inr rfl⟩⟩

end Telekio.Bridge
