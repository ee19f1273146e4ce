import Telekio.Affinity.Holders

/-!
# A `LocalRuntime` stays on its thread

Every use, move and drop of a `LocalRuntime` is on the thread that built it.
An owner shutdown refuses while one is open, and none is registered after its
cutoff.
-/

namespace Telekio.Affinity

open Telekio.Interleave
open Telekio.Owner

variable {shared : Shared} {current next : Call} {op : Op}

theorem touched_touch {contact : Contact} {thread : Nat}
    {touched : Option LocalRuntime}
    (before : ∀ touch ∈ shared.touches,
      touch.thread = touch.runtime.origin)
    (own : ∀ runtime, touched = some runtime → thread = runtime.origin) :
    ∀ touch ∈ (shared.touch contact thread touched).touches,
      touch.thread = touch.runtime.origin := by
  cases touched with
  | none => exact before
  | some runtime =>
      intro touch found
      rcases List.mem_cons.mp found with rfl | old
      · exact own runtime rfl
      · exact before touch old

/-- A call drops an `Arc` that it holds, on its own thread. -/
theorem mem_arcs_of_dropArc {runtime : RuntimeRef} {thread : Nat}
    (acts : Call.Acts shared current (.dropArc runtime thread) next) :
    runtime ∈ current.arcs ∧
      (current.thread = some thread ∨ current.thread = none) := by
  cases acts with
  | leave => exact ⟨List.mem_cons_self, Or.inl rfl⟩
  | dropReleased => exact ⟨List.mem_cons_self, Or.inl rfl⟩
  | ownerDrops => exact ⟨List.mem_cons_self, Or.inr rfl⟩
  | dropSnapshot => exact ⟨List.mem_cons_self, Or.inr rfl⟩

theorem moved_of_shutdownLocal {runtime : LocalRuntime} {thread : Nat}
    (acts : Call.Acts shared current (.shutdownLocal runtime thread)
      next) :
    current.moved = some runtime ∧
      (current.thread = some thread ∨ current.thread = none) := by
  cases acts with
  | shutdownRefused => exact ⟨rfl, Or.inl rfl⟩
  | shutdownLocal => exact ⟨rfl, Or.inl rfl⟩
  | ownerShutsDown => exact ⟨rfl, Or.inr rfl⟩

theorem held_of_dropArc {held : RuntimeOwner} {runtime : LocalRuntime}
    (dropped : held.dropArc.2 = some runtime) :
    ∃ slot, held.kind = .localSlot slot ∧ slot.runtime = some runtime := by
  unfold RuntimeOwner.dropArc at dropped
  split at dropped
  · cases isKind : held.kind with
    | localSlot slot =>
        rw [isKind] at dropped
        exact ⟨slot, rfl, dropped⟩
    | runtime =>
        rw [isKind] at dropped
        cases dropped
    | closed =>
        rw [isKind] at dropped
        cases dropped
  · cases dropped

/-- Only the thread of a `LocalRuntime` drops it with the last `Arc`. -/
theorem origin_of_dropArc (safe : shared.Safe)
    (callSafe : current.Safe shared) {runtime : RuntimeRef} {thread : Nat}
    (acts : Call.Acts shared current (.dropArc runtime thread) next)
    {held : RuntimeOwner} (known : shared.runtimes runtime = some held)
    {dropped : LocalRuntime} (last : held.dropArc.2 = some dropped) :
    thread = dropped.origin := by
  obtain ⟨holds, onThread⟩ := mem_arcs_of_dropArc acts
  obtain ⟨slot, isSlot, inSlot⟩ := held_of_dropArc last
  obtain ⟨kind, found, own⟩ := callSafe.arcs runtime holds
  have sound := safe.sound runtime held.kind (kind_eq_of_known known)
  rw [kind_eq_of_known known] at found
  obtain rfl := Option.some.inj found
  have isOwn := own slot isSlot
  rcases onThread with same | none
  · rw [same] at isOwn
    exact (Option.some.inj isOwn).trans (sound slot isSlot _ inSlot).symm
  · cases none.symm.trans isOwn

theorem touched_of_acts (acts : Call.Acts shared current op next)
    (callSafe : current.Safe shared) (safe : shared.Safe) :
    ∀ touch ∈ (op.apply shared).touches,
      touch.thread = touch.runtime.origin := by
  cases op with
  | registerRuntime runtime =>
      simp only [Op.apply]
      split <;> exact safe.touched
  | close runtime thread =>
      simp only [Op.apply]
      split
      · next held known =>
          refine touched_touch safe.touched fun moved carried => ?_
          cases result : (held.kind.close thread).2 with
          | error error =>
              rw [result] at carried
              cases carried
          | ok found =>
              rw [result] at carried
              obtain rfl : found = some moved := carried
              exact origin_of_close safe known result
      · exact safe.touched
  | shutdownLocal moved thread =>
      refine touched_touch safe.touched ?_
      rintro runtime ⟨⟩
      obtain ⟨holds, onThread⟩ := moved_of_shutdownLocal acts
      have own := callSafe.moved moved holds
      rcases onThread with same | none
      · exact Option.some.inj (same.symm.trans own)
      · cases none.symm.trans own
  | blockOn runtime thread =>
      simp only [Op.apply]
      split
      · next held known =>
          refine touched_touch safe.touched fun used carried => ?_
          cases result : held.kind.blockOn thread with
          | error error =>
              rw [result] at carried
              cases carried
          | ok found =>
              rw [result] at carried
              obtain rfl : found = some used := carried
              obtain ⟨slot, isSlot, own, inSlot⟩ :=
                RuntimeKind.held_of_blockOn result
              have sound :=
                safe.sound runtime held.kind (kind_eq_of_known known)
              exact own.symm.trans (sound slot isSlot used inSlot).symm
      · exact safe.touched
  | dropArc runtime thread =>
      simp only [Op.apply]
      split
      · next held known =>
          exact touched_touch safe.touched fun dropped last =>
            origin_of_dropArc safe callSafe acts known last
      · exact safe.touched
  | cloneRuntimes runtimes =>
      have kept : (Op.apply (.cloneRuntimes runtimes) shared).touches =
          shared.touches := by
        change (runtimes.foldl _ shared).touches = shared.touches
        clear acts callSafe safe
        induction runtimes generalizing shared with
        | nil => rfl
        | cons runtime runtimes inductionHypothesis =>
            exact inductionHypothesis
      rw [kept]
      exact safe.touched
  | _ => exact safe.touched

/-- What an operation does to the owner. -/
def Op.owner (op : Op) (shared : Shared) : OwnerState :=
  match op with
  | .registerRuntime runtime => (shared.owner.registerRuntime runtime).1
  | .unregisterRuntime id => shared.owner.unregisterRuntime id
  | .cutoff => (shared.owner.cutoff shared.localOpen).1
  | _ => shared.owner

theorem owner_apply (op : Op) (shared : Shared) :
    (op.apply shared).owner = op.owner shared := by
  cases op with
  | registerRuntime runtime =>
      simp only [Op.apply, Op.owner]
      split
      · next owner id registered => rw [registered]; rfl
      · next owner error refused => rw [refused]
  | close runtime thread =>
      simp only [Op.apply, Op.owner]
      split
      · exact Shared.owner_touch _ _ _
      · rfl
  | blockOn runtime thread =>
      simp only [Op.apply, Op.owner]
      split
      · exact Shared.owner_touch _ _ _
      · rfl
  | dropArc runtime thread =>
      simp only [Op.apply, Op.owner]
      split
      · exact Shared.owner_touch _ _ _
      · rfl
  | cloneRuntimes runtimes =>
      change (runtimes.foldl _ shared).owner = shared.owner
      induction runtimes generalizing shared with
      | nil => rfl
      | cons runtime runtimes inductionHypothesis =>
          exact inductionHypothesis _
  | _ => rfl

/-- A runtime that was not there before has just been built. -/
theorem kind_of_none {runtime : RuntimeRef} {kind : RuntimeKind}
    (absent : shared.kind runtime = none)
    (found : (op.apply shared).kind runtime = some kind) :
    op = .new runtime kind := by
  have unmodified : ∀ (state : Shared) (other : RuntimeRef)
      (change : RuntimeOwner → RuntimeOwner),
      state.kind runtime = none →
      (state.modify other change).kind runtime = none := by
    intro state other change absent
    rw [Shared.kind_modify]
    by_cases same : runtime = other
    · subst same
      simpa [Shared.kind] using absent
    · rwa [if_neg same]
  suffices kept : op ≠ .new runtime kind →
      (op.apply shared).kind runtime = none by
    by_contra different
    rw [kept different] at found
    cases found
  intro different
  cases op with
  | new other built =>
      by_cases same : runtime = other
      · subst same
        have isBuilt : built = kind := by
          simpa [Op.apply, Shared.kind] using found
        exact absurd (isBuilt ▸ rfl) different
      · simpa [Op.apply, Shared.kind, same] using absent
  | registerRuntime other =>
      simp only [Op.apply]
      split
      · exact unmodified _ _ _ absent
      · exact absent
  | close other thread =>
      simp only [Op.apply]
      split
      · rw [Shared.kind_touch]
        exact unmodified _ _ _ absent
      · exact absent
  | blockOn other thread =>
      simp only [Op.apply]
      split
      · rwa [Shared.kind_touch]
      · exact absent
  | dropArc other thread =>
      simp only [Op.apply]
      split
      · rw [Shared.kind_touch]
        exact unmodified _ _ _ absent
      · exact absent
  | cloneRuntimes runtimes =>
      change (runtimes.foldl _ shared).kind runtime = none
      clear found different
      induction runtimes generalizing shared with
      | nil => exact absent
      | cons other runtimes inductionHypothesis =>
          exact inductionHypothesis (unmodified _ _ _ absent)
  | _ => exact absent

theorem sound_of_acts (acts : Call.Acts shared current op next)
    (safe : shared.Safe) {runtime : RuntimeRef} {kind : RuntimeKind}
    (found : (op.apply shared).kind runtime = some kind) :
    kind.Sound := by
  cases before : shared.kind runtime with
  | none =>
      obtain rfl := kind_of_none before found
      cases acts with
      | buildRuntime _ _ flavor fresh =>
          rcases flavor with rfl | rfl
          · rintro slot ⟨⟩
          · rintro slot ⟨⟩ built ⟨⟩
            rfl
  | some held =>
      obtain ⟨after, foundAfter, same | closed⟩ :=
        (later_of_acts acts).kinds runtime held before
      · obtain rfl := Option.some.inj (foundAfter.symm.trans found)
        exact same ▸ safe.sound runtime held before
      · obtain rfl := Option.some.inj (foundAfter.symm.trans found)
        rintro slot rfl
        cases closed

/-- A record that is there was there before, or is being made by the call
that holds the runtime, while the owner accepts. -/
theorem lookup_of_acts (acts : Call.Acts shared current op next)
    {id : Nat} {runtime : RuntimeRef}
    (found : (op.apply shared).owner.state.runtimes.lookup id =
      some runtime) :
    shared.owner.state.runtimes.lookup id = some runtime ∨
      (runtime ∈ current.arcs ∧ shared.owner.accepting = true ∧
        (op.apply shared).owner.accepting = true) := by
  rw [owner_apply] at found ⊢
  cases op with
  | registerRuntime other =>
      have isBuilt : current.arcs = [other] := by
        cases acts <;> rfl
      simp only [Op.owner, OwnerState.registerRuntime] at found ⊢
      by_cases running : shared.owner.accepting = true
      · simp only [OwnerState.isAccepting, running, Bool.not_true,
          Bool.false_eq_true, if_false, Table.lookup_insert_eq] at found ⊢
        by_cases same : id = shared.owner.state.nextId
        · rw [if_pos same] at found
          obtain rfl := Option.some.inj found
          exact Or.inr ⟨by simp [isBuilt], trivial, trivial⟩
        · rw [if_neg same] at found
          exact Or.inl found
      · simp only [OwnerState.isAccepting, running, Bool.not_false,
          if_true] at found
        exact Or.inl found
  | unregisterRuntime other =>
      simp only [Op.owner, OwnerState.unregisterRuntime,
        Table.lookup_erase_eq] at found
      split at found
      · cases found
      · exact Or.inl found
  | cutoff =>
      simp only [Op.owner, OwnerState.cutoff] at found
      split at found
      · exact Or.inl found
      · exact Or.inl found
  | _ => exact Or.inl found

theorem localOpen_of_later {before after : Shared} {runtime : RuntimeRef}
    (later : Later before after) (known : (before.kind runtime).isSome)
    (closed : before.localOpen runtime = false) :
    after.localOpen runtime = false := by
  obtain ⟨kind, found⟩ := Option.isSome_iff_exists.mp known
  obtain ⟨next, foundNext, same | closedNext⟩ :=
    later.kinds runtime kind found
  · subst same
    simpa [Shared.localOpen, foundNext, found] using closed
  · simp [Shared.localOpen, foundNext, closedNext]

/-- A cutoff finds no open `LocalRuntime`, or changes nothing. -/
theorem localOpen_of_cutoff
    (acts : Call.Acts shared current .cutoff next)
    (refusing : (Op.apply .cutoff shared).owner.accepting = false)
    {id : Nat} {runtime : RuntimeRef}
    (registered :
      shared.owner.state.runtimes.lookup id = some runtime) :
    shared.owner.accepting = false ∨
      shared.localOpen runtime = false := by
  cases acts with
  | refuseCutoff refused =>
      rw [owner_apply] at refusing
      change (shared.owner.cutoff _).1.accepting = false at refusing
      rw [OwnerState.cutoff_eq_error refused] at refusing
      exact Or.inl refusing
  | cutoff succeeded =>
      have none := (OwnerState.cutoff_eq_ok succeeded).2.2
      rw [List.any_eq_false] at none
      have closed := none runtime (Table.mem_values.mpr ⟨id, registered⟩)
      exact Or.inr (Bool.eq_false_iff.mpr closed)

theorem safe_of_acts (acts : Call.Acts shared current op next)
    (callSafe : current.Safe shared) (safe : shared.Safe) :
    (op.apply shared).Safe where
  sound := fun _ _ found => sound_of_acts acts safe found
  registered := by
    intro id runtime found
    have known : (shared.kind runtime).isSome := by
      rcases lookup_of_acts acts found with old | ⟨held, -⟩
      · exact safe.registered id runtime old
      · obtain ⟨kind, present, -⟩ := callSafe.arcs runtime held
        exact Option.isSome_iff_exists.mpr ⟨kind, present⟩
    obtain ⟨kind, present⟩ := Option.isSome_iff_exists.mp known
    obtain ⟨after, presentAfter, -⟩ :=
      (later_of_acts acts).kinds runtime kind present
    exact Option.isSome_iff_exists.mpr ⟨after, presentAfter⟩
  cut := by
    intro refusing id runtime found
    have later := later_of_acts acts
    rcases lookup_of_acts acts found with old | ⟨-, -, running⟩
    · refine localOpen_of_later later (safe.registered id runtime old) ?_
      by_cases isCutoff : op = .cutoff
      · subst isCutoff
        rcases localOpen_of_cutoff acts refusing old with before | closed
        · exact safe.cut before id runtime old
        · exact closed
      · have same : (op.apply shared).owner.accepting =
            shared.owner.accepting := by
          rw [owner_apply]
          cases op with
          | registerRuntime other => exact registerRuntime_accepting _ _
          | cutoff => exact absurd rfl isCutoff
          | _ => rfl
        exact safe.cut (same ▸ refusing) id runtime old
    · rw [refusing] at running
      cases running
  touched := touched_of_acts acts callSafe safe

/-- Every reachable world is safe, and so is every call in it. -/
theorem safe_of_reachable {world : World}
    (reached : program.Reachable world) :
    world.shared.Safe ∧ ∀ thread call,
      world.threads thread = some call → call.Safe world.shared := by
  refine Program.invariant
    (fun world => world.shared.Safe ∧ ∀ thread call,
      world.threads thread = some call → call.Safe world.shared)
    ?_ ?_ reached
  · rintro shared rfl
    exact ⟨⟨nofun, nofun, nofun, nofun⟩, nofun⟩
  · rintro before after - step ⟨safe, calls⟩
    cases step with
    | fork free starts =>
        refine ⟨safe, ?_⟩
        intro thread call running
        rcases World.threads_put_cases running with
          ⟨rfl, rfl⟩ | ⟨_, old⟩
        · cases starts <;> exact ⟨nofun, nofun, nofun⟩
        · exact calls thread call old
    | move moves =>
        obtain ⟨moving, acts⟩ := moves
        have own := calls _ _ moving
        refine ⟨safe_of_acts acts own safe, ?_⟩
        intro thread call running
        rcases World.threads_put_cases running with
          ⟨rfl, rfl⟩ | ⟨_, old⟩
        · exact callSafe_of_acts acts own safe
        · exact (calls thread call old).later (later_of_acts acts)

/-! ## Owner shutdowns and foreign threads -/

/-- An owner shutdown has no `Arc` of an open `LocalRuntime`. -/
theorem localOpen_of_snapshot (callSafe : current.Safe shared)
    (unbound : current.thread = none) {runtime : RuntimeRef}
    (held : runtime ∈ current.arcs) :
    shared.localOpen runtime = false := by
  obtain ⟨kind, found, own⟩ := callSafe.arcs runtime held
  cases kind with
  | localSlot slot =>
      have isOwn := own slot rfl
      rw [unbound] at isOwn
      cases isOwn
  | runtime => simp [Shared.localOpen, found, RuntimeKind.localOpen]
  | closed => simp [Shared.localOpen, found, RuntimeKind.localOpen]

theorem kind_modify_of_open {runtime other : RuntimeRef}
    {change : RuntimeOwner → RuntimeOwner}
    (isOpen : shared.localOpen runtime = true)
    (notOpen : shared.localOpen other = false) :
    (shared.modify other change).kind runtime = shared.kind runtime := by
  rw [Shared.kind_modify, if_neg]
  rintro rfl
  cases isOpen.symm.trans notOpen

theorem carried_eq_none {held : RuntimeOwner} {runtime : RuntimeRef}
    {thread : Nat} (known : shared.runtimes runtime = some held)
    (notOpen : shared.localOpen runtime = false) :
    Op.carried (held.kind.close thread).2 = none := by
  cases result : (held.kind.close thread).2 with
  | error error => rfl
  | ok moved =>
      cases moved with
      | none => rfl
      | some moved =>
          obtain ⟨slot, isSlot, -⟩ := RuntimeKind.held_of_close result
          simp [Shared.localOpen, kind_eq_of_known known, isSlot,
            RuntimeKind.localOpen] at notOpen

theorem dropped_eq_none {held : RuntimeOwner} {runtime : RuntimeRef}
    (known : shared.runtimes runtime = some held)
    (notOpen : shared.localOpen runtime = false) :
    held.dropArc.2 = none := by
  cases dropped : held.dropArc.2 with
  | none => rfl
  | some other =>
      obtain ⟨slot, isSlot, -⟩ := held_of_dropArc dropped
      simp [Shared.localOpen, kind_eq_of_known known, isSlot,
        RuntimeKind.localOpen] at notOpen

/-- The call touches no `LocalRuntime` and leaves the open ones open. -/
def Untouched (before after : Shared) : Prop :=
  after.touches = before.touches ∧ ∀ runtime,
    before.localOpen runtime = true →
    after.kind runtime = before.kind runtime

theorem untouched_close {runtime : RuntimeRef} {held : RuntimeOwner}
    (thread : Nat) (known : shared.runtimes runtime = some held)
    (notOpen : shared.localOpen runtime = false) :
    Untouched shared (Op.apply (.close runtime thread) shared) := by
  simp only [Op.apply, known]
  rw [carried_eq_none known notOpen]
  exact ⟨rfl, fun other isOpen => kind_modify_of_open isOpen notOpen⟩

theorem untouched_dropArc {runtime : RuntimeRef} (thread : Nat)
    (notOpen : shared.localOpen runtime = false) :
    Untouched shared (Op.apply (.dropArc runtime thread) shared) := by
  simp only [Op.apply]
  split
  · next held known =>
      rw [dropped_eq_none known notOpen]
      exact ⟨rfl, fun other isOpen => kind_modify_of_open isOpen notOpen⟩
  · exact ⟨rfl, fun _ _ => rfl⟩

theorem untouched_cloneRuntimes (runtimes : List RuntimeRef) :
    Untouched shared (Op.apply (.cloneRuntimes runtimes) shared) := by
  change Untouched shared (runtimes.foldl _ shared)
  refine ⟨?_, fun runtime _ => ?_⟩
  · induction runtimes generalizing shared with
    | nil => rfl
    | cons runtime runtimes inductionHypothesis =>
        exact inductionHypothesis
  · clear * -
    induction runtimes generalizing shared with
    | nil => rfl
    | cons other runtimes inductionHypothesis =>
        refine inductionHypothesis.trans ?_
        rw [Shared.kind_modify]
        by_cases same : runtime = other
        · subst same
          rw [if_pos rfl]
          rfl
        · rw [if_neg same]

/-- No move of an owner shutdown uses, closes or drops a `LocalRuntime`. -/
theorem untouched_of_shutdownOwner {stage : OwnerStage}
    (callSafe : (Call.shutdownOwner stage).Safe shared)
    (acts : Call.Acts shared (.shutdownOwner stage) op next) :
    Untouched shared (op.apply shared) := by
  have notOpen : ∀ runtime ∈ (Call.shutdownOwner stage).arcs,
      shared.localOpen runtime = false :=
    fun runtime held => localOpen_of_snapshot callSafe rfl held
  have moved := callSafe.moved
  cases acts with
  | ownerCloses thread known succeeded =>
      exact untouched_close thread known (notOpen _ List.mem_cons_self)
  | ownerFails thread known failed =>
      exact untouched_close thread known (notOpen _ List.mem_cons_self)
  | ownerShutsDown thread => cases moved _ rfl
  | ownerDrops thread =>
      exact untouched_dropArc thread (notOpen _ List.mem_cons_self)
  | dropSnapshot thread =>
      exact untouched_dropArc thread (notOpen _ List.mem_cons_self)
  | list => exact untouched_cloneRuntimes _
  | _ => exact ⟨rfl, fun _ _ => rfl⟩

/-- A `shutdown` or `runtime_block_on` on the wrong thread. -/
def Foreign (shared : Shared) (call : Call) : Prop :=
  ∃ thread runtime slot,
    shared.kind runtime = some (.localSlot slot) ∧ thread ≠ slot.thread ∧
      (call = .shutdown thread runtime .called ∨
        call = .blockOn thread runtime none)

/-- The call has returned an error. -/
def Failed : Call → Prop
  | .shutdown _ _ (.returned (.error _)) => True
  | .blockOn _ _ (some (.error _)) => True
  | _ => False

theorem modify_eq_self {runtime : RuntimeRef} {held : RuntimeOwner}
    {change : RuntimeOwner → RuntimeOwner}
    (known : shared.runtimes runtime = some held)
    (same : change held = held) :
    shared.modify runtime change = shared := by
  rw [Shared.modify, known, Option.map_some, same, ← known,
    Function.update_eq_self]

theorem failed_of_foreign (foreign : Foreign shared current)
    (acts : Call.Acts shared current op next) :
    Failed next ∧ op.apply shared = shared := by
  obtain ⟨thread, runtime, slot, isSlot, different, isCall⟩ := foreign
  obtain ⟨held, known, isKind⟩ := Option.map_eq_some_iff.mp isSlot
  have closes := RuntimeKind.close_of_ne different
  have blocks := RuntimeKind.blockOn_of_ne different
  rw [← isKind] at closes blocks
  have refused : Op.apply (.close runtime thread) shared = shared := by
    simp only [Op.apply, known]
    rw [closes]
    refine modify_eq_self known ?_
    rw [closes]
  rcases isCall with rfl | rfl
  · cases acts with
    | shutdown knownAgain succeeded =>
        rw [known] at knownAgain
        obtain rfl := Option.some.inj knownAgain
        rw [closes] at succeeded
        cases succeeded
    | shutdownNothing knownAgain succeeded =>
        rw [known] at knownAgain
        obtain rfl := Option.some.inj knownAgain
        rw [closes] at succeeded
        cases succeeded
    | shutdownFails knownAgain failed => exact ⟨trivial, refused⟩
  · cases acts with
    | blockOn knownAgain =>
        rw [known] at knownAgain
        obtain rfl := Option.some.inj knownAgain
        rw [blocks]
        refine ⟨trivial, ?_⟩
        simp [Op.apply, known, blocks, Op.carried, Shared.touch]

/-- A `LocalRuntime` is touched only on the thread that built it; an owner
shutdown touches none, refuses while one is open, and leaves none to come;
and a `shutdown` or `runtime_block_on` on another thread fails and changes
nothing. -/
theorem localRuntime_staysOnThread {world : World}
    (reached : program.Reachable world) :
    (∀ touch ∈ world.shared.touches,
      touch.thread = touch.runtime.origin) ∧
    (∀ thread stage op next,
      world.threads thread = some (.shutdownOwner stage) →
      Call.Acts world.shared (.shutdownOwner stage) op next →
      Untouched world.shared (op.apply world.shared)) ∧
    ((∃ id runtime,
        world.shared.owner.state.runtimes.lookup id = some runtime ∧
          world.shared.localOpen runtime = true) →
      ∃ error, (world.shared.owner.cutoff world.shared.localOpen).2 =
        .error error) ∧
    (world.shared.owner.accepting = false →
      (∀ id runtime,
        world.shared.owner.state.runtimes.lookup id = some runtime →
        world.shared.localOpen runtime = false) ∧
      ∀ runtime, ∃ error,
        (world.shared.owner.registerRuntime runtime).2 = .error error) ∧
    ∀ thread call op next, world.threads thread = some call →
      Foreign world.shared call →
      Call.Acts world.shared call op next →
      Failed next ∧ op.apply world.shared = world.shared := by
  obtain ⟨safe, calls⟩ := safe_of_reachable reached
  refine ⟨safe.touched, ?_, ?_, ?_, ?_⟩
  · intro thread stage op next running acts
    exact untouched_of_shutdownOwner (calls thread _ running) acts
  · rintro ⟨id, runtime, registered, isOpen⟩
    have found := List.any_eq_true.mpr
      ⟨runtime, Table.mem_values.mpr ⟨id, registered⟩, isOpen⟩
    rw [OwnerState.cutoff, if_pos found]
    exact ⟨_, rfl⟩
  · intro refusing
    refine ⟨safe.cut refusing, fun runtime => ?_⟩
    simp [OwnerState.registerRuntime, OwnerState.isAccepting, refusing]
  · intro thread call op next _ foreign acts
    exact failed_of_foreign foreign acts

/-- A `LocalRuntime` is built on one thread and not shut down on another,
while an owner shutdown waits. -/
theorem localRuntime_staysOnThread_of_foreign :
    ∃ world : World, program.Reachable world ∧
      Foreign world.shared (.shutdown 4 0 .called) ∧
      world.threads 1 = some (.shutdown 4 0 .called) ∧
      (∃ error,
        (world.shared.owner.cutoff world.shared.localOpen).2 =
          .error error) ∧
      ∀ op next,
        Call.Acts world.shared (.shutdown 4 0 .called) op next →
        Failed next ∧ op.apply world.shared = world.shared := by
  have built := (reachable_fresh.fork 0 rfl (.build 3)).move 0 rfl
    (.buildRuntime 0 _ (Or.inr rfl) rfl)
  have registered := built.move 0 rfl (.register rfl)
  have returned := registered.move 0 rfl .leave
  have called := returned.fork 1 rfl (.shutdown 4 0)
  have stays := localRuntime_staysOnThread called
  refine ⟨_, called, ⟨4, 0, .new 3, rfl, by decide, Or.inl rfl⟩, rfl,
    stays.2.2.1 ⟨1, 0, rfl, rfl⟩, fun op next acts => ?_⟩
  exact stays.2.2.2.2 1 _ op next rfl
    ⟨4, 0, .new 3, rfl, by decide, Or.inl rfl⟩ acts

end Telekio.Affinity
