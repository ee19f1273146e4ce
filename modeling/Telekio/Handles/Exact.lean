import Telekio.Handles.Counts

/-!
# Handle references are exact

When no drop of a `Runtime` unwinds, the record of a context is there exactly
as long as a reference is, no retain or release fails, and a failed attach
leaves its owner without records.
-/

namespace Telekio.Handles

open Telekio.Interleave
open Telekio.Owner

variable {shared : Shared} {current next : Thread} {op : Op}
variable {owner : Nat} {context other : ContextRef}

theorem holds_pos {thread : Thread} {ref : Ref}
    (member : ref ∈ thread.refs) : 0 < thread.holds ref.context :=
  List.countP_pos_iff.mpr ⟨ref, member, by simp⟩

theorem rests_pos_of_attached (attached : shared.attached = some context) :
    0 < shared.rests context := by
  rw [Shared.rests, if_pos attached]
  exact Nat.succ_pos _

theorem rests_pos_of_clonable (clonable : shared.clonable context) :
    0 < shared.rests context := by
  rcases clonable with attached | ⟨kind, -, resting⟩
  · exact rests_pos_of_attached attached
  · have counted :
        0 < shared.resting.countP (·.context = context) :=
      List.countP_pos_iff.mpr ⟨_, resting, by simp⟩
    rw [Shared.rests]
    omega

/-- Only a context that has a reference is retained. -/
theorem referred_of_retain
    (acts : Thread.Acts shared current (.retain context) next) :
    0 < shared.rests context + current.holds context := by
  have held : ∀ attach : Attach, attach.stage = .owned →
      0 < (Thread.attach attach).holds attach.context := by
    intro attach owned
    refine @holds_pos (.attach attach) ⟨.handle, attach.context⟩ ?_
    simp [Thread.refs, Attach.refs, owned]
  cases acts with
  | attach acts =>
      cases acts with
      | clone isRuntime owned succeeded =>
          exact Nat.lt_add_left _ (held _ owned)
      | cloneFails isRuntime owned failed =>
          exact Nat.lt_add_left _ (held _ owned)
  | build acts =>
      cases acts with
      | clone attached succeeded =>
          exact Nat.lt_add_right _ (rests_pos_of_attached attached)
      | cloneFails attached failed =>
          exact Nat.lt_add_right _ (rests_pos_of_attached attached)
  | client acts =>
      cases acts with
      | clone clonable succeeded =>
          exact Nat.lt_add_right _ (rests_pos_of_clonable clonable)
      | cloneFails clonable failed =>
          exact Nat.lt_add_right _ (rests_pos_of_clonable clonable)

theorem failed_newContext :
    (Op.apply (.newContext owner context) shared).failed =
      shared.failed := by
  simp only [Op.apply]
  split <;> rfl

theorem not_failed_of_reachable {world : World}
    (reached : (program.restrict Allowed).Reachable world) :
    world.shared.failed = false := by
  refine @Program.shared_invariant _ _ _ (program.restrict Allowed)
    (fun shared => shared.failed = false) ?_ ?_ _ reached
  · rintro shared rfl
    rfl
  · rintro world thread current op next reached running
      ⟨acts, allowed⟩ unfailed
    have sound :=
      sound_of_reachable (Program.reachable_of_restrict reached)
    have referred (context : ContextRef) :=
      Program.le_of_balanced ((balancing context).balanced reached) running
    cases op with
    | retain context =>
        have positive := referred_of_retain acts
        exact (retain_of_recorded sound
          (Nat.lt_of_lt_of_le positive (referred context))).2.trans
          unfailed
    | release context =>
        have holds := holds_of_release acts context
        rw [if_pos rfl] at holds
        have positive : 0 < world.shared.references context := by
          have bound := referred context
          omega
        exact (release_of_recorded sound positive).2.trans unfailed
    | newContext owner context => exact failed_newContext.trans unfailed
    | _ => exact unfailed

/-- An attach call has its owner for itself until it has succeeded. -/
def Thread.Owns (thread : Thread) (owner : Nat) : Prop :=
  ∃ attach, thread = .attach attach ∧ attach.owner = owner ∧
    attach.stage ≠ .called ∧ attach.stage ≠ .attached

/-- The owner is there, and no plugin is attached to it. -/
def Shared.Unpublished (shared : Shared) (owner : Nat) : Prop :=
  (shared.owners owner).isSome ∧ shared.published owner = false

theorem owner_of_acts {attach after : Attach}
    (acts : Attach.Acts shared attach op after) :
    after.owner = attach.owner ∧ after.context = attach.context ∧
      after.entry = attach.entry ∧ after.stage ≠ .called := by
  cases acts <;> exact ⟨rfl, rfl, rfl, nofun⟩

theorem owners_setOwner (shared : Shared) (state : OwnerState)
    (known : (shared.owners other).isSome) :
    ((shared.setOwner owner state).owners other).isSome := by
  by_cases same : other = owner
  · simp [Shared.setOwner, same]
  · simpa [Shared.setOwner, same] using known

theorem owners_kept (op : Op) (known : (shared.owners owner).isSome) :
    ((op.apply shared).owners owner).isSome := by
  cases op with
  | newOwner found context => exact owners_setOwner shared _ known
  | newContext found context =>
      simp only [Op.apply]
      split
      · exact owners_setOwner shared _ known
      · exact known
  | retain context =>
      simp only [Op.apply]
      split
      · exact owners_setOwner shared _ known
      · exact known
  | release context =>
      simp only [Op.apply]
      split
      · exact owners_setOwner shared _ known
      · exact known
  | _ => exact known

/-- Only `ATTACHED.set` publishes an owner. -/
theorem published_apply (op : Op) :
    (∃ context owner, op = .install context owner) ∨
      (op.apply shared).published = shared.published := by
  cases op with
  | install context owner => exact Or.inl ⟨context, owner, rfl⟩
  | newContext owner context =>
      simp only [Op.apply]
      exact Or.inr (by split <;> rfl)
  | retain context =>
      simp only [Op.apply]
      exact Or.inr (by split <;> rfl)
  | release context =>
      simp only [Op.apply]
      exact Or.inr (by split <;> rfl)
  | _ => exact Or.inr rfl

theorem owns_of_install
    (acts : Thread.Acts shared current (.install context owner) next) :
    ∃ attach after, current = .attach attach ∧ next = .attach after ∧
      attach.owner = owner ∧ attach.context = context ∧
      attach.stage ≠ .called ∧ attach.stage ≠ .attached ∧
      after.stage = .attached := by
  cases acts with
  | attach acts =>
      cases acts with
      | install isRuntime built vacant =>
          exact ⟨_, _, rfl, rfl, rfl, rfl, by simp [built],
            by simp [built], rfl⟩
      | installPlain plain owned vacant =>
          exact ⟨_, _, rfl, rfl, rfl, rfl, by simp [owned],
            by simp [owned], rfl⟩
  | build acts => cases acts
  | client acts => cases acts

/-- What a move of an attach call keeps to itself or takes new. -/
theorem owns_of_acts (acts : Thread.Acts shared current op next)
    (owns : next.Owns owner) :
    current.Owns owner ∨
      shared.owners owner = none ∧ ∃ context, op = .newOwner owner context := by
  obtain ⟨after, rfl, rfl, called, attached⟩ := owns
  cases acts with
  | attach acts =>
      cases acts with
      | enter called newOwner fresh => exact Or.inr ⟨newOwner, _, rfl⟩
      | install => exact absurd rfl attached
      | installPlain => exact absurd rfl attached
      | fromAbi stage | dropDisabled _ stage | clone _ stage
      | cloneFails _ stage | build stage | buildFails stage
      | leaveFailing stage | refuse stage | leaveRefusing stage
      | refusePlain _ stage =>
          exact Or.inl ⟨_, rfl, rfl, by simp [stage], by simp [stage]⟩

/-- A context keeps its owner. -/
theorem contextOwner_kept
    (acts : Thread.Acts shared current op next)
    (owns : shared.contextOwner context = some owner) :
    (op.apply shared).contextOwner context = some owner := by
  have different : ∀ other, shared.contextOwner other = none →
      context ≠ other := by
    rintro other fresh rfl
    rw [fresh] at owns
    cases owns
  cases op with
  | newOwner found other =>
      have unlike := different other (fresh_of_newOwner acts).2
      exact (Function.update_of_ne unlike _ _).trans owns
  | newContext found other =>
      have unlike := different other (fresh_of_newContext acts).1
      simp only [Op.apply]
      split
      · exact (Function.update_of_ne unlike _ _).trans owns
      · exact owns
  | retain other =>
      simp only [Op.apply]
      split <;> exact owns
  | release other =>
      simp only [Op.apply]
      split <;> exact owns
  | _ => exact owns

/-- The context of an attach call belongs to its owner. -/
theorem contextOwner_of_attach {world : World}
    (reached : program.Reachable world) {thread : Nat} {attach : Attach}
    (running : world.threads thread = some (.attach attach))
    (entered : attach.stage ≠ .called) :
    world.shared.contextOwner attach.context = some attach.owner := by
  refine Program.thread_invariant
    (fun shared thread => ∀ attach, thread = .attach attach →
      attach.stage ≠ .called →
      shared.contextOwner attach.context = some attach.owner)
    ?_ ?_ ?_ reached running attach rfl entered
  · rintro world first reached starts attach rfl entered
    cases starts
    exact absurd rfl entered
  · rintro world thread current op next reached running acts held after
      rfl entered
    have kept (context : ContextRef) (owner : Nat) :=
      @contextOwner_kept _ _ _ _ owner context acts
    cases acts with
    | @attach attach _ _ acts =>
        obtain ⟨sameOwner, sameContext, -⟩ := owner_of_acts acts
        by_cases called : attach.stage = .called
        · cases acts with
          | enter => exact Function.update_self _ _ _
          | fromAbi stage | dropDisabled _ stage | clone _ stage
          | cloneFails _ stage | build stage | buildFails stage
          | leaveFailing stage | install _ stage | refuse stage
          | leaveRefusing stage | installPlain _ stage
          | refusePlain _ stage =>
              rw [stage] at called
              cases called
        · rw [sameOwner, sameContext]
          exact kept _ _ (held attach rfl called)
  · rintro world thread bystander current op next held reached - running
      - acts known attach rfl entered
    exact contextOwner_kept acts (known attach rfl entered)

/-- A plugin is only attached to an owner that is there. -/
theorem owners_of_published {world : World}
    (reached : program.Reachable world) {owner : Nat}
    (published : world.shared.published owner = true) :
    (world.shared.owners owner).isSome := by
  refine Program.shared_invariant
    (fun shared => ∀ owner, shared.published owner = true →
      (shared.owners owner).isSome) ?_ ?_ reached owner published
  · rintro shared rfl owner published
    cases published
  · intro world thread current op next reached running acts known owner
      published
    refine owners_kept op ?_
    rcases @published_apply world.shared op with
      ⟨context, found, rfl⟩ | same
    · obtain ⟨attach, after, rfl, rfl, rfl, rfl, entered, -⟩ :=
        owns_of_install acts
      by_cases isOwner : owner = attach.owner
      · rw [isOwner]
        exact (sound_of_reachable reached).owned _ _
          (contextOwner_of_attach reached running entered)
      · refine known owner ?_
        rw [← published]
        exact (Function.update_of_ne isOwner _ _).symm
    · exact known owner ((congrFun same owner).symm.trans published)

/-- Until it succeeds, an attach call has its owner for itself. -/
theorem owning : program.Owning Shared.Unpublished Thread.Owns where
  starts := by
    rintro first owner starts ⟨attach, rfl, -, notCalled, -⟩
    cases starts
    exact notCalled rfl
  acquires := by
    intro world thread current op next owner reached running acts owns
    rcases owns_of_acts acts owns with already | ⟨absent, -⟩
    · exact Or.inl already
    · refine Or.inr fun present => ?_
      rw [Shared.Unpublished, absent] at present
      exact absurd present.1 Bool.false_ne_true
  keeps := by
    intro world thread current op next owner reached running acts kept owns
    have unpublished : (op.apply world.shared).published =
        world.shared.published := by
      rcases @published_apply world.shared op with
        ⟨context, found, rfl⟩ | same
      · obtain ⟨attach, after, -, rfl, -, -, -, -, attached⟩ :=
          owns_of_install acts
        obtain ⟨_, same, -, -, unlike⟩ := owns
        cases same
        exact absurd attached unlike
      · exact same
    rcases owns_of_acts acts owns with already | ⟨absent, context, rfl⟩
    · obtain ⟨known, before⟩ := kept already
      exact ⟨owners_kept op known, (congrFun unpublished _).trans before⟩
    · refine ⟨?_, ?_⟩
      · change (Function.update world.shared.owners owner _ owner).isSome
        rw [Function.update_self]
        rfl
      refine (congrFun unpublished _).trans (Bool.eq_false_iff.mpr ?_)
      intro published
      have known := owners_of_published reached published
      rw [absent] at known
      cases known
  releases := by
    rintro world thread current op next owner reached running acts
      ⟨known, unpublished⟩ gone
    rcases @published_apply world.shared op with
      ⟨context, found, rfl⟩ | same
    · obtain ⟨attach, after, rfl, rfl, rfl, rfl, called, attached, -⟩ :=
        owns_of_install acts
      refine ⟨attach, rfl, ?_, called, attached⟩
      by_contra different
      refine gone ⟨known, ?_⟩
      refine (Function.update_of_ne ?_ _ _).trans unpublished
      exact Ne.symm different
    · exact absurd
        ⟨owners_kept op known, (congrFun same _).trans unpublished⟩ gone

/-! ## Where references to a context may be -/

/-- A plugin is attached to the owner of the context. -/
def Shared.Public (shared : Shared) (context : ContextRef) : Prop :=
  ∃ owner, shared.contextOwner context = some owner ∧
    shared.published owner = true

/-- What rests in the plugin, and what the calls other than the attach calls
have in their hands, is public. -/
structure PublicRefs (world : World) : Prop where
  attached : ∀ context, world.shared.attached = some context →
    world.shared.Public context
  resting : ∀ ref, ref ∈ world.shared.resting →
    world.shared.Public ref.context
  held : ∀ thread found ref, world.threads thread = some found →
    ref ∈ found.refs →
    (∃ attach, found = .attach attach) ∨ world.shared.Public ref.context

/-- A plugin stays attached. -/
theorem published_kept (op : Op) (published : shared.published owner = true) :
    (op.apply shared).published owner = true := by
  rcases @published_apply shared op with ⟨context, found, rfl⟩ | same
  · by_cases isOwner : owner = found
    · rw [isOwner]
      exact Function.update_self _ _ _
    · exact (Function.update_of_ne isOwner _ _).trans published
  · exact (congrFun same owner).trans published

theorem public_kept (acts : Thread.Acts shared current op next)
    (isPublic : shared.Public context) :
    (op.apply shared).Public context := by
  obtain ⟨owner, owns, published⟩ := isPublic
  exact ⟨owner, contextOwner_kept acts owns, published_kept op published⟩

theorem public_of_clonable {world : World} (refs : PublicRefs world)
    (clonable : world.shared.clonable context) :
    world.shared.Public context := by
  rcases clonable with attached | ⟨kind, -, resting⟩
  · exact refs.attached context attached
  · exact refs.resting _ resting

theorem attached_apply (op : Op) :
    (∃ context owner, op = .install context owner) ∨
      (op.apply shared).attached = shared.attached := by
  cases op with
  | install context owner => exact Or.inl ⟨context, owner, rfl⟩
  | newContext owner context =>
      simp only [Op.apply]
      exact Or.inr (by split <;> rfl)
  | retain context =>
      simp only [Op.apply]
      exact Or.inr (by split <;> rfl)
  | release context =>
      simp only [Op.apply]
      exact Or.inr (by split <;> rfl)
  | _ => exact Or.inr rfl

theorem resting_apply (op : Op) {ref : Ref}
    (resting : ref ∈ (op.apply shared).resting) :
    op = .put ref ∨ ref ∈ shared.resting := by
  cases op with
  | put found =>
      rcases List.mem_cons.mp resting with rfl | resting
      · exact Or.inl rfl
      · exact Or.inr resting
  | take found => exact Or.inr (List.mem_of_mem_erase resting)
  | newContext owner context =>
      simp only [Op.apply] at resting
      exact Or.inr (by split at resting <;> exact resting)
  | retain context =>
      simp only [Op.apply] at resting
      exact Or.inr (by split at resting <;> exact resting)
  | release context =>
      simp only [Op.apply] at resting
      exact Or.inr (by split at resting <;> exact resting)
  | _ => exact Or.inr resting

/-- What comes to rest was in the hands of the call. -/
theorem exists_ref_of_put {ref : Ref}
    (acts : Thread.Acts shared current (.put ref) next) :
    (∀ attach, current ≠ .attach attach) ∧
      ∃ found ∈ current.refs, found.context = ref.context := by
  cases acts with
  | attach acts => cases acts
  | build acts =>
      cases acts
      exact ⟨nofun, _, List.mem_singleton_self _, rfl⟩
  | client acts =>
      cases acts
      exact ⟨nofun, _, List.mem_singleton_self _, rfl⟩

/-- Where a call other than an attach call gets its references from. -/
theorem refs_of_acts {ref : Ref}
    (acts : Thread.Acts shared current op next) (member : ref ∈ next.refs) :
    (∃ attach, next = .attach attach) ∨
      (∀ attach, current ≠ .attach attach) ∧
        ((∃ found ∈ current.refs, found.context = ref.context) ∨
          shared.clonable ref.context ∨ ref ∈ shared.resting ∨
          ∃ source ∈ current.refs, ∃ owner,
            shared.contextOwner source.context = some owner ∧
              op = .newContext owner ref.context) := by
  cases acts with
  | attach acts => exact Or.inl ⟨_, rfl⟩
  | build acts =>
      refine Or.inr ⟨nofun, ?_⟩
      cases acts with
      | clone attached succeeded =>
          obtain rfl := List.mem_singleton.mp member
          exact Or.inr (Or.inl (Or.inl attached))
      | build runtime known fresh =>
          rcases List.mem_cons.mp member with rfl | member
          · exact Or.inl ⟨_, List.mem_singleton_self _, rfl⟩
          · obtain rfl := List.mem_singleton.mp member
            exact Or.inr (Or.inr (Or.inr
              ⟨_, List.mem_singleton_self _, _, known, rfl⟩))
      | buildFails => exact Or.inl ⟨ref, member, rfl⟩
      | dropClone => exact Or.inl ⟨ref, List.mem_cons_of_mem _ member, rfl⟩
      | cloneFails => cases member
      | dropFailed => cases member
      | intoRuntime => cases member
  | client acts =>
      refine Or.inr ⟨nofun, ?_⟩
      cases acts with
      | clone clonable succeeded =>
          obtain rfl := List.mem_singleton.mp member
          exact Or.inr (Or.inl clonable)
      | take resting =>
          obtain rfl := List.mem_singleton.mp member
          exact Or.inr (Or.inr (Or.inl resting))
      | intoAbi | fromAbi | releaseRuntime =>
          obtain rfl := List.mem_singleton.mp member
          exact Or.inl ⟨_, List.mem_singleton_self _, rfl⟩
      | cloneFails => cases member
      | put => cases member
      | dropHandle => cases member
      | releaseRuntimeFails => cases member
      | releaseHandle => cases member

theorem public_newContext (sound : shared.Sound)
    (owns : shared.contextOwner other = some owner)
    (isPublic : shared.Public other) :
    (Op.apply (.newContext owner context) shared).Public context := by
  obtain ⟨found, same, published⟩ := isPublic
  obtain ⟨state, known, -⟩ := exists_ownerOf sound owns
  rw [owns] at same
  cases same
  refine ⟨owner, ?_, published_kept _ published⟩
  simp only [Op.apply, known]
  exact Function.update_self _ _ _

theorem refs_of_starts {first : Thread} (starts : first.Starts) :
    first.refs = [] := by
  cases starts <;> rfl

theorem publicRefs_move {world : World} {thread : Nat}
    (reached : program.Reachable world)
    (running : world.threads thread = some current)
    (acts : Thread.Acts world.shared current op next)
    (refs : PublicRefs world) :
    PublicRefs (world.put (op.apply world.shared) thread next) := by
  have held : (∀ attach, current ≠ .attach attach) →
      ∀ ref ∈ current.refs, world.shared.Public ref.context := by
    intro other ref member
    rcases refs.held thread current ref running member with
      ⟨attach, same⟩ | isPublic
    · exact absurd same (other attach)
    · exact isPublic
  constructor
  · intro context attached
    rcases @attached_apply world.shared op with
      ⟨found, owner, rfl⟩ | same
    · obtain ⟨attach, after, rfl, -, rfl, rfl, entered, -⟩ :=
        owns_of_install acts
      obtain rfl := Option.some.inj attached
      exact ⟨attach.owner,
        contextOwner_of_attach reached running entered,
        Function.update_self _ _ _⟩
    · exact public_kept acts
        (refs.attached context (same.symm.trans attached))
  · intro ref resting
    rcases resting_apply op resting with rfl | resting
    · obtain ⟨other, found, member, same⟩ := exists_ref_of_put acts
      rw [← same]
      exact public_kept acts (held other found member)
    · exact public_kept acts (refs.resting ref resting)
  · intro bystander found ref otherRunning member
    rcases World.threads_put_cases otherRunning with
      ⟨-, rfl⟩ | ⟨-, old⟩
    · rcases refs_of_acts acts member with isAttach | ⟨other, source⟩
      · exact Or.inl isAttach
      · refine Or.inr ?_
        rcases source with ⟨kept, before, same⟩ | clonable | resting |
          ⟨kept, before, owner, owns, rfl⟩
        · rw [← same]
          exact public_kept acts (held other kept before)
        · exact public_kept acts (public_of_clonable refs clonable)
        · exact public_kept acts (refs.resting ref resting)
        · exact public_newContext (sound_of_reachable reached) owns
            (held other kept before)
    · exact (refs.held bystander found ref old member).imp_right
        (public_kept acts)

theorem publicRefs_of_reachable {world : World}
    (reached : program.Reachable world) : PublicRefs world := by
  refine Program.invariant PublicRefs ?_ ?_ reached
  · rintro shared rfl
    exact ⟨nofun, nofun, nofun⟩
  · intro before after reachedBefore step refs
    cases step with
    | fork free starts =>
        refine ⟨refs.attached, refs.resting, ?_⟩
        intro thread found ref running member
        rcases World.threads_put_cases running with
          ⟨-, rfl⟩ | ⟨-, old⟩
        · rw [refs_of_starts starts] at member
          cases member
        · exact refs.held thread found ref old member
    | move moves =>
        obtain ⟨running, acts⟩ := moves
        exact publicRefs_move reachedBefore running acts refs

/-- A successful attach call has published its owner. -/
theorem published_of_attached {world : World}
    (reached : program.Reachable world) {thread : Nat} {attach : Attach}
    (running : world.threads thread = some (.attach attach))
    (attached : attach.stage = .attached) :
    world.shared.published attach.owner = true := by
  refine Program.thread_invariant
    (fun shared thread => ∀ attach, thread = .attach attach →
      attach.stage = .attached → shared.published attach.owner = true)
    ?_ ?_ ?_ reached running attach rfl attached
  · rintro world first reached starts attach rfl attached
    cases starts
    cases attached
  · rintro world thread current op next reached running acts held after
      rfl attached
    cases acts with
    | attach acts =>
        cases acts with
        | install => exact Function.update_self _ _ _
        | installPlain => exact Function.update_self _ _ _
        | _ => cases attached
  · rintro world thread bystander current op next held reached - running
      - acts known attach rfl attached
    exact published_kept op (known attach rfl attached)

/-- Every way out of an attach call but the attachment. -/
def FailedAttach (world : World) (attach : Attach) : Prop :=
  ∃ thread, world.threads thread = some (.attach attach) ∧
    attach.stage = .failed

/-- After a failed attach nothing refers to the contexts of its owner. -/
theorem unreferred_of_failedAttach {world : World}
    (reached : program.Reachable world) {attach : Attach}
    (failed : FailedAttach world attach)
    (owns : world.shared.contextOwner context = some attach.owner) :
    world.shared.rests context = 0 ∧
      ∀ thread found, world.threads thread = some found →
        found.holds context = 0 := by
  obtain ⟨thread, running, stage⟩ := failed
  have refs := publicRefs_of_reachable reached
  have mine : (Thread.attach attach).Owns attach.owner :=
    ⟨attach, rfl, rfl, by simp [stage], by simp [stage]⟩
  obtain ⟨-, unpublished⟩ := owning.isPresent reached running mine
  have hidden : ¬ world.shared.Public context := by
    rintro ⟨owner, same, published⟩
    rw [owns] at same
    cases same
    rw [unpublished] at published
    cases published
  constructor
  · have resting :
        world.shared.resting.countP (·.context = context) = 0 := by
      refine List.countP_eq_zero.mpr fun ref member same => hidden ?_
      rw [← of_decide_eq_true same]
      exact refs.resting ref member
    rw [Shared.rests, resting, if_neg]
    exact fun attached => hidden (refs.attached context attached)
  · intro bystander found otherRunning
    refine List.countP_eq_zero.mpr fun ref member same => ?_
    obtain rfl := of_decide_eq_true same
    rcases refs.held bystander found ref otherRunning member with
      ⟨other, rfl⟩ | isPublic
    · have ofOther : other.context = ref.context ∧
          other.stage ≠ .called ∧ other.stage ≠ .failed := by
        grind -ring -linarith [Thread.refs, Attach.refs]
      obtain ⟨sameContext, entered, unfailed⟩ := ofOther
      have otherOwns :=
        contextOwner_of_attach reached otherRunning entered
      rw [sameContext, owns] at otherOwns
      have sameOwner := Option.some.inj otherOwns
      by_cases attached : other.stage = .attached
      · have published :=
          published_of_attached reached otherRunning attached
        rw [← sameOwner, unpublished] at published
        cases published
      · have different : thread ≠ bystander := by
          rintro rfl
          rw [running] at otherRunning
          cases otherRunning
          exact unfailed stage
        exact owning.exclusive reached different running otherRunning
          mine ⟨other, rfl, sameOwner.symm, entered, attached⟩
    · exact hidden isPublic

/-- The references to host handles are exact: every record counts the
references to its context that rest or are in the hands of a call and is
there exactly when there are some, no retain or release has failed, and a
failed attach leaves its owner without records. -/
structure Exact (world : World) : Prop where
  counted : ∀ context, Program.Balanced
    (fun shared : Shared => shared.references context)
    (fun shared => shared.rests context) (Thread.holds context) world
  recorded : ∀ context, world.shared.recorded context ↔
    0 < world.shared.references context
  succeeded : world.shared.failed = false
  emptied : ∀ attach state, FailedAttach world attach →
    world.shared.owners attach.owner = some state →
    state.state.handles.isEmpty = true

/-- As long as every `release_runtime` that the drop of a `Runtime` makes
succeeds, the references to host handles are exact. -/
theorem handleReferences_areExact {world : World}
    (reached : (program.restrict Allowed).Reachable world) :
    Exact world where
  counted := fun context => (balancing context).balanced reached
  recorded := fun context =>
    recorded_iff (sound_of_reachable (Program.reachable_of_restrict reached))
  succeeded := not_failed_of_reachable reached
  emptied := by
    intro attach state failed known
    have below := Program.reachable_of_restrict reached
    refine Table.isEmpty_iff.mpr fun context => ?_
    by_contra present
    obtain ⟨handle, found⟩ := Option.ne_none_iff_exists'.mp present
    have sound := sound_of_reachable below
    obtain ⟨owns, -⟩ :=
      sound.recorded attach.owner state context handle known found
    obtain ⟨unrested, unheld⟩ :=
      unreferred_of_failedAttach below failed owns
    have counted := Program.eq_rests_of_balanced
      ((balancing context).balanced reached) unheld
    have positive := (recorded_iff sound).mp
      ⟨state, handle, by simp [Shared.ownerOf, owns, known], found⟩
    omega

/-- The build of the guest context fails, and both references are given
back. -/
theorem handleReferences_areExact_of_failedAttach :
    ∃ world attach, FailedAttach world attach ∧ Exact world := by
  have reached : (program.restrict Allowed).Reachable
      (World.quiet Shared.fresh) := Program.Reachable.quiet rfl
  have began := reached.fork 0 rfl (.attach .runtime 0 5)
  have entered := began.move 0 rfl ⟨.attach (.enter rfl rfl rfl), nofun⟩
  have owned := entered.move 0 rfl ⟨.attach (.fromAbi rfl), nofun⟩
  have cloned := owned.move 0 rfl ⟨.attach (.clone rfl rfl rfl), nofun⟩
  have failing := cloned.move 0 rfl ⟨.attach (.buildFails rfl), nofun⟩
  have failed := failing.move 0 rfl ⟨.attach (.leaveFailing rfl), nofun⟩
  exact ⟨_, _, ⟨0, rfl, rfl⟩, handleReferences_areExact failed⟩

/-- The reference of a `Runtime` whose drop unwinds is never given back. -/
theorem exists_leak :
    ∃ world : World, program.Reachable world ∧
      world.shared.references 9 = 1 ∧ world.shared.rests 9 = 0 ∧
      ∀ thread found, world.threads thread = some found →
        found.holds 9 = 0 := by
  have began := reachable_fresh.fork 0 rfl (.attach .runtime 0 5)
  have entered := began.move 0 rfl (.attach (.enter rfl rfl rfl))
  have owned := entered.move 0 rfl (.attach (.fromAbi rfl))
  have cloned := owned.move 0 rfl (.attach (.clone rfl rfl rfl))
  have built := cloned.move 0 rfl (.attach (.build rfl))
  have attached := built.move 0 rfl (.attach (.install rfl rfl rfl))
  have called := attached.fork 1 rfl .build
  have handle := called.move 1 rfl (.build (.clone rfl rfl))
  have runtime := handle.move 1 rfl (.build (.build 9 rfl rfl))
  have carried := runtime.move 1 rfl (.build .dropClone)
  have rested := carried.move 1 rfl (.build .intoRuntime)
  have client := rested.fork 2 rfl .client
  have taken := client.move 2 rfl
    (.client (.take (List.mem_singleton_self _)))
  have unwound := taken.move 2 rfl (.client .releaseRuntimeFails)
  refine ⟨_, unwound, rfl, rfl, ?_⟩
  intro thread found running
  match thread with
  | 0 | 1 | 2 => cases running; rfl
  | thread + 3 => cases running

theorem not_forall_exact :
    ¬ ∀ world : World, program.Reachable world → Exact world := by
  intro exact
  obtain ⟨world, reached, recorded, resting, idle⟩ := exists_leak
  have counted :=
    Program.eq_rests_of_balanced ((exact world reached).counted 9) idle
  omega

end Telekio.Handles
