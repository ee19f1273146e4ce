import Telekio.Handles.System

/-!
# The counts of host handles

The record of every context counts the references to it that rest in the
plugin or are in the hands of a call: every move changes both alike, unless
the drop of a `Runtime` unwinds.
-/

namespace Telekio.Handles

open Telekio.Interleave
open Telekio.Owner

variable {shared : Shared} {current next : Thread} {op : Op}

attribute [local simp] Op.apply

/-- Every record of an owner is of one of its contexts and counts at least
one reference. -/
structure Shared.Sound (shared : Shared) : Prop where
  owned : ∀ context owner, shared.contextOwner context = some owner →
    (shared.owners owner).isSome
  recorded : ∀ owner state context handle,
    shared.owners owner = some state →
    state.state.handles.lookup context = some handle →
    shared.contextOwner context = some owner ∧ handle.references ≠ 0

theorem references_of_ownerOf {context : ContextRef} {state : OwnerState}
    (known : shared.ownerOf context = some state) :
    shared.references context =
      (state.state.handles.lookup context).elim 0
        HandleRecord.references := by
  rw [Shared.references, known]

/-- The record of a context is there exactly when it counts something. -/
theorem recorded_iff (sound : shared.Sound) {context : ContextRef} :
    shared.recorded context ↔ 0 < shared.references context := by
  constructor
  · rintro ⟨state, handle, known, found⟩
    rw [references_of_ownerOf known, found]
    obtain ⟨owner, -, isOwner⟩ := Option.bind_eq_some_iff.mp known
    exact Nat.pos_of_ne_zero
      (sound.recorded owner state context handle isOwner found).2
  · intro positive
    cases known : shared.ownerOf context with
    | none => simp [Shared.references, known] at positive
    | some state =>
        rw [references_of_ownerOf known] at positive
        cases found : state.state.handles.lookup context with
        | none => simp [found] at positive
        | some handle => exact ⟨state, handle, known, found⟩

theorem lookup_setHandle (owner : OwnerState) (context other : ContextRef)
    (handle : HandleRecord) :
    (owner.setHandle context handle).state.handles.lookup other =
      if other = context then some handle
      else owner.state.handles.lookup other :=
  Table.lookup_insert_eq context other handle owner.state.handles

/-- What the three operations on a record do to all records. -/
theorem lookup_exportHandle (owner : OwnerState)
    (context other : ContextRef) :
    (owner.exportHandle context).state.handles.lookup other =
      if other = context then
        some { owner.handleEntry context with
          references := (owner.handleEntry context).references + 1 }
      else owner.state.handles.lookup other :=
  lookup_setHandle _ _ _ _

theorem retainHandle_of_lookup {owner : OwnerState}
    {context : ContextRef} {handle : HandleRecord}
    (found : owner.state.handles.lookup context = some handle) :
    owner.retainHandle context =
      (owner.setHandle context
        { handle with references := handle.references + 1 }, .ok ()) := by
  rw [OwnerState.retainHandle, found]

theorem releaseHandle_of_lookup {owner : OwnerState}
    {context : ContextRef} {handle : HandleRecord}
    (found : owner.state.handles.lookup context = some handle)
    (counted : handle.references ≠ 0) :
    (owner.releaseHandle context).2 = .ok () ∧
      ∀ other, (owner.releaseHandle context).1.state.handles.lookup
        other =
        if other = context then
          if handle.references = 1 then none
          else some
            { handle with references := handle.references - 1 }
        else owner.state.handles.lookup other := by
  obtain ⟨references, isSucc⟩ := Nat.exists_eq_succ_of_ne_zero counted
  rw [OwnerState.releaseHandle, found]
  simp only [isSucc]
  by_cases last : references = 0
  · subst last
    refine ⟨by simp, fun other => ?_⟩
    simp [Table.lookup_erase_eq]
  · refine ⟨by simp [last], fun other => ?_⟩
    simp [last, lookup_setHandle]

variable {owner : Nat} {state after : OwnerState}
variable {context other : ContextRef}

theorem references_setOwner
    (owns : shared.contextOwner context = some owner) :
    (shared.setOwner owner after).references context =
      (after.state.handles.lookup context).elim 0
        HandleRecord.references := by
  refine references_of_ownerOf ?_
  simp [Shared.ownerOf, Shared.setOwner, owns]

theorem references_setOwner_of_same
    (known : shared.owners owner = some state)
    (same : after.state.handles.lookup context =
      state.state.handles.lookup context) :
    (shared.setOwner owner after).references context =
      shared.references context := by
  cases owns : shared.contextOwner context with
  | none =>
      simp [Shared.references, Shared.ownerOf, Shared.setOwner, owns]
  | some found =>
      by_cases isOwner : found = owner
      · subst isOwner
        have isOwner : shared.ownerOf context = some state := by
          simp [Shared.ownerOf, owns, known]
        rw [references_setOwner owns, same, references_of_ownerOf isOwner]
      · simp [Shared.references, Shared.ownerOf, Shared.setOwner, owns,
          isOwner]

theorem sound_setOwner (sound : shared.Sound)
    (records : ∀ context handle,
      after.state.handles.lookup context = some handle →
      shared.contextOwner context = some owner ∧
        handle.references ≠ 0) :
    (shared.setOwner owner after).Sound where
  owned := by
    intro context found owns
    by_cases same : found = owner
    · simp [Shared.setOwner, same]
    · simpa [Shared.setOwner, same] using sound.owned context found owns
  recorded := by
    intro found state context handle known recorded
    by_cases same : found = owner
    · subst same
      obtain rfl : after = state := by simpa [Shared.setOwner] using known
      exact records context handle recorded
    · refine sound.recorded found state context handle ?_ recorded
      simpa [Shared.setOwner, same] using known

/-- The owner of a context that has one is known. -/
theorem exists_ownerOf (sound : shared.Sound)
    (owns : shared.contextOwner context = some owner) :
    ∃ state, shared.owners owner = some state ∧
      shared.ownerOf context = some state := by
  obtain ⟨state, known⟩ :=
    Option.isSome_iff_exists.mp (sound.owned context owner owns)
  exact ⟨state, known, by simp [Shared.ownerOf, owns, known]⟩

/-- A retain or a release of a context, on its owner. -/
theorem retain_cases (sound : shared.Sound) (context : ContextRef) :
    (∃ owner state, shared.contextOwner context = some owner ∧
      shared.owners owner = some state ∧
      Op.apply (.retain context) shared =
        { shared.setOwner owner (state.retainHandle context).1 with
          failed :=
            shared.failed || !(state.retainHandle context).2.isOk }) ∨
      shared.contextOwner context = none ∧
        Op.apply (.retain context) shared =
          { shared with failed := true } := by
  cases owns : shared.contextOwner context with
  | none => exact Or.inr ⟨rfl, by simp [Op.apply, owns]⟩
  | some owner =>
      obtain ⟨state, known, isOwner⟩ := exists_ownerOf sound owns
      exact Or.inl ⟨owner, state, rfl, known,
        by simp only [Op.apply, owns, isOwner]⟩

theorem release_cases (sound : shared.Sound) (context : ContextRef) :
    (∃ owner state, shared.contextOwner context = some owner ∧
      shared.owners owner = some state ∧
      Op.apply (.release context) shared =
        { shared.setOwner owner (state.releaseHandle context).1 with
          failed :=
            shared.failed || !(state.releaseHandle context).2.isOk }) ∨
      shared.contextOwner context = none ∧
        Op.apply (.release context) shared =
          { shared with failed := true } := by
  cases owns : shared.contextOwner context with
  | none => exact Or.inr ⟨rfl, by simp [Op.apply, owns]⟩
  | some owner =>
      obtain ⟨state, known, isOwner⟩ := exists_ownerOf sound owns
      exact Or.inl ⟨owner, state, rfl, known,
        by simp only [Op.apply, owns, isOwner]⟩

theorem lookup_retainHandle_of_ne (state : OwnerState)
    (different : other ≠ context) :
    (state.retainHandle context).1.state.handles.lookup other =
      state.state.handles.lookup other := by
  unfold OwnerState.retainHandle
  split
  · rfl
  · rw [lookup_setHandle, if_neg different]

theorem lookup_releaseHandle_of_ne (state : OwnerState)
    (different : other ≠ context) :
    (state.releaseHandle context).1.state.handles.lookup other =
      state.state.handles.lookup other := by
  cases found : state.state.handles.lookup context with
  | none => simp [OwnerState.releaseHandle, found]
  | some handle =>
      by_cases none : handle.references = 0
      · simp [OwnerState.releaseHandle, found, none]
      · rw [(releaseHandle_of_lookup found none).2, if_neg different]

theorem references_retain_of_ne (sound : shared.Sound)
    (different : other ≠ context) :
    (Op.apply (.retain context) shared).references other =
      shared.references other := by
  rcases retain_cases sound context with
    ⟨owner, state, owns, known, applied⟩ | ⟨none, applied⟩
  · rw [applied]
    exact references_setOwner_of_same known
      (lookup_retainHandle_of_ne state different)
  · rw [applied]
    rfl

theorem references_release_of_ne (sound : shared.Sound)
    (different : other ≠ context) :
    (Op.apply (.release context) shared).references other =
      shared.references other := by
  rcases release_cases sound context with
    ⟨owner, state, owns, known, applied⟩ | ⟨none, applied⟩
  · rw [applied]
    exact references_setOwner_of_same known
      (lookup_releaseHandle_of_ne state different)
  · rw [applied]
    rfl

/-- The record behind a positive count. -/
theorem exists_record (sound : shared.Sound)
    (positive : 0 < shared.references context) :
    ∃ owner state handle, shared.contextOwner context = some owner ∧
      shared.owners owner = some state ∧
      shared.ownerOf context = some state ∧
      state.state.handles.lookup context = some handle ∧
      handle.references = shared.references context := by
  obtain ⟨state, handle, known, found⟩ :=
    (recorded_iff sound).mpr positive
  obtain ⟨owner, owns, isOwner⟩ := Option.bind_eq_some_iff.mp known
  refine ⟨owner, state, handle, owns, isOwner, known, found, ?_⟩
  rw [references_of_ownerOf known, found]
  rfl

/-- A retain of a recorded context counts one more and succeeds. -/
theorem retain_of_recorded (sound : shared.Sound)
    (positive : 0 < shared.references context) :
    (Op.apply (.retain context) shared).references context =
        shared.references context + 1 ∧
      (Op.apply (.retain context) shared).failed = shared.failed := by
  obtain ⟨owner, state, handle, owns, known, isOwner, found, counted⟩ :=
    exists_record sound positive
  have applied : Op.apply (.retain context) shared =
      { shared.setOwner owner (state.retainHandle context).1 with
        failed :=
          shared.failed || !(state.retainHandle context).2.isOk } := by
    simp only [Op.apply, owns, isOwner]
  rw [applied]
  refine ⟨(references_setOwner owns).trans ?_, ?_⟩
  · rw [retainHandle_of_lookup found, lookup_setHandle, if_pos rfl,
      ← counted]
    rfl
  · rw [retainHandle_of_lookup found]
    exact Bool.or_false _

/-- A release of a recorded context counts one less and succeeds. -/
theorem release_of_recorded (sound : shared.Sound)
    (positive : 0 < shared.references context) :
    (Op.apply (.release context) shared).references context + 1 =
        shared.references context ∧
      (Op.apply (.release context) shared).failed = shared.failed := by
  obtain ⟨owner, state, handle, owns, known, isOwner, found, counted⟩ :=
    exists_record sound positive
  have positiveHandle : handle.references ≠ 0 := by omega
  obtain ⟨succeeded, lookup⟩ :=
    releaseHandle_of_lookup found positiveHandle
  have applied : Op.apply (.release context) shared =
      { shared.setOwner owner (state.releaseHandle context).1 with
        failed :=
          shared.failed || !(state.releaseHandle context).2.isOk } := by
    simp only [Op.apply, owns, isOwner]
  rw [applied]
  refine ⟨?_, ?_⟩
  · have changed := @references_setOwner shared owner
      (state.releaseHandle context).1 context owns
    rw [lookup, if_pos rfl] at changed
    refine (congrArg (· + 1) changed).trans ?_
    by_cases last : handle.references = 1
    · simp [last, ← counted]
    · simp only [if_neg last, Option.elim_some]
      omega
  · rw [succeeded]
    exact Bool.or_false _

/-- A context that gets an owner. -/
def Shared.setContext (shared : Shared) (context : ContextRef)
    (owner : Nat) (state : OwnerState) : Shared :=
  { shared.setOwner owner state with
    contextOwner := Function.update shared.contextOwner context owner }

/-- A new context begins with one reference. -/
theorem references_setContext {record : HandleRecord}
    (found : after.state.handles.lookup context = some record)
    (first : record.references = 1)
    (kept : ∀ other, other ≠ context →
      (shared.setOwner owner after).references other =
        shared.references other) :
    ∀ other, (shared.setContext context owner after).references other =
      if other = context then 1 else shared.references other := by
  intro other
  by_cases same : other = context
  · subst same
    simp [Shared.setContext, Shared.references, Shared.ownerOf,
      Shared.setOwner, found, first]
  · rw [if_neg same, ← kept other same]
    simp [Shared.setContext, Shared.references, Shared.ownerOf,
      Shared.setOwner, same]

/-- A fresh context has no record anywhere. -/
theorem lookup_of_fresh (sound : shared.Sound)
    (known : shared.owners owner = some state)
    (fresh : shared.contextOwner context = none) :
    state.state.handles.lookup context = none := by
  by_contra present
  obtain ⟨handle, found⟩ := Option.ne_none_iff_exists'.mp present
  have owns := (sound.recorded owner state context handle known found).1
  rw [fresh] at owns
  cases owns

theorem references_of_fresh
    (fresh : shared.contextOwner context = none) :
    shared.references context = 0 := by
  simp [Shared.references, Shared.ownerOf, fresh]

theorem newContext_of_fresh (sound : shared.Sound)
    (known : shared.owners owner = some state)
    (fresh : shared.contextOwner context = none) :
    ∀ other, (Op.apply (.newContext owner context) shared).references
      other = if other = context then 1 else shared.references other := by
  have absent := lookup_of_fresh sound known fresh
  simp only [Op.apply, known]
  refine references_setContext
    (by rw [lookup_exportHandle, if_pos rfl]) ?_ ?_
  · simp [OwnerState.handleEntry, absent]
  · intro other different
    refine references_setOwner_of_same known ?_
    rw [lookup_exportHandle, if_neg different]

theorem newOwner_of_fresh (sound : shared.Sound)
    (newOwner : shared.owners owner = none) :
    ∀ other, (Op.apply (.newOwner owner context) shared).references
      other = if other = context then 1 else shared.references other := by
  refine references_setContext
    (by rw [lookup_exportHandle, if_pos rfl]) rfl ?_
  intro other different
  cases owns : shared.contextOwner other with
  | none =>
      simp [Shared.references, Shared.ownerOf, Shared.setOwner, owns]
  | some found =>
      have otherOwner : found ≠ owner := by
        rintro rfl
        have known := sound.owned other found owns
        rw [newOwner] at known
        cases known
      simp [Shared.references, Shared.ownerOf, Shared.setOwner, owns,
        otherOwner]

/-! ## Every move keeps the records sound -/

theorem sound_retain (sound : shared.Sound) (context : ContextRef) :
    (Op.apply (.retain context) shared).Sound := by
  rcases retain_cases sound context with
    ⟨owner, state, owns, known, applied⟩ | ⟨none, applied⟩
  · rw [applied]
    have kept : (shared.setOwner owner
        (state.retainHandle context).1).Sound := by
      refine sound_setOwner sound fun other handle found => ?_
      by_cases same : other = context
      · subst same
        refine ⟨owns, ?_⟩
        cases before : state.state.handles.lookup other with
        | none =>
            simp only [OwnerState.retainHandle, before] at found
            cases found
        | some record =>
            rw [retainHandle_of_lookup before, lookup_setHandle,
              if_pos rfl] at found
            obtain rfl := Option.some.inj found
            exact Nat.succ_ne_zero _
      · rw [lookup_retainHandle_of_ne state same] at found
        exact sound.recorded owner state other handle known found
    exact ⟨kept.owned, kept.recorded⟩
  · rw [applied]
    exact ⟨sound.owned, sound.recorded⟩

theorem sound_release (sound : shared.Sound) (context : ContextRef) :
    (Op.apply (.release context) shared).Sound := by
  rcases release_cases sound context with
    ⟨owner, state, owns, known, applied⟩ | ⟨none, applied⟩
  · rw [applied]
    have kept : (shared.setOwner owner
        (state.releaseHandle context).1).Sound := by
      refine sound_setOwner sound fun other handle found => ?_
      by_cases same : other = context
      · subst same
        refine ⟨owns, ?_⟩
        cases before : state.state.handles.lookup other with
        | none =>
            simp only [OwnerState.releaseHandle, before] at found
            cases found
        | some record =>
            have counted :=
              (sound.recorded owner state other record known before).2
            rw [(releaseHandle_of_lookup before counted).2,
              if_pos rfl] at found
            by_cases last : record.references = 1
            · rw [if_pos last] at found
              cases found
            · rw [if_neg last] at found
              obtain rfl := Option.some.inj found
              simp only
              omega
      · rw [lookup_releaseHandle_of_ne state same] at found
        exact sound.recorded owner state other handle known found
    exact ⟨kept.owned, kept.recorded⟩
  · rw [applied]
    exact ⟨sound.owned, sound.recorded⟩

theorem sound_setContext (sound : shared.Sound)
    (fresh : shared.contextOwner context = none)
    (records : ∀ other handle,
      after.state.handles.lookup other = some handle →
      (other = context ∨ shared.contextOwner other = some owner) ∧
        handle.references ≠ 0) :
    (shared.setContext context owner after).Sound where
  owned := by
    intro other found owns
    by_cases isOwner : found = owner
    · simp [Shared.setContext, Shared.setOwner, isOwner]
    · have different : other ≠ context := by
        rintro rfl
        exact isOwner (by simpa [Shared.setContext] using owns.symm)
      refine Option.isSome_iff_exists.mpr ?_
      obtain ⟨state, known⟩ := Option.isSome_iff_exists.mp
        (sound.owned other found
          (by simpa [Shared.setContext, different] using owns))
      exact ⟨state, by
        simpa [Shared.setContext, Shared.setOwner, isOwner] using known⟩
  recorded := by
    intro found record other handle known recorded
    have kept : shared.contextOwner other = some found →
        (shared.setContext context owner after).contextOwner other =
          some found := by
      intro owns
      have different : other ≠ context := by
        rintro rfl
        rw [fresh] at owns
        cases owns
      simpa [Shared.setContext, different] using owns
    by_cases isOwner : found = owner
    · subst isOwner
      obtain rfl : after = record := by
        simpa [Shared.setContext, Shared.setOwner] using known
      obtain ⟨rfl | owns, counted⟩ := records other handle recorded
      · exact ⟨by simp [Shared.setContext], counted⟩
      · exact ⟨kept owns, counted⟩
    · have before : shared.owners found = some record := by
        simpa [Shared.setContext, Shared.setOwner, isOwner] using known
      obtain ⟨owns, counted⟩ :=
        sound.recorded found record other handle before recorded
      exact ⟨kept owns, counted⟩

/-- An export adds a record for its context to those that were there. -/
theorem records_exportHandle
    (records : ∀ other handle,
      state.state.handles.lookup other = some handle →
      shared.contextOwner other = some owner ∧ handle.references ≠ 0)
    (other : ContextRef) (handle : HandleRecord)
    (found : (state.exportHandle context).state.handles.lookup other =
      some handle) :
    (other = context ∨ shared.contextOwner other = some owner) ∧
      handle.references ≠ 0 := by
  rw [lookup_exportHandle] at found
  by_cases same : other = context
  · rw [if_pos same] at found
    obtain rfl := Option.some.inj found
    exact ⟨Or.inl same, Nat.succ_ne_zero _⟩
  · rw [if_neg same] at found
    obtain ⟨owns, counted⟩ := records other handle found
    exact ⟨Or.inr owns, counted⟩

theorem sound_newContext (sound : shared.Sound)
    (fresh : shared.contextOwner context = none) :
    (Op.apply (.newContext owner context) shared).Sound := by
  cases known : shared.owners owner with
  | none =>
      simp only [Op.apply, known]
      exact sound
  | some state =>
      simp only [Op.apply, known]
      exact sound_setContext sound fresh (records_exportHandle
        fun other handle => sound.recorded owner state other handle known)

theorem sound_newOwner (sound : shared.Sound)
    (fresh : shared.contextOwner context = none) :
    (Op.apply (.newOwner owner context) shared).Sound :=
  sound_setContext sound fresh (records_exportHandle nofun)

theorem fresh_of_newOwner
    (acts : Thread.Acts shared current (.newOwner owner context) next) :
    shared.owners owner = none ∧ shared.contextOwner context = none := by
  cases acts with
  | attach acts =>
      cases acts with
      | enter called newOwner fresh => exact ⟨newOwner, fresh⟩
  | build acts => cases acts
  | client acts => cases acts

theorem fresh_of_newContext
    (acts : Thread.Acts shared current (.newContext owner context) next) :
    shared.contextOwner context = none ∧
      ∃ source, shared.contextOwner source = some owner := by
  cases acts with
  | attach acts => cases acts
  | build acts =>
      cases acts with
      | build runtime known fresh => exact ⟨fresh, _, known⟩
  | client acts => cases acts

theorem sound_of_acts (acts : Thread.Acts shared current op next)
    (sound : shared.Sound) : (op.apply shared).Sound := by
  cases op with
  | newOwner owner context =>
      exact sound_newOwner sound (fresh_of_newOwner acts).2
  | newContext owner context =>
      exact sound_newContext sound (fresh_of_newContext acts).1
  | retain context => exact sound_retain sound context
  | release context => exact sound_release sound context
  | _ => exact ⟨sound.owned, sound.recorded⟩

theorem sound_of_reachable {world : World}
    (reached : program.Reachable world) : world.shared.Sound := by
  refine Program.shared_invariant Shared.Sound ?_ ?_ reached
  · rintro shared rfl
    exact ⟨nofun, nofun⟩
  · intro world thread current op next _ _ acts sound
    exact sound_of_acts acts sound

/-! ## What a move does to the counts -/

theorem references_of_retained (sound : shared.Sound)
    (succeeded : shared.retainHandle context = .ok ()) (other) :
    (Op.apply (.retain context) shared).references other =
      shared.references other + if context = other then 1 else 0 := by
  by_cases same : other = context
  · subst same
    have positive : 0 < shared.references other := by
      refine (recorded_iff sound).mp ?_
      unfold Shared.retainHandle at succeeded
      split at succeeded
      · next state known =>
          unfold OwnerState.retainHandle at succeeded
          split at succeeded
          · cases succeeded
          · next handle found => exact ⟨state, handle, known, found⟩
      · cases succeeded
    rw [if_pos rfl]
    exact (retain_of_recorded sound positive).1
  · rw [if_neg (Ne.symm same)]
    exact references_retain_of_ne sound same

theorem references_of_unretained (sound : shared.Sound)
    {error : String} (failed : shared.retainHandle context = .error error)
    (other) :
    (Op.apply (.retain context) shared).references other =
      shared.references other := by
  by_cases same : other = context
  · subst same
    rcases retain_cases sound other with
      ⟨owner, state, owns, known, applied⟩ | ⟨none, applied⟩
    · rw [applied]
      refine references_setOwner_of_same known ?_
      have isOwner : shared.ownerOf other = some state := by
        simp [Shared.ownerOf, owns, known]
      rw [Shared.retainHandle, isOwner] at failed
      simp only [OwnerState.retainHandle] at failed ⊢
      split at failed
      · rfl
      · cases failed
    · rw [applied]
      rfl
  · exact references_retain_of_ne sound same

theorem references_of_released (sound : shared.Sound)
    (positive : other = context → 0 < shared.references context) :
    (Op.apply (.release context) shared).references other +
        (if context = other then 1 else 0) =
      shared.references other := by
  by_cases same : other = context
  · subst same
    rw [if_pos rfl]
    exact (release_of_recorded sound (positive rfl)).1
  · rw [if_neg (Ne.symm same)]
    exact references_release_of_ne sound same

theorem rests_retain (sound : shared.Sound) (other : ContextRef) :
    (Op.apply (.retain context) shared).rests other =
      shared.rests other := by
  rcases retain_cases sound context with
    ⟨owner, state, -, -, applied⟩ | ⟨-, applied⟩ <;>
    rw [applied] <;> rfl

theorem rests_release (sound : shared.Sound) (other : ContextRef) :
    (Op.apply (.release context) shared).rests other =
      shared.rests other := by
  rcases release_cases sound context with
    ⟨owner, state, -, -, applied⟩ | ⟨-, applied⟩ <;>
    rw [applied] <;> rfl

theorem rests_newContext (other : ContextRef) :
    (Op.apply (.newContext owner context) shared).rests other =
      shared.rests other := by
  simp only [Op.apply]
  split <;> rfl

/-- A move that releases a context gives up a reference to it. -/
theorem holds_of_release
    (acts : Thread.Acts shared current (.release context) next) (other) :
    current.holds other =
      next.holds other + if context = other then 1 else 0 := by
  cases acts with
  | attach acts =>
      cases acts <;>
        grind -ring -linarith [Thread.holds, Thread.refs, Attach.refs]
  | build acts =>
      cases acts with
      | dropClone =>
          simp only [Thread.holds, Thread.refs, Build.refs,
            List.countP_cons, decide_eq_true_eq]
      | dropFailed =>
          grind -ring -linarith [Thread.holds, Thread.refs, Build.refs]
  | client acts =>
      cases acts <;>
        grind -ring -linarith [Thread.holds, Thread.refs, Client.refs]

/-- A move that retains a context gets a reference to it, unless the retain
fails. -/
theorem holds_of_retain
    (acts : Thread.Acts shared current (.retain context) next) :
    (shared.retainHandle context = .ok () ∧
      ∀ other, next.holds other =
        current.holds other + if context = other then 1 else 0) ∨
      (∃ error, shared.retainHandle context = .error error) ∧
        ∀ other, next.holds other = current.holds other := by
  cases acts with
  | attach acts =>
      cases acts with
      | clone isRuntime owned succeeded =>
          refine Or.inl ⟨succeeded, fun other => ?_⟩
          grind -ring -linarith [Thread.holds, Thread.refs, Attach.refs]
      | cloneFails isRuntime owned failed =>
          refine Or.inr ⟨⟨_, failed⟩, fun other => ?_⟩
          grind -ring -linarith [Thread.holds, Thread.refs, Attach.refs]
  | build acts =>
      cases acts with
      | clone attached succeeded =>
          refine Or.inl ⟨succeeded, fun other => ?_⟩
          grind -ring -linarith [Thread.holds, Thread.refs, Build.refs]
      | cloneFails attached failed =>
          exact Or.inr ⟨⟨_, failed⟩, fun other => rfl⟩
  | client acts =>
      cases acts with
      | clone clonable succeeded =>
          refine Or.inl ⟨succeeded, fun other => ?_⟩
          grind -ring -linarith [Thread.holds, Thread.refs, Client.refs]
      | cloneFails clonable failed =>
          exact Or.inr ⟨⟨_, failed⟩, fun other => rfl⟩

theorem countP_erase {refs : List Ref} {ref : Ref} (found : ref ∈ refs)
    (context : ContextRef) :
    refs.countP (·.context = context) =
      (refs.erase ref).countP (·.context = context) +
        if ref.context = context then 1 else 0 := by
  rw [(List.perm_cons_erase found).countP_eq, List.countP_cons]
  simp

theorem holds_of_skip
    (acts : Thread.Acts shared current .skip next) (other) :
    next.holds other = current.holds other := by
  cases acts with
  | attach acts =>
      cases acts <;>
        grind -ring -linarith [Thread.holds, Thread.refs, Attach.refs]
  | build acts => cases acts; rfl
  | client acts => cases acts <;> rfl

theorem holds_of_newOwner
    (acts : Thread.Acts shared current (.newOwner owner context) next)
    (other) :
    next.holds other =
      current.holds other + if context = other then 1 else 0 := by
  cases acts with
  | attach acts =>
      cases acts; grind -ring -linarith [Thread.holds, Thread.refs, Attach.refs]
  | build acts => cases acts
  | client acts => cases acts

theorem holds_of_newContext
    (acts : Thread.Acts shared current (.newContext owner context) next)
    (other) :
    next.holds other =
      current.holds other + if context = other then 1 else 0 := by
  cases acts with
  | attach acts => cases acts
  | build acts =>
      cases acts
      simp only [Thread.holds, Thread.refs, Build.refs, List.countP_cons,
        decide_eq_true_eq]
      exact Nat.add_right_comm _ _ _
  | client acts => cases acts

theorem holds_of_install
    (acts : Thread.Acts shared current (.install context owner) next) :
    shared.attached = none ∧ ∀ other, current.holds other =
      next.holds other + if context = other then 1 else 0 := by
  cases acts with
  | attach acts =>
      cases acts with
      | install isRuntime built vacant =>
          refine ⟨vacant, fun other => ?_⟩
          simp [Thread.holds, Thread.refs, Attach.refs, built, isRuntime,
            List.countP_cons]
      | installPlain plain owned vacant =>
          refine ⟨vacant, fun other => ?_⟩
          simp [Thread.holds, Thread.refs, Attach.refs, owned, plain,
            List.countP_cons]
  | build acts => cases acts
  | client acts => cases acts

theorem holds_of_put {ref : Ref}
    (acts : Thread.Acts shared current (.put ref) next) (other) :
    current.holds other =
      next.holds other + if ref.context = other then 1 else 0 := by
  cases acts with
  | attach acts => cases acts
  | build acts =>
      cases acts
      simp [Thread.holds, Thread.refs, Build.refs, List.countP_cons]
  | client acts =>
      cases acts
      simp [Thread.holds, Thread.refs, Client.refs, List.countP_cons]

theorem holds_of_take {ref : Ref}
    (acts : Thread.Acts shared current (.take ref) next) :
    ref ∈ shared.resting ∧ ∀ other, next.holds other =
      current.holds other + if ref.context = other then 1 else 0 := by
  cases acts with
  | attach acts => cases acts
  | build acts => cases acts
  | client acts =>
      cases acts with
      | take resting =>
          refine ⟨resting, fun other => ?_⟩
          simp [Thread.holds, Thread.refs, Client.refs, List.countP_cons]

/-- Every move changes the record of a context as it changes the references
to it, when no drop of a `Runtime` unwinds. -/
theorem balancing (context : ContextRef) :
    (program.restrict Allowed).Balancing
      (fun shared => shared.references context)
      (fun shared => shared.rests context) (Thread.holds context) where
  initially := by
    rintro shared rfl
    rfl
  starts := by
    intro first starts
    cases starts <;> rfl
  moves := by
    rintro world thread current op next reached running
      ⟨acts, allowed⟩ bounded
    have below := Program.reachable_of_restrict reached
    have sound := sound_of_reachable below
    change (op.apply world.shared).references context + _ =
      _ + ((op.apply world.shared).rests context + _)
    cases op with
    | skip =>
        rw [holds_of_skip acts]
        rfl
    | newOwner owner other =>
        obtain ⟨newOwner, fresh⟩ := fresh_of_newOwner acts
        have unused := references_of_fresh fresh
        have rests : (Op.apply (.newOwner owner other)
            world.shared).rests context = world.shared.rests context :=
          rfl
        rw [newOwner_of_fresh sound newOwner, rests,
          holds_of_newOwner acts]
        split_ifs <;> grind -ring -linarith
    | newContext owner other =>
        obtain ⟨fresh, source, owns⟩ := fresh_of_newContext acts
        obtain ⟨state, known, -⟩ := exists_ownerOf sound owns
        have unused := references_of_fresh fresh
        rw [newContext_of_fresh sound known fresh, rests_newContext,
          holds_of_newContext acts]
        split_ifs <;> grind -ring -linarith
    | retain other =>
        rw [rests_retain sound]
        rcases holds_of_retain acts with
          ⟨succeeded, holds⟩ | ⟨⟨error, failed⟩, holds⟩
        · rw [references_of_retained sound succeeded, holds]
          omega
        · rw [references_of_unretained sound failed, holds]
    | release other =>
        rw [rests_release sound]
        have holds := holds_of_release acts context
        have counted := @references_of_released world.shared other context
          sound (by rintro rfl; rw [if_pos rfl] at holds; omega)
        omega
    | install other owner =>
        obtain ⟨vacant, holds⟩ := holds_of_install acts
        rw [holds context]
        have kept : (Op.apply (.install other owner)
            world.shared).references context =
            world.shared.references context := rfl
        have rests : (Op.apply (.install other owner)
            world.shared).rests context =
            world.shared.rests context +
              if other = context then 1 else 0 := by
          simp [Op.apply, Shared.rests, vacant]
        rw [kept, rests]
        omega
    | put ref =>
        rw [holds_of_put acts context]
        have kept : (Op.apply (.put ref) world.shared).references context =
            world.shared.references context := rfl
        have rests : (Op.apply (.put ref) world.shared).rests context =
            world.shared.rests context +
              if ref.context = context then 1 else 0 := by
          simp only [Op.apply, Shared.rests, List.countP_cons,
            decide_eq_true_eq]
          exact Nat.add_right_comm _ _ _
        rw [kept, rests]
        omega
    | take ref =>
        obtain ⟨resting, holds⟩ := holds_of_take acts
        rw [holds context]
        have kept : (Op.apply (.take ref) world.shared).references context =
            world.shared.references context := rfl
        have rests : world.shared.rests context =
            (Op.apply (.take ref) world.shared).rests context +
              if ref.context = context then 1 else 0 := by
          simp only [Op.apply, Shared.rests, countP_erase resting]
          exact Nat.add_right_comm _ _ _
        rw [kept, rests]
        omega
    | releaseRuntimeFails => exact absurd rfl allowed

end Telekio.Handles
