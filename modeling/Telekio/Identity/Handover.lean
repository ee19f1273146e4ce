import Telekio.Identity.Overrides

/-!
# What a guest hands over reaches its task

Every thread-local of the host is empty, or has what the innermost spawn of a
guest has handed over; from this it follows, for all code, who obtains it.
-/

namespace Telekio.Identity

open Telekio.Abi (Payload)

theorem FirstHanded.append {κ α : Type} {scope : κ} {value first : α}
    {held : List (Obtained κ α)}
    (handed : FirstHanded first held) (filled : held ≠ []) :
    FirstHanded first (held ++ [⟨value, false, some scope⟩]) := by
  cases held with
  | nil => exact absurd rfl filled
  | cons got rest =>
      obtain ⟨same, isHanded, own⟩ := handed
      refine ⟨same, isHanded, ?_⟩
      intro other member
      rcases List.mem_append.mp member with before | new
      · exact own other before
      · rw [List.mem_singleton.mp new]

section Slot

variable {κ α : Type} [DecidableEq κ] {given : κ → α} {slot : Option α}
variable {list : List (Obtained κ α)} {scopes : List κ} {scope : κ}

theorem obtainedIn_append {more : List (Obtained κ α)} :
    obtainedIn scope (list ++ more) =
      obtainedIn scope list ++ obtainedIn scope more :=
  List.filter_append _ _

theorem obtainedIn_here {value : α} {handed : Bool} :
    obtainedIn scope [⟨value, handed, some scope⟩] =
      [⟨value, handed, some scope⟩] := by
  simp [obtainedIn]

theorem obtainedIn_elsewhere {got : Obtained κ α}
    (elsewhere : got.scope ≠ some scope) : obtainedIn scope [got] = [] := by
  simp [obtainedIn, elsewhere]

theorem obtainedIn_of_unmentioned
    (unmentioned : ∀ got ∈ list, got.scope ≠ some scope) :
    obtainedIn scope list = [] := by
  rw [obtainedIn, List.filter_eq_nil_iff]
  intro got member
  simpa using unmentioned got member

theorem Delivers.nil : Delivers given ([] : List (Obtained κ α)) :=
  ⟨fun _ => trivial, nofun⟩

/-- What is obtained next is handed over if and only if it is the first of its
scope. -/
theorem Delivers.append (delivers : Delivers given list) {value : α}
    {handed : Bool} {current : Option κ}
    (outside : current = none → handed = false)
    (inside : ∀ scope, current = some scope →
      if obtainedIn scope list = [] then
        value = given scope ∧ handed = true
      else handed = false) :
    Delivers given (list ++ [⟨value, handed, current⟩]) where
  inside := by
    intro scope
    rw [obtainedIn_append]
    by_cases here : current = some scope
    · subst here
      have first := inside scope rfl
      rw [obtainedIn_here]
      by_cases none : obtainedIn scope list = []
      · rw [if_pos none] at first
        rw [none]
        exact ⟨first.1, first.2, nofun⟩
      · rw [if_neg none] at first
        rw [first]
        exact (delivers.inside scope).append none
    · rw [obtainedIn_elsewhere here, List.append_nil]
      exact delivers.inside scope
  outside := by
    intro got member none
    rcases List.mem_append.mp member with before | new
    · exact delivers.outside got before none
    · rw [List.mem_singleton.mp new] at none ⊢
      exact outside none

/-- A thread-local between two operations: what the innermost spawn has handed
over is in it until it was obtained, and that of the spawns around it was
obtained. -/
structure Slotted (given : κ → α) (slot : Option α)
    (list : List (Obtained κ α)) (scopes : List κ) : Prop where
  outside : scopes = [] → slot = none
  inside : ∀ scope ∈ scopes.head?,
    slot = if obtainedIn scope list = [] then some (given scope) else none
  around : ∀ scope ∈ scopes.tail, obtainedIn scope list ≠ []
  delivers : Delivers given list

namespace Slotted

/-- It is taken, or there is nothing in it and Tokio uses its own. -/
theorem take (slotted : Slotted given slot list scopes) (own : α) :
    Slotted given none
      (list ++ [⟨slot.getD own, slot.isSome, scopes.head?⟩]) scopes where
  outside := fun _ => rfl
  inside := by
    intro scope current
    rw [if_neg]
    rw [obtainedIn_append, Option.mem_def.mp current, obtainedIn_here]
    exact List.append_ne_nil_of_right_ne_nil _ (List.cons_ne_nil _ _)
  around := by
    intro scope member
    rw [obtainedIn_append]
    exact List.append_ne_nil_of_left_ne_nil (slotted.around scope member) _
  delivers := by
    refine slotted.delivers.append ?_ ?_
    · intro none
      rw [slotted.outside (List.head?_eq_none_iff.mp none)]
      rfl
    · intro scope current
      have held := slotted.inside scope current
      by_cases none : obtainedIn scope list = []
      · rw [if_pos none] at held ⊢
        rw [held]
        exact ⟨rfl, rfl⟩
      · rw [if_neg none] at held ⊢
        rw [held]
        rfl

/-- A spawn that nothing was obtained in is entered when the thread-local is
empty. -/
theorem enter (slotted : Slotted given none list scopes)
    (fresh : obtainedIn scope list = []) :
    Slotted given (some (given scope)) list (scope :: scopes) where
  outside := nofun
  inside := by
    rintro other ⟨⟩
    rw [if_pos fresh]
  around := by
    intro other member
    cases scopes with
    | nil => cases member
    | cons current outer =>
        rcases List.mem_cons.mp member with rfl | further
        · intro none
          have held := slotted.inside other rfl
          rw [if_pos none] at held
          cases held
        · exact slotted.around other further
  delivers := slotted.delivers

theorem leave (slotted : Slotted given slot list (scope :: scopes)) :
    Slotted given none list scopes where
  outside := fun _ => rfl
  inside := by
    intro other current
    rw [if_neg (slotted.around other (List.mem_of_mem_head? current))]
  around := fun other member =>
    slotted.around other (List.mem_of_mem_tail member)
  delivers := slotted.delivers

end Slotted

end Slot

/-- The flag of forwarded calls between two operations: it is set until the
innermost of them has had its first span. -/
structure Marked (flag : Bool) (spans : List (Obtained Nat Unit))
    (calls : List Nat) (forwards : Nat) : Prop where
  outside : calls = [] → flag = false
  inside : ∀ call ∈ calls.head?, flag = decide (obtainedIn call spans = [])
  made : ∀ call ∈ calls, call < forwards
  mentioned : ∀ got ∈ spans, ∀ call, got.scope = some call → call < forwards
  delivers : Delivers (fun _ => ()) spans

namespace Marked

variable {flag before : Bool} {spans earlier : List (Obtained Nat Unit)}
variable {calls : List Nat} {call forwards sooner : Nat}

theorem take (marked : Marked flag spans calls forwards) :
    Marked false (spans ++ [⟨(), flag, calls.head?⟩]) calls forwards where
  outside := fun _ => rfl
  inside := by
    intro call current
    rw [obtainedIn_append, Option.mem_def.mp current, obtainedIn_here]
    simp
  made := marked.made
  mentioned := by
    intro got member call there
    rcases List.mem_append.mp member with before | new
    · exact marked.mentioned got before call there
    · rw [List.mem_singleton.mp new] at there
      exact marked.made call (List.mem_of_mem_head? there)
  delivers := by
    refine marked.delivers.append ?_ ?_
    · exact fun none => marked.outside (List.head?_eq_none_iff.mp none)
    · intro call current
      rw [marked.inside call current]
      by_cases none : obtainedIn call spans = []
      · simp [none]
      · simp [none]

theorem enter (marked : Marked flag spans calls forwards) :
    Marked true spans (forwards :: calls) (forwards + 1) where
  outside := nofun
  inside := by
    rintro call ⟨⟩
    refine (decide_eq_true (obtainedIn_of_unmentioned ?_)).symm
    exact fun got member here =>
      Nat.lt_irrefl _ (marked.mentioned got member forwards here)
  made := List.forall_mem_cons.mpr ⟨Nat.lt_succ_self _, fun call member =>
    Nat.lt_succ_of_lt (marked.made call member)⟩
  mentioned := fun got member call there =>
    Nat.lt_succ_of_lt (marked.mentioned got member call there)
  delivers := marked.delivers

/-- The flag is as it was before the call, where no other call has had a
span. -/
theorem leave (outer : Marked before earlier calls sooner)
    (inner : Marked flag spans (call :: calls) forwards)
    (same : ∀ call ∈ calls.head?,
      obtainedIn call spans = obtainedIn call earlier) :
    Marked before spans calls forwards where
  outside := outer.outside
  inside := by
    intro call current
    rw [same call current]
    exact outer.inside call current
  made := fun call member =>
    inner.made call (List.mem_cons_of_mem _ member)
  mentioned := inner.mentioned
  delivers := inner.delivers

end Marked

/-! ## One operation -/

namespace Thread

/-- The thread is in a spawn, or was when Tokio asked for something. -/
def Mentions (thread : Thread) (spawn : Override) : Prop :=
  spawn ∈ thread.spawns ∨
    (∃ got ∈ thread.ids, got.scope = some spawn) ∨
    ∃ got ∈ thread.locations, got.scope = some spawn

/-- A guest has drawn an id and not yet handed it over. -/
structure Apart (thread : Thread) (id : Nat) : Prop where
  drawn : id < thread.drawn
  unused : id ∉ thread.ids.map Obtained.value
  unset : thread.locals.taskId ≠ some id
  unmentioned : ∀ spawn, thread.Mentions spawn → spawn.id ≠ id

structure Sound (thread : Thread) : Prop where
  ids : Slotted Override.id thread.locals.taskId thread.ids thread.spawns
  locations : Slotted Override.location thread.locals.taskLocation
    thread.locations thread.spawns
  distinct : (thread.ids.map Obtained.value).Nodup
  below : ∀ id ∈ thread.ids.map Obtained.value, id < thread.drawn
  waiting : ∀ id, thread.locals.taskId = some id →
    id < thread.drawn ∧ id ∉ thread.ids.map Obtained.value
  mentioned : ∀ spawn, thread.Mentions spawn → spawn.id < thread.drawn
  spans : Marked thread.locals.forwarded thread.spans thread.calls
    thread.forwards

/-- What a call leaves of a thread, if it uses up an id or none. Spans are made
in the innermost forwarded call, or in new ones. -/
structure Follows (used : Option Nat) (before after : Thread) : Prop where
  sound : after.Sound
  spawns : after.spawns = before.spawns
  calls : after.calls = before.calls
  forwards : before.forwards ≤ after.forwards
  spans : ∀ call < before.forwards, before.calls.head? ≠ some call →
    obtainedIn call after.spans = obtainedIn call before.spans
  apart : ∀ id, used ≠ some id → before.Apart id → after.Apart id

variable {thread before middle after : Thread} {used : Option Nat}

/-- What leaves the spans and the calls alone. -/
theorem Follows.of_sound (sound : after.Sound)
    (spawns : after.spawns = before.spawns)
    (calls : after.calls = before.calls)
    (forwards : after.forwards = before.forwards)
    (spans : after.spans = before.spans)
    (apart : ∀ id, used ≠ some id → before.Apart id → after.Apart id) :
    Follows used before after :=
  ⟨sound, spawns, calls, Nat.le_of_eq forwards.symm,
    fun _ _ _ => congrArg _ spans, apart⟩

theorem Follows.refl (sound : thread.Sound) : Follows none thread thread :=
  .of_sound sound rfl rfl rfl rfl fun _ _ apart => apart

theorem Follows.weaken (follows : Follows none before after) :
    Follows used before after :=
  { follows with apart := fun id _ => follows.apart id nofun }

theorem Follows.trans (first : Follows used before middle)
    (second : Follows used middle after) : Follows used before after where
  sound := second.sound
  spawns := second.spawns.trans first.spawns
  calls := second.calls.trans first.calls
  forwards := Nat.le_trans first.forwards second.forwards
  spans := by
    intro call earlier other
    have there : middle.calls.head? ≠ some call := by
      rw [first.calls]
      exact other
    exact (second.spans call (Nat.lt_of_lt_of_le earlier first.forwards)
      there).trans (first.spans call earlier other)
  apart := fun id different apart =>
    second.apart id different (first.apart id different apart)

theorem Sound.elapse (sound : thread.Sound) (draws : Nat) (poisons : Bool) :
    (thread.elapse draws poisons).Sound :=
  { sound with
    below := fun id member => Nat.lt_add_right draws (sound.below id member)
    waiting := fun id set =>
      ⟨Nat.lt_add_right draws (sound.waiting id set).1,
        (sound.waiting id set).2⟩
    mentioned := fun spawn mentions =>
      Nat.lt_add_right draws (sound.mentioned spawn mentions) }

theorem follows_elapse (sound : thread.Sound) (draws : Nat)
    (poisons : Bool) : Follows none thread (thread.elapse draws poisons) :=
  .of_sound (sound.elapse draws poisons) rfl rfl rfl rfl fun _ _ apart =>
    ⟨Nat.lt_add_right draws apart.drawn, apart.unused, apart.unset,
      apart.unmentioned⟩

theorem follows_nextLocal (sound : thread.Sound) :
    Follows none thread thread.nextLocal := by
  have same : thread.nextLocal = thread.elapse 1 false := by
    simp [nextLocal, Thread.elapse]
  rw [same]
  exact follows_elapse sound 1 false

/-- What is new has not been used. -/
theorem apart_nextLocal (sound : thread.Sound) :
    thread.nextLocal.Apart thread.drawn where
  drawn := Nat.lt_succ_self _
  unused := fun member => Nat.lt_irrefl _ (sound.below _ member)
  unset := fun set => Nat.lt_irrefl _ (sound.waiting _ set).1
  unmentioned := fun spawn mentions =>
    Nat.ne_of_lt (sound.mentioned spawn mentions)

theorem mem_current {α : Type} {list : List (Obtained Override α)}
    {value : α} {handed : Bool} {spawns : List Override} {spawn : Override}
    (mentions : ∃ got ∈ list ++ [⟨value, handed, spawns.head?⟩],
      got.scope = some spawn) :
    spawn ∈ spawns ∨ ∃ got ∈ list, got.scope = some spawn := by
  obtain ⟨got, member, there⟩ := mentions
  rcases List.mem_append.mp member with before | new
  · exact Or.inr ⟨got, before, there⟩
  · rw [List.mem_singleton.mp new] at there
    exact Or.inl (List.mem_of_mem_head? there)

theorem follows_obtainId {own : Nat} (sound : thread.Sound)
    (known : thread.locals.taskId.getD own < thread.drawn)
    (unused : thread.locals.taskId.getD own ∉
      thread.ids.map Obtained.value) :
    Follows (some (thread.locals.taskId.getD own)) thread
      (thread.obtainId (thread.locals.taskId.getD own)
        thread.locals.taskId.isSome) := by
  have mentions : ∀ spawn, (thread.obtainId (thread.locals.taskId.getD own)
      thread.locals.taskId.isSome).Mentions spawn →
        thread.Mentions spawn := by
    rintro spawn (inside | obtained | located)
    · exact Or.inl inside
    · exact (mem_current obtained).imp_right Or.inl
    · exact Or.inr (Or.inr located)
  refine .of_sound ⟨sound.ids.take own, sound.locations, ?_, ?_, nofun,
    fun spawn mentioned => sound.mentioned spawn (mentions spawn mentioned),
    sound.spans⟩ rfl rfl rfl rfl ?_
  · rw [obtainId, List.map_append]
    exact sound.distinct.append (List.nodup_singleton _)
      (List.disjoint_singleton.mpr unused)
  · intro other member
    rw [obtainId, List.map_append] at member
    rcases List.mem_append.mp member with before | new
    · exact sound.below other before
    · rw [List.mem_singleton.mp new]
      exact known
  · intro other different apart
    refine ⟨apart.drawn, ?_, nofun, fun spawn mentioned =>
      apart.unmentioned spawn (mentions spawn mentioned)⟩
    rw [obtainId, List.map_append, List.mem_append, not_or]
    refine ⟨apart.unused, fun new => different ?_⟩
    rw [List.mem_singleton.mp new]

theorem follows_next (sound : thread.Sound) :
    Follows none thread thread.next := by
  unfold next
  cases slot : thread.locals.taskId with
  | some id =>
      obtain ⟨known, unused⟩ := sound.waiting id slot
      have obtained := @follows_obtainId thread 0 sound
      rw [slot] at obtained
      have follows := obtained known unused
      exact { follows with
        apart := fun other _ apart => follows.apart other
          (fun same => apart.unset (slot.trans same)) apart }
  | none =>
      have drawn := follows_nextLocal sound
      have fresh := apart_nextLocal sound
      have obtained := @follows_obtainId thread.nextLocal thread.drawn
        drawn.sound
      rw [show thread.nextLocal.locals.taskId = none from slot] at obtained
      have follows := drawn.weaken.trans (obtained fresh.drawn fresh.unused)
      exact { follows with
        apart := fun other _ apart => follows.apart other
          (fun same => Nat.ne_of_gt apart.drawn (Option.some.inj same))
          apart }

theorem follows_obtainLocation {site : Place} (sound : thread.Sound) :
    Follows none thread
      (thread.obtainLocation (thread.locals.taskLocation.getD site)
        thread.locals.taskLocation.isSome) := by
  have mentions : ∀ spawn, (thread.obtainLocation
      (thread.locals.taskLocation.getD site)
      thread.locals.taskLocation.isSome).Mentions spawn →
        thread.Mentions spawn := by
    rintro spawn (inside | obtained | located)
    · exact Or.inl inside
    · exact Or.inr (Or.inl obtained)
    · exact (mem_current located).imp_right Or.inr
  exact .of_sound ⟨sound.ids, sound.locations.take site, sound.distinct,
      sound.below, sound.waiting, fun spawn mentioned =>
        sound.mentioned spawn (mentions spawn mentioned), sound.spans⟩
    rfl rfl rfl rfl
    fun _ _ apart => ⟨apart.drawn, apart.unused, apart.unset,
      fun spawn mentioned => apart.unmentioned spawn
        (mentions spawn mentioned)⟩

theorem follows_capture (sound : thread.Sound) (site : Place) :
    Follows none thread (thread.capture site) := by
  have follows := @follows_obtainLocation thread site sound
  unfold capture
  cases slot : thread.locals.taskLocation with
  | some location => simpa [slot] using follows
  | none => simpa [slot] using follows

theorem follows_task (sound : thread.Sound) :
    Follows none thread thread.task where
  sound := { sound with spans := sound.spans.take }
  spawns := rfl
  calls := rfl
  forwards := Nat.le_refl _
  spans := by
    intro call _ other
    rw [task, obtainedIn_append, obtainedIn_elsewhere other,
      List.append_nil]
  apart := fun _ _ apart =>
    ⟨apart.drawn, apart.unused, apart.unset, apart.unmentioned⟩

theorem follows_intern (sound : thread.Sound) (place : Place) :
    Follows none thread (thread.intern place).2 := by
  unfold intern
  split
  · exact .refl sound
  · split
    · have same : { thread with poisoned := true } =
          thread.elapse 0 true := by
        simp [elapse]
      rw [same]
      exact follows_elapse sound 0 true
    · exact .refl sound

end Thread

/-! ## Calls -/

namespace Run

variable {call first rest earlier body : Run} {used : Option Nat}
variable {override : Override} {site : Place} {refusal : Option Payload}

/-- Whether it returns or unwinds, a call leaves a sound thread sound, if the
id that it uses up is there. -/
def Keeps (used : Option Nat) (call : Run) : Prop :=
  ∀ thread, thread.Sound → (∀ id, used = some id → thread.Apart id) →
    Thread.Follows used thread (call thread).2

theorem keeps_pure : Keeps none pure :=
  fun _ sound _ => .refl sound

theorem keeps_throw {payload : Payload} : Keeps none (throw payload) :=
  fun _ sound _ => .refl sound

theorem keeps_intern {place : Place} : Keeps none (intern place) :=
  fun _ sound _ => Thread.follows_intern sound place

theorem Keeps.andThen (keepsFirst : Keeps none first)
    (keepsRest : Keeps used rest) : Keeps used (Run.andThen first rest) := by
  intro thread sound apart
  have did := keepsFirst thread sound nofun
  unfold Run.andThen
  rcases ended : first thread with ⟨_ | _, between⟩
  · rw [ended] at did
    exact did.weaken
  · rw [ended] at did
    exact did.weaken.trans (keepsRest between did.sound
      fun id same => did.apart id nofun (apart id same))

theorem Keeps.catches (keeps : Keeps used call) :
    Keeps used (Run.catches call) :=
  keeps

theorem Keeps.told (keeps : Keeps used call) :
    Keeps used (Run.told call) := by
  intro thread sound apart
  have did := keeps thread sound apart
  unfold Run.told
  rcases ended : call thread with ⟨_ | _, after⟩
  · rw [ended] at did
    exact did
  · rw [ended] at did
    exact did

/-- A forwarded call leaves out its first span, and the flag as it was. -/
theorem Keeps.forward (keeps : Keeps used call) :
    Keeps used (Run.forward call) := by
  intro thread sound apart
  have did := keeps
    { thread with
      locals := { thread.locals with forwarded := true }
      calls := thread.forwards :: thread.calls
      forwards := thread.forwards + 1 }
    { sound with spans := sound.spans.enter }
    fun id same => ⟨(apart id same).drawn, (apart id same).unused,
      (apart id same).unset, (apart id same).unmentioned⟩
  have older : ∀ call < thread.forwards, some thread.forwards ≠ some call :=
    fun call earlier same =>
      Nat.ne_of_gt earlier (Option.some.inj same)
  have spans := did.sound.spans
  rw [did.calls] at spans
  refine ⟨{ did.sound with spans := sound.spans.leave spans ?_ },
    did.spawns, rfl, Nat.le_of_succ_le did.forwards, ?_, ?_⟩
  · intro call current
    have earlier := sound.spans.made call (List.mem_of_mem_head? current)
    exact did.spans call (Nat.lt_succ_of_lt earlier) (older call earlier)
  · exact fun call earlier _ =>
      did.spans call (Nat.lt_succ_of_lt earlier) (older call earlier)
  · intro id different apart
    have still := did.apart id different
      ⟨apart.drawn, apart.unused, apart.unset, apart.unmentioned⟩
    exact ⟨still.drawn, still.unused, still.unset, still.unmentioned⟩

/-- What is set when the spawn of a guest begins. -/
def entered (override : Override) (thread : Thread) : Thread :=
  { thread with
    locals := { thread.locals with
      taskId := some override.id
      taskLocation := some override.location }
    spawns := override :: thread.spawns }

section Inside

variable {thread after : Thread}

theorem mentions_entered {spawn : Override}
    (mentions : (entered override thread).Mentions spawn) :
    spawn = override ∨ thread.Mentions spawn := by
  rcases mentions with inside | obtained
  · exact (List.mem_cons.mp inside).imp_right Or.inl
  · exact Or.inr (Or.inr obtained)

theorem sound_entered (sound : thread.Sound)
    (apart : thread.Apart override.id)
    (noId : thread.locals.taskId = none)
    (noLocation : thread.locals.taskLocation = none) :
    (entered override thread).Sound := by
  have ids := sound.ids
  have locations := sound.locations
  rw [noId] at ids
  rw [noLocation] at locations
  refine ⟨ids.enter (obtainedIn_of_unmentioned ?_),
    locations.enter (obtainedIn_of_unmentioned ?_), sound.distinct,
    sound.below, ?_, ?_, sound.spans⟩
  · exact fun got member here =>
      apart.unmentioned override (.inr (.inl ⟨got, member, here⟩)) rfl
  · exact fun got member here =>
      apart.unmentioned override (.inr (.inr ⟨got, member, here⟩)) rfl
  · rintro id ⟨⟩
    exact ⟨apart.drawn, apart.unused⟩
  · intro spawn mentions
    rcases mentions_entered mentions with rfl | before
    · exact apart.drawn
    · exact sound.mentioned spawn before

/-- The thread-locals are empty again, and the spawn is left. -/
def left (thread after : Thread) : Thread :=
  { after with
    locals := { after.locals with taskId := none, taskLocation := none }
    spawns := thread.spawns }

theorem mentions_left {spawn : Override}
    (spawns : after.spawns = override :: thread.spawns)
    (mentions : (left thread after).Mentions spawn) :
    after.Mentions spawn := by
  rcases mentions with outer | obtained
  · refine Or.inl ?_
    rw [spawns]
    exact List.mem_cons_of_mem _ outer
  · exact Or.inr obtained

theorem follows_left
    (apart : thread.Apart override.id)
    (follows : Thread.Follows none (entered override thread) after) :
    Thread.Follows (some override.id) thread (left thread after) := by
  have spawns := follows.spawns
  have sound := follows.sound
  have ids := sound.ids
  have locations := sound.locations
  rw [spawns] at ids locations
  refine ⟨⟨ids.leave, locations.leave, sound.distinct, sound.below, nofun,
    fun spawn mentions => sound.mentioned spawn
      (mentions_left spawns mentions), sound.spans⟩, rfl, follows.calls,
    follows.forwards, follows.spans, ?_⟩
  intro id different kept
  have still := follows.apart id nofun
    ⟨kept.drawn, kept.unused, different, fun spawn mentions same => by
      rcases mentions_entered mentions with rfl | before
      · exact different (congrArg some same)
      · exact kept.unmentioned spawn before same⟩
  exact ⟨still.drawn, still.unused, nofun, fun spawn mentions =>
    still.unmentioned spawn (mentions_left spawns mentions)⟩

end Inside

theorem withTelekio_cases (override : Override) (call : Run)
    (thread : Thread) :
    (withTelekio override call thread).2 = thread ∨
    thread.locals.taskId = none ∧ thread.locals.taskLocation = none ∧
      (withTelekio override call thread).2 =
        left thread (call (entered override thread)).2 := by
  unfold withTelekio checked
  split
  · exact Or.inl rfl
  · rename_i noId
    split
    · exact Or.inl rfl
    · rename_i noLocation
      have clearId := Option.not_isSome_iff_eq_none.mp noId
      have clearLocation := Option.not_isSome_iff_eq_none.mp noLocation
      refine Or.inr ⟨clearId, clearLocation, ?_⟩
      rw [clearId, clearLocation]
      rfl

/-- The overrides of a spawn are set in it, if there are none before it, and
there are none after it. -/
theorem Keeps.withTelekio (keeps : Keeps none call) :
    Keeps (some override.id) (Run.withTelekio override call) := by
  intro thread sound apart
  have fresh := apart override.id rfl
  rcases withTelekio_cases override call thread with
    same | ⟨noId, noLocation, same⟩
  · rw [same]
    exact (Thread.Follows.refl sound).weaken
  · rw [same]
    exact follows_left fresh (keeps (entered override thread)
      (sound_entered sound fresh noId noLocation) nofun)

theorem Keeps.spawnOnHost (keeps : Keeps none body) :
    Keeps (some override.id) (Run.spawnOnHost override refusal body) := by
  cases refusal with
  | some payload =>
      have refused : Keeps none (Run.spawnOnHost override (some payload)
          body) := (keeps_intern.andThen keeps).told.andThen keeps_throw
      exact fun thread sound _ => (refused thread sound nofun).weaken
  | none => exact (keeps_intern.andThen keeps.withTelekio.forward).told

/-- The id that a guest draws is its own until the host is called. -/
theorem Keeps.guestSpawn (keepsEarlier : Keeps none earlier)
    (keeps : Keeps none body) :
    Keeps none (Run.guestSpawn site earlier refusal body) := by
  intro thread sound _
  have drawn := Thread.follows_nextLocal sound
  have spawns := keepsEarlier.andThen
    (@Keeps.spawnOnHost body ⟨thread.drawn, site⟩ refusal keeps)
  have did := spawns thread.nextLocal drawn.sound (by
    rintro id ⟨⟩
    exact Thread.apart_nextLocal sound)
  have follows := drawn.weaken.trans did
  exact { follows with
    apart := fun id _ apart => follows.apart id
      (fun same => Nat.ne_of_gt apart.drawn (Option.some.inj same)) apart }

end Run

/-! ## All code -/

theorem keeps_run (code : Code) : Run.Keeps none code.run := by
  induction code with
  | skip => exact Run.keeps_pure
  | elapse draws poisons =>
      exact fun _ sound _ => Thread.follows_elapse sound draws poisons
  | panic payload => exact Run.keeps_throw
  | andThen first rest ihFirst ihRest => exact ihFirst.andThen ihRest
  | catches body ih => exact ih.catches
  | next => exact fun _ sound _ => Thread.follows_next sound
  | capture site => exact fun _ sound _ => Thread.follows_capture sound site
  | task => exact fun _ sound _ => Thread.follows_task sound
  | guestSpawn site earlier refusal body ihEarlier ih =>
      exact ihEarlier.guestSpawn ih
  | guestBlockOn body ih => exact ih.forward.told

theorem Locals.eq_clean {locals : Locals} (noId : locals.taskId = none)
    (noLocation : locals.taskLocation = none)
    (notForwarded : locals.forwarded = false) : locals = .clean := by
  obtain ⟨taskId, taskLocation, forwarded⟩ := locals
  cases noId
  cases noLocation
  cases notForwarded
  rfl

theorem sound_start (drawn : Nat) (poisoned : Bool) :
    (Thread.start drawn poisoned).Sound where
  ids := ⟨fun _ => rfl, nofun, nofun, .nil⟩
  locations := ⟨fun _ => rfl, nofun, nofun, .nil⟩
  distinct := List.nodup_nil
  below := nofun
  waiting := nofun
  mentioned := by
    rintro spawn (inside | ⟨got, inside, -⟩ | ⟨got, inside, -⟩)
    · cases inside
    · cases inside
    · cases inside
  spans := ⟨fun _ => rfl, nofun, nofun, nofun, .nil⟩

/-- Whatever a thread runs, with spawns of guests in one another to any depth,
refused or panicking anywhere, and whatever Tokio asks for in them: what a
guest hands over goes to the first that asks in its spawn, and nowhere else,
and of the spans in a forwarded call the first is left out, and no other. -/
theorem run_handsOver (code : Code) (drawn : Nat) (poisoned : Bool) :
    HandedOver (code.run (.start drawn poisoned)).2 := by
  have follows := keeps_run code _ (sound_start drawn poisoned) nofun
  have sound := follows.sound
  have outside := follows.spawns
  exact ⟨sound.ids.delivers, sound.locations.delivers, sound.distinct,
    sound.spans.delivers,
    Locals.eq_clean (sound.ids.outside outside)
      (sound.locations.outside outside)
      (sound.spans.outside follows.calls)⟩

/-- In a spawn of a guest Tokio asks for an id, then runs a hook that spawns
again and panics, where Tokio has asked for all. -/
example : (Code.run (.catches (.guestSpawn ⟨[97], 1, 1⟩ .skip none
    (.andThen .next (.andThen (.capture ⟨[98], 1, 1⟩) (.andThen
      (.guestSpawn ⟨[97], 2, 1⟩ .skip none
        (.andThen .next (.andThen (.capture ⟨[98], 1, 1⟩) .task)))
      (.panic (.str "hook"))))))) (.start 7 false)).2.ids =
    [⟨7, true, some ⟨7, ⟨[97], 1, 1⟩⟩⟩,
      ⟨8, true, some ⟨8, ⟨[97], 2, 1⟩⟩⟩] := by
  decide

end Telekio.Identity
