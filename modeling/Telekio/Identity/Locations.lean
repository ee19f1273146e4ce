import Mathlib.Data.List.Nodup
import Mathlib.Data.List.TakeWhile
import Mathlib.Logic.Relation
import Telekio.Abi.Result

/-!
# Source locations of the host

`intern` of `bridge/runtime/location.rs`. The host keeps a table of the source
locations that guests spawn tasks at. A guest may be unloaded, so the table
must not point into its memory; and a location is handed out for the rest of
the process.
-/

namespace Telekio.Identity

open Telekio.Abi (Payload)

/-- A part of a block of memory, from its start. -/
structure Slice where
  block : Nat
  len : Nat
deriving DecidableEq, Repr

/-- Blocks of memory by their addresses. -/
abbrev Memory :=
  Nat → Option (List UInt8)

def Slice.read (slice : Slice) (memory : Memory) : Option (List UInt8) :=
  (memory slice.block).bind fun bytes =>
    if slice.len ≤ bytes.length then some (bytes.take slice.len) else none

/-- `SourceLocation`, and `Key`, which has the same fields. -/
structure SourceLocation where
  file : Slice
  line : UInt32
  column : UInt32
deriving DecidableEq, Repr

/-- `LocationRepr`. -/
structure LocationRepr where
  filename : Slice
  line : UInt32
  column : UInt32
deriving DecidableEq, Repr

/-- What a location says. -/
structure Place where
  file : List UInt8
  line : UInt32
  column : UInt32
deriving DecidableEq, Repr

def SourceLocation.place (source : SourceLocation) (memory : Memory) :
    Option Place :=
  (source.file.read memory).map fun file =>
    ⟨file, source.line, source.column⟩

def LocationRepr.file (location : LocationRepr) (memory : Memory) :
    Option (List UInt8) :=
  location.filename.read memory

/-- The bytes before the first NUL. -/
def LocationRepr.fileAsCStr (location : LocationRepr) (memory : Memory) :
    Option (List UInt8) :=
  (memory location.filename.block).bind fun bytes =>
    if 0 ∈ bytes then some (bytes.takeWhile (· ≠ 0)) else none

def LocationRepr.place (location : LocationRepr) (memory : Memory) :
    Option Place :=
  (location.file memory).map fun file =>
    ⟨file, location.line, location.column⟩

/-- The mutex with its table, and what has been leaked: the blocks of the file
names, and the locations, whose addresses are their places in the list. -/
structure Interner where
  memory : Memory
  leaked : List Nat
  records : List LocationRepr
  locations : List (SourceLocation × Nat)
  poisoned : Bool

inductive Interned where
  | location (address : Nat)
  | panicked (payload : Payload)
  | stuck
deriving DecidableEq, Repr

/-- `HashMap::get`. It may compare the key with any key of the table. -/
def lookup (memory : Memory) (place : Place) :
    List (SourceLocation × Nat) → Option (Option Nat)
  | [] => some none
  | (key, address) :: rest =>
      (key.place memory).bind fun other =>
        if other = place then some (some address)
        else lookup memory place rest

def poisonError : Payload :=
  .string
    "called `Result::unwrap()` on an `Err` value: PoisonError { .. }"

def containsNul : Payload :=
  .str "Tokio source path contains NUL"

/-- What the assertions of `intern` compare. -/
def agrees (memory : Memory) (place : Place) (location : LocationRepr) :
    Bool :=
  location.file memory = some place.file &&
    location.fileAsCStr memory = some place.file &&
    location.line = place.line && location.column = place.column

namespace Interner

def start (memory : Memory) : Interner where
  memory := memory
  leaked := []
  records := []
  locations := []
  poisoned := false

variable (interner : Interner)

def poison : Interner :=
  { interner with poisoned := true }

/-- The location that `intern` leaks with a copy of the file's name. -/
def leak (place : Place) (block : Nat) : LocationRepr :=
  ⟨⟨block, place.file.length⟩, place.line, place.column⟩

/-- After both leaks and the insertion. -/
def add (place : Place) (block : Nat) : Interner where
  memory :=
    Function.update interner.memory block (some (place.file ++ [0]))
  leaked := block :: interner.leaked
  records := interner.records ++ [leak place block]
  locations :=
    (⟨⟨block, place.file.length⟩, place.line, place.column⟩,
      interner.records.length) :: interner.locations
  poisoned := false

/-- `intern`, where the allocator returns `block`. A panic poisons the mutex. -/
def intern (source : SourceLocation) (block : Nat) : Interned × Interner :=
  if interner.poisoned then
    (.panicked poisonError, interner)
  else
    match source.place interner.memory with
    | none => (.stuck, interner)
    | some place =>
        match lookup interner.memory place interner.locations with
        | none => (.stuck, interner)
        | some (some address) => (.location address, interner)
        | some none =>
            if 0 ∈ place.file then
              (.panicked containsNul, interner.poison)
            else
              let added := interner.add place block
              if agrees added.memory place (leak place block) then
                (.location interner.records.length, added)
              else
                (.panicked (.str "assertion failed"), interner.poison)

/-- What the location at an address says. -/
def placeAt (address : Nat) : Option Place :=
  interner.records[address]?.bind (·.place interner.memory)

/-- A thread interns a location that it can read; or a guest is loaded or
unloaded, or anything else changes memory that the host has not leaked. -/
inductive Steps : Interner → Interner → Prop where
  | interns {interner : Interner} {source : SourceLocation} {block : Nat}
      (readable : (source.place interner.memory).isSome)
      (fresh : interner.memory block = none) :
      Steps interner (interner.intern source block).2
  | changes {interner : Interner} {memory : Memory}
      (kept : ∀ block ∈ interner.leaked,
        memory block = interner.memory block) :
      Steps interner { interner with memory := memory }

def Runs : Interner → Interner → Prop :=
  Relation.ReflTransGen Steps

/-- An entry of the table points to a leaked location that says what its key
says, with the leaked file name in both. -/
structure Entry (entry : SourceLocation × Nat) (place : Place) : Prop where
  leaked : entry.1.file.block ∈ interner.leaked
  key : entry.1.place interner.memory = some place
  record : interner.records[entry.2]? =
    some ⟨entry.1.file, entry.1.line, entry.1.column⟩
  clean : 0 ∉ place.file

/-- No two entries say the same. -/
structure Sound : Prop where
  entries : ∀ entry ∈ interner.locations, ∃ place,
    interner.Entry entry place
  distinct : (interner.locations.map fun entry =>
    entry.1.place interner.memory).Nodup

section Invariant

variable {interner} {memory : Memory} {place : Place}
variable {entry : SourceLocation × Nat}

theorem place_congr {source : SourceLocation} {before after : Memory}
    (kept : after source.file.block = before source.file.block) :
    source.place after = source.place before := by
  unfold SourceLocation.place Slice.read
  rw [kept]

theorem Entry.placeAt (held : interner.Entry entry place) :
    interner.placeAt entry.2 = some place := by
  unfold Interner.placeAt
  rw [held.record]
  exact held.key

theorem Entry.changes (held : interner.Entry entry place)
    (kept : ∀ block ∈ interner.leaked,
      memory block = interner.memory block) :
    Entry { interner with memory := memory } entry place where
  leaked := held.leaked
  key := (place_congr (kept _ held.leaked)).trans held.key
  record := held.record
  clean := held.clean

/-- A block that an entry uses is not given out again. -/
theorem Entry.ne_of_fresh (held : interner.Entry entry place) {block : Nat}
    (fresh : interner.memory block = none) : entry.1.file.block ≠ block := by
  rintro rfl
  have key := held.key
  simp [SourceLocation.place, Slice.read, fresh] at key

theorem Entry.add (held : interner.Entry entry place) {block : Nat}
    (fresh : interner.memory block = none) (new : Place) :
    (interner.add new block).Entry entry place where
  leaked := List.mem_cons_of_mem _ held.leaked
  key := by
    have apart := held.ne_of_fresh fresh
    exact (place_congr (Function.update_of_ne apart _ _)).trans held.key
  record := by
    have inside := List.getElem?_eq_some_iff.mp held.record
    exact (List.getElem?_append_left inside.1).trans held.record
  clean := held.clean

theorem file_add {block : Nat} :
    (Slice.mk block place.file.length).read
      (interner.add place block).memory = some place.file := by
  simp [Slice.read, Interner.add]

/-- The entry of a new location. -/
theorem entry_add {block : Nat} (clean : 0 ∉ place.file) :
    (interner.add place block).Entry
      (⟨⟨block, place.file.length⟩, place.line, place.column⟩,
        interner.records.length) place where
  leaked := List.mem_cons_self
  key := by
    unfold SourceLocation.place
    rw [file_add]
    rfl
  record := by
    unfold Interner.add
    simp [leak]
  clean := clean

/-- The assertions of `intern` hold for what it has made. -/
theorem agrees_add {block : Nat} (clean : 0 ∉ place.file) :
    agrees (interner.add place block).memory place (leak place block) =
      true := by
  have file : (leak place block).file (interner.add place block).memory =
      some place.file :=
    file_add
  have before : place.file.takeWhile (· ≠ 0) = place.file := by
    refine List.takeWhile_eq_self_iff.mpr fun byte member => ?_
    rw [decide_eq_true_eq]
    rintro rfl
    exact clean member
  have fileAsCStr : (leak place block).fileAsCStr
      (interner.add place block).memory = some place.file := by
    simp only [LocationRepr.fileAsCStr, leak, Interner.add,
      Function.update_self, Option.bind_some]
    rw [if_pos (by simp), List.takeWhile_append, before]
    simp
  unfold agrees
  rw [file, fileAsCStr]
  simp [leak]

/-- A lookup reads only memory that is there, and finds what says the same. -/
theorem lookup_eq {locations : List (SourceLocation × Nat)}
    (entries : ∀ entry ∈ locations, ∃ other,
      interner.Entry entry other) :
    (∃ entry ∈ locations, interner.Entry entry place ∧
      lookup interner.memory place locations = some (some entry.2)) ∨
    (lookup interner.memory place locations = some none ∧
      ∀ entry ∈ locations,
        entry.1.place interner.memory ≠ some place) := by
  induction locations with
  | nil => exact Or.inr ⟨rfl, nofun⟩
  | cons entry rest ih =>
      obtain ⟨key, address⟩ := entry
      obtain ⟨⟨other, held⟩, later⟩ := List.forall_mem_cons.mp entries
      by_cases same : other = place
      · subst same
        refine Or.inl ⟨_, List.mem_cons_self, held, ?_⟩
        rw [lookup, held.key, Option.bind_some, if_pos rfl]
      · have skips : lookup interner.memory place ((key, address) :: rest) =
            lookup interner.memory place rest := by
          rw [lookup, held.key, Option.bind_some, if_neg same]
        rw [skips]
        rcases ih later with ⟨found, member, tells, eq⟩ | ⟨eq, absent⟩
        · exact Or.inl ⟨found, List.mem_cons_of_mem _ member, tells, eq⟩
        · refine Or.inr ⟨eq, List.forall_mem_cons.mpr ⟨?_, absent⟩⟩
          rw [held.key]
          exact fun equal => same (Option.some.inj equal)

/-! ## One call -/

variable {source : SourceLocation} {block : Nat}

theorem intern_of_poisoned (poisoned : interner.poisoned = true) :
    interner.intern source block = (.panicked poisonError, interner) := by
  unfold Interner.intern
  rw [if_pos poisoned]

/-- What a call does, while the mutex is not poisoned. -/
theorem intern_cases (sound : interner.Sound)
    (healthy : interner.poisoned = false)
    (reads : source.place interner.memory = some place) :
    (∃ entry ∈ interner.locations, interner.Entry entry place ∧
      interner.intern source block = (.location entry.2, interner)) ∨
    ((∀ entry ∈ interner.locations,
        entry.1.place interner.memory ≠ some place) ∧
      ((0 ∈ place.file ∧ interner.intern source block =
          (.panicked containsNul, interner.poison)) ∨
        (0 ∉ place.file ∧ interner.intern source block =
          (.location interner.records.length,
            interner.add place block)))) := by
  unfold Interner.intern
  rw [if_neg (by simp [healthy]), reads]
  rcases @lookup_eq _ place _ sound.entries with
    ⟨entry, member, held, found⟩ | ⟨found, absent⟩
  · left
    refine ⟨entry, member, held, ?_⟩
    simp only [found]
  · right
    refine ⟨absent, ?_⟩
    simp only [found]
    by_cases nul : 0 ∈ place.file
    · left
      exact ⟨nul, if_pos nul⟩
    · right
      refine ⟨nul, ?_⟩
      rw [if_neg nul]
      exact if_pos (agrees_add nul)

theorem Sound.poison (sound : interner.Sound) : interner.poison.Sound where
  entries := by
    intro entry member
    obtain ⟨place, held⟩ := sound.entries entry member
    exact ⟨place, held.leaked, held.key, held.record, held.clean⟩
  distinct := sound.distinct

/-- Memory that keeps what the entries use, keeps what they say. -/
theorem places_congr {locations : List (SourceLocation × Nat)}
    {before after : Memory}
    (kept : ∀ entry ∈ locations,
      after entry.1.file.block = before entry.1.file.block) :
    (locations.map fun entry => entry.1.place after) =
      locations.map fun entry => entry.1.place before :=
  List.map_congr_left fun entry member => place_congr (kept entry member)

theorem Sound.changes (sound : interner.Sound)
    (kept : ∀ block ∈ interner.leaked,
      memory block = interner.memory block) :
    Sound { interner with memory := memory } where
  entries := by
    intro entry member
    obtain ⟨place, held⟩ := sound.entries entry member
    exact ⟨place, held.changes kept⟩
  distinct := by
    have same := @places_congr interner.locations interner.memory memory
      fun entry member => by
        obtain ⟨place, held⟩ := sound.entries entry member
        exact kept _ held.leaked
    exact same ▸ sound.distinct

theorem Sound.add (sound : interner.Sound)
    (fresh : interner.memory block = none) (clean : 0 ∉ place.file)
    (absent : ∀ entry ∈ interner.locations,
      entry.1.place interner.memory ≠ some place) :
    (interner.add place block).Sound where
  entries := by
    refine List.forall_mem_cons.mpr ⟨⟨place, entry_add clean⟩, ?_⟩
    intro entry member
    obtain ⟨other, held⟩ := sound.entries entry member
    exact ⟨other, held.add fresh place⟩
  distinct := by
    have kept : ∀ entry ∈ interner.locations,
        (interner.add place block).memory entry.1.file.block =
          interner.memory entry.1.file.block := by
      intro entry member
      obtain ⟨other, held⟩ := sound.entries entry member
      exact Function.update_of_ne (held.ne_of_fresh fresh) _ _
    refine List.nodup_cons.mpr ⟨?_, places_congr kept ▸ sound.distinct⟩
    rw [places_congr kept]
    intro member
    obtain ⟨entry, inside, same⟩ := List.mem_map.mp member
    exact absent entry inside (same.trans (entry_add clean).key)

theorem Sound.interns (sound : interner.Sound)
    (reads : source.place interner.memory = some place)
    (fresh : interner.memory block = none) :
    (interner.intern source block).2.Sound := by
  cases healthy : interner.poisoned with
  | true =>
      rw [intern_of_poisoned healthy]
      exact sound
  | false =>
      rcases @intern_cases _ _ _ block sound healthy reads with
        ⟨entry, member, held, did⟩ | ⟨absent, ⟨nul, did⟩ | ⟨clean, did⟩⟩
      · rw [did]
        exact sound
      · rw [did]
        exact sound.poison
      · rw [did]
        exact sound.add fresh clean absent

theorem sound_start : (start memory).Sound where
  entries := nofun
  distinct := List.Pairwise.nil

theorem Sound.steps {next : Interner} (sound : interner.Sound)
    (steps : Steps interner next) : next.Sound := by
  cases steps with
  | interns readable fresh =>
      obtain ⟨place, reads⟩ := Option.isSome_iff_exists.mp readable
      exact sound.interns reads fresh
  | changes kept => exact sound.changes kept

theorem Sound.runs {later : Interner} (sound : interner.Sound)
    (runs : Runs interner later) : later.Sound := by
  induction runs with
  | refl => exact sound
  | tail earlier steps ih => exact ih.steps steps

/-- An entry is there for good. -/
theorem Entry.steps {next : Interner} (sound : interner.Sound)
    (held : interner.Entry entry place)
    (member : entry ∈ interner.locations) (steps : Steps interner next) :
    next.Entry entry place ∧ entry ∈ next.locations := by
  cases steps with
  | changes kept => exact ⟨held.changes kept, member⟩
  | @interns source block readable fresh =>
      obtain ⟨other, reads⟩ := Option.isSome_iff_exists.mp readable
      cases healthy : interner.poisoned with
      | true =>
          rw [intern_of_poisoned healthy]
          exact ⟨held, member⟩
      | false =>
          rcases @intern_cases _ _ _ block sound healthy reads with
            ⟨_, _, _, did⟩ | ⟨absent, ⟨nul, did⟩ | ⟨clean, did⟩⟩
          · rw [did]
            exact ⟨held, member⟩
          · rw [did]
            exact ⟨⟨held.leaked, held.key, held.record, held.clean⟩,
              member⟩
          · rw [did]
            exact ⟨held.add fresh other, List.mem_cons_of_mem _ member⟩

theorem Entry.runs {later : Interner} (sound : interner.Sound)
    (held : interner.Entry entry place)
    (member : entry ∈ interner.locations) (runs : Runs interner later) :
    later.Entry entry place ∧ entry ∈ later.locations := by
  induction runs with
  | refl => exact ⟨held, member⟩
  | tail earlier steps ih =>
      exact ih.1.steps (sound.runs earlier) ih.2 steps

theorem poisoned_runs {later : Interner} (runs : Runs interner later)
    (poisoned : interner.poisoned = true) : later.poisoned = true := by
  induction runs with
  | refl => exact poisoned
  | tail earlier steps ih =>
      cases steps with
      | changes kept => exact ih
      | interns readable fresh =>
          rw [intern_of_poisoned ih]
          exact ih

/-- Two entries that say the same are one. -/
theorem Sound.entry_eq (sound : interner.Sound)
    {other : SourceLocation × Nat} (held : interner.Entry entry place)
    (otherHeld : interner.Entry other place)
    (member : entry ∈ interner.locations)
    (otherMember : other ∈ interner.locations) : other = entry :=
  List.inj_on_of_nodup_map sound.distinct otherMember member
    (otherHeld.key.trans held.key.symm)

/-- A call returns the address of an entry exactly for what the entry says. -/
theorem location_iff {address : Nat} {other : Place}
    (sound : interner.Sound) (held : interner.Entry entry place)
    (member : entry ∈ interner.locations)
    (reads : source.place interner.memory = some other)
    (did : (interner.intern source block).1 = .location address) :
    address = entry.2 ↔ other = place := by
  cases healthy : interner.poisoned with
  | true =>
      rw [intern_of_poisoned healthy] at did
      cases did
  | false =>
      rcases @intern_cases _ _ _ block sound healthy reads with
        ⟨found, inside, tells, made⟩ | ⟨absent, ⟨nul, made⟩ | ⟨clean, made⟩⟩
      · rw [made] at did
        cases did
        constructor
        · intro same
          have at_ := tells.placeAt
          rw [same, held.placeAt] at at_
          exact (Option.some.inj at_).symm
        · rintro rfl
          rw [sound.entry_eq held tells member inside]
      · rw [made] at did
        cases did
      · rw [made] at did
        cases did
        constructor
        · intro same
          have inside := (List.getElem?_eq_some_iff.mp held.record).1
          omega
        · rintro rfl
          exact absurd held.key (absent entry member)

/-- In every run, with guests loaded and unloaded at any time: a call never
reads memory that is gone, and never fails an assertion. It returns a location
that says what its source says, for good; and from then on a call returns this
location exactly for the same file, line and column. Only a file name with a
NUL panics, and then every call panics. -/
theorem interned_canonical (reaches : Runs (start memory) interner)
    (reads : source.place interner.memory = some place)
    (fresh : interner.memory block = none)
    (healthy : interner.poisoned = false) :
    (0 ∉ place.file → ∃ address,
      (interner.intern source block).1 = .location address ∧
      ∀ later, Runs (interner.intern source block).2 later →
        later.placeAt address = some place ∧
        ∀ source block other found,
          source.place later.memory = some other →
            (later.intern source block).1 = .location found →
              (found = address ↔ other = place)) ∧
    (0 ∈ place.file →
      (interner.intern source block).1 = .panicked containsNul ∧
      ∀ later, Runs (interner.intern source block).2 later →
        ∀ source block,
          (later.intern source block).1 = .panicked poisonError) := by
  have sound := sound_start.runs reaches
  have after := @Sound.interns _ _ _ block sound reads fresh
  rcases @intern_cases _ _ _ block sound healthy reads with
    ⟨entry, member, held, did⟩ | ⟨absent, ⟨nul, did⟩ | ⟨clean, did⟩⟩
  · refine ⟨fun _ => ⟨entry.2, by rw [did], ?_⟩,
      fun nul => absurd nul held.clean⟩
    rw [did]
    intro later runs
    have kept := held.runs sound member runs
    refine ⟨kept.1.placeAt, fun source block other found reads did => ?_⟩
    exact location_iff (sound.runs runs) kept.1 kept.2 reads did
  · refine ⟨fun clean => absurd nul clean, fun _ => ⟨by rw [did], ?_⟩⟩
    rw [did]
    intro later runs source block
    rw [intern_of_poisoned (poisoned_runs runs rfl)]
  · refine ⟨fun _ => ⟨interner.records.length, by rw [did], ?_⟩,
      fun nul => absurd nul clean⟩
    rw [did] at after ⊢
    intro later runs
    have held := @entry_add interner _ block clean
    have kept := held.runs after List.mem_cons_self runs
    refine ⟨kept.1.placeAt, fun source block other found reads did => ?_⟩
    exact location_iff (after.runs runs) kept.1 kept.2 reads did

/-- A guest has the name of its file in block 1. -/
theorem interned_canonical_first :
    ∃ address,
      ((start fun block => if block = 1 then some [97] else none).intern
        ⟨⟨1, 1⟩, 7, 3⟩ 0).1 = .location address ∧
      ((start fun block => if block = 1 then some [97] else none).intern
        ⟨⟨1, 1⟩, 7, 3⟩ 0).2.placeAt address = some ⟨[97], 7, 3⟩ := by
  obtain ⟨address, did, later⟩ := (@interned_canonical
    (start fun block => if block = 1 then some [97] else none) _
    ⟨[97], 7, 3⟩ ⟨⟨1, 1⟩, 7, 3⟩ 0 .refl (by decide) rfl rfl).1 (by decide)
  exact ⟨address, did, (later _ .refl).1⟩

end Invariant

end Interner

end Telekio.Identity
