import Telekio.Codec.LittleEndian

/-!
# Runtime dumps across the ABI

`Dump::telekio_encode` and `push` of `host/runtime/dump.rs`, `decode` and
`read` of `guest/runtime/dump.rs`. A panic of the host is `none`; the guest
panics, or aborts where the allocator refuses it memory.
-/

namespace Telekio.Dumping

open Telekio.Codec

/-- A `Vec`, whose length is a 64-bit `usize`. -/
structure Vec (α : Type) where
  items : List α
  length_lt : items.length < 2 ^ 64

/-- `task::Id`, a `NonZeroU64`. -/
structure Id where
  value : UInt64
  nonZero : value ≠ 0

/-- The addresses of a frame, as numbers: a `backtrace::Frame` of the host
and a `ForeignFrame` of the guest. -/
structure Frame where
  ip : UInt64
  symbol : UInt64

structure Task where
  id : Id
  backtraces : Vec (Vec Frame)

structure Dump where
  tasks : Vec Task

def push (bytes : List UInt8) (value : Nat) : Option (List UInt8) :=
  if value < 2 ^ 64 then
    some (bytes ++ leBytes 8 value)
  else
    none

def pushFrame (bytes : List UInt8) (frame : Frame) :
    Option (List UInt8) := do
  let bytes ← push bytes frame.ip.toNat
  push bytes frame.symbol.toNat

def pushBacktrace (bytes : List UInt8) (backtrace : Vec Frame) :
    Option (List UInt8) := do
  let bytes ← push bytes backtrace.items.length
  backtrace.items.foldlM pushFrame bytes

def pushTask (bytes : List UInt8) (task : Task) :
    Option (List UInt8) := do
  let bytes ← push bytes task.id.value.toNat
  let bytes ← push bytes task.backtraces.items.length
  task.backtraces.items.foldlM pushBacktrace bytes

def telekioEncode (dump : Dump) : Option (List UInt8) := do
  let bytes ← push [] dump.tasks.items.length
  dump.tasks.items.foldlM pushTask bytes

/-- How `decode` fails. -/
inductive Fault where
  | panicked
  | aborted
deriving DecidableEq, Repr

/-- What the vectors of a dump hold. -/
inductive Item where
  | task
  | backtrace
  | frame
deriving DecidableEq, Repr

/-- What becomes of `Vec::with_capacity`: the memory is there, the size is
beyond `isize`, or the allocator refuses it. -/
inductive Reservation where
  | granted
  | overflow
  | refused
deriving DecidableEq, Repr

/-- The answer to a request for so many items. -/
abbrev Memory : Type :=
  Item → Nat → Reservation

/-- `Vec::with_capacity`, and `handle_alloc_error` where it fails. -/
def reserve (memory : Memory) (item : Item) (count : Nat) :
    Reader Fault UInt8 PUnit :=
  match memory item count with
  | .granted => pure ⟨⟩
  | .overflow => throw .panicked
  | .refused => throw .aborted

def read : Reader Fault UInt8 UInt64 := fun bytes =>
  if 8 ≤ bytes.length then
    .ok (UInt64.ofNat (ofLeBytes (bytes.take 8)), bytes.drop 8)
  else
    .error .panicked

/-- `Id::from_telekio` of what is read. -/
def readId : Reader Fault UInt8 Id := do
  let value ← read
  if nonZero : value ≠ 0 then pure ⟨value, nonZero⟩ else throw .panicked

/-- An address, on a guest whose `usize` has `bits` bits. -/
def readAddress (bits : Nat) : Reader Fault UInt8 UInt64 := do
  let value ← read
  if value.toNat < 2 ^ bits then pure value else throw .panicked

def readFrame (bits : Nat) : Reader Fault UInt8 Frame := do
  let ip ← readAddress bits
  let symbol ← readAddress bits
  pure ⟨ip, symbol⟩

/-- `(0..read(..)).map(..).collect()`, which makes room for all items before it
reads the first; a longer list is no `Vec`. -/
def readVec {α : Type} (memory : Memory) (kind : Item)
    (item : Reader Fault UInt8 α) : Reader Fault UInt8 (Vec α) := do
  let count ← read
  reserve memory kind count.toNat
  let items ← collect item count.toNat
  if length_lt : items.length < 2 ^ 64 then
    pure ⟨items, length_lt⟩
  else
    throw .panicked

def readBacktrace (bits : Nat) (memory : Memory) :
    Reader Fault UInt8 (Vec Frame) :=
  readVec memory .frame (readFrame bits)

def readTask (bits : Nat) (memory : Memory) : Reader Fault UInt8 Task := do
  let id ← readId
  let backtraces ← readVec memory .backtrace (readBacktrace bits memory)
  pure ⟨id, backtraces⟩

def decode (bits : Nat) (memory : Memory) (bytes : List UInt8) :
    Except Fault Dump :=
  match (readVec memory .task (readTask bits memory)).run bytes with
  | .ok (tasks, []) => .ok ⟨tasks⟩
  -- "Tokio runtime dump has trailing data"
  | .ok (_, _ :: _) => .error .panicked
  | .error fault => .error fault

def Vec.format {α : Type} (item : α → List UInt8) (vec : Vec α) :
    List UInt8 :=
  leBytes 8 vec.items.length ++ vec.items.flatMap item

def Frame.format (frame : Frame) : List UInt8 :=
  leBytes 8 frame.ip.toNat ++ leBytes 8 frame.symbol.toNat

def Task.format (task : Task) : List UInt8 :=
  leBytes 8 task.id.value.toNat ++
    task.backtraces.format (Vec.format Frame.format)

def Dump.format (dump : Dump) : List UInt8 :=
  dump.tasks.format Task.format

/-- The addresses fit a `usize` of `bits` bits. -/
def Frame.Fits (bits : Nat) (frame : Frame) : Prop :=
  frame.ip.toNat < 2 ^ bits ∧ frame.symbol.toNat < 2 ^ bits

/-- The guest gets room for the vector, and its values fit. -/
def Vec.Fits {α : Type} (memory : Memory) (kind : Item)
    (fits : α → Prop) (vec : Vec α) : Prop :=
  memory kind vec.items.length = .granted ∧
    ∀ value ∈ vec.items, fits value

def Task.Fits (bits : Nat) (memory : Memory) (task : Task) : Prop :=
  task.backtraces.Fits memory .backtrace
    (Vec.Fits memory .frame (Frame.Fits bits))

/-- The guest gets room for all vectors of the dump, and the addresses fit its
`usize`. -/
def Dump.Fits (bits : Nat) (memory : Memory) (dump : Dump) : Prop :=
  dump.tasks.Fits memory .task (Task.Fits bits memory)

theorem push_eq (bytes : List UInt8) {value : Nat}
    (small : value < 2 ^ 64) :
    push bytes value = some (bytes ++ leBytes 8 value) :=
  if_pos small

/-- A loop that pushes one item after another. -/
theorem foldlM_eq {α : Type} {step : List UInt8 → α → Option (List UInt8)}
    {format : α → List UInt8}
    (pushes : ∀ bytes item, step bytes item = some (bytes ++ format item))
    (items : List α) (bytes : List UInt8) :
    items.foldlM step bytes = some (bytes ++ items.flatMap format) := by
  induction items generalizing bytes with
  | nil => simp
  | cons item items inductionHypothesis =>
      rw [List.foldlM_cons, pushes, Option.bind_eq_bind, Option.bind_some,
        inductionHypothesis, List.flatMap_cons, List.append_assoc]

theorem pushFrame_eq (bytes : List UInt8) (frame : Frame) :
    pushFrame bytes frame = some (bytes ++ frame.format) := by
  rw [pushFrame, push_eq _ frame.ip.toNat_lt]
  simp [push_eq _ frame.symbol.toNat_lt, Frame.format]

theorem pushBacktrace_eq (bytes : List UInt8) (backtrace : Vec Frame) :
    pushBacktrace bytes backtrace =
      some (bytes ++ backtrace.format Frame.format) := by
  rw [pushBacktrace, push_eq _ backtrace.length_lt]
  simp [foldlM_eq pushFrame_eq, Vec.format]

theorem pushTask_eq (bytes : List UInt8) (task : Task) :
    pushTask bytes task = some (bytes ++ task.format) := by
  rw [pushTask, push_eq _ task.id.value.toNat_lt]
  simp [push_eq _ task.backtraces.length_lt, foldlM_eq pushBacktrace_eq,
    Task.format, Vec.format]

theorem telekioEncode_eq (dump : Dump) :
    telekioEncode dump = some dump.format := by
  rw [telekioEncode, push_eq _ dump.tasks.length_lt]
  simp [foldlM_eq pushTask_eq, Dump.format, Vec.format]

/-! ## The guest inverts it -/

theorem read_of_long {bytes : List UInt8} (long : 8 ≤ bytes.length) :
    read.run bytes =
      .ok (UInt64.ofNat (ofLeBytes (bytes.take 8)), bytes.drop 8) :=
  if_pos long

theorem read_of_short {bytes : List UInt8} (short : ¬ 8 ≤ bytes.length) :
    read.run bytes = .error .panicked :=
  if_neg short

theorem read_inverts : Inverts read (fun _ => True)
    (fun value => leBytes 8 value.toNat) where
  read_format := by
    intro value rest _
    have front : (leBytes 8 value.toNat ++ rest).take 8 =
        leBytes 8 value.toNat :=
      List.take_left' (length_leBytes 8 _)
    have back : (leBytes 8 value.toNat ++ rest).drop 8 = rest :=
      List.drop_left' (length_leBytes 8 _)
    have same : ofLeBytes (leBytes 8 value.toNat) = value.toNat :=
      ofLeBytes_leBytes value.toNat_lt
    rw [read_of_long (by simp), front, back, same, UInt64.ofNat_toNat]
  format_read := by
    intro input value rest ran
    refine ⟨trivial, ?_⟩
    by_cases long : 8 ≤ input.length
    · rw [read_of_long long] at ran
      cases ran
      have eight : (input.take 8).length = 8 := List.length_take_of_le long
      have small := ofLeBytes_lt (input.take 8)
      have same := leBytes_ofLeBytes (input.take 8)
      rw [eight] at small same
      rw [UInt64.toNat_ofNat_of_lt' small, same, List.take_append_drop]
    · rw [read_of_short long] at ran
      cases ran

theorem readId_inverts : Inverts readId (fun _ => True)
    (fun id => leBytes 8 id.value.toNat) := by
  have inverts : Inverts readId (fun _ => True)
      (fun id => leBytes 8 id.value.toNat ++ []) := by
    refine read_inverts.bind (fun value _ => ?_) (fun _ _ => trivial)
    by_cases nonZero : value ≠ 0
    · rw [dif_pos nonZero]
      refine Inverts.pure.congr (fun id => ?_) (fun _ _ => rfl)
      cases id
      simp
    · rw [dif_neg nonZero]
      refine (Inverts.throw _ _).congr (fun id => ?_) (fun _ _ => rfl)
      refine iff_of_false ?_ not_false
      rintro ⟨-, same⟩
      exact nonZero (same ▸ id.nonZero)
  simpa using inverts

theorem readAddress_inverts (bits : Nat) :
    Inverts (readAddress bits)
      (fun value => True ∧ value.toNat < 2 ^ bits)
      (fun value => leBytes 8 value.toNat) :=
  read_inverts.check Fault.panicked

theorem readFrame_inverts (bits : Nat) :
    Inverts (readFrame bits) (Frame.Fits bits) Frame.format := by
  have address := readAddress_inverts bits
  have inverts : Inverts (readFrame bits) (Frame.Fits bits)
      (fun frame => leBytes 8 frame.ip.toNat ++
        (leBytes 8 frame.symbol.toNat ++ [])) := by
    refine address.bind (fun ip ipFits => ?_)
      (fun frame fits => ⟨trivial, fits.1⟩)
    refine address.bind (fun symbol symbolFits => ?_)
      (fun frame fits => ⟨trivial, fits.1.2⟩)
    refine Inverts.pure.congr (fun frame => ?_) (fun _ _ => rfl)
    constructor
    · rintro ⟨⟨-, rfl⟩, rfl⟩
      rfl
    · rintro rfl
      exact ⟨⟨⟨ipFits.2, symbolFits.2⟩, rfl⟩, rfl⟩
  exact inverts.congr (fun _ => Iff.rfl) (fun frame _ => by
    rw [Frame.format, List.append_nil])

theorem reserve_inverts (memory : Memory) (kind : Item) (count : Nat) :
    Inverts (reserve memory kind count)
      (fun _ => memory kind count = .granted) (fun _ => []) := by
  unfold reserve
  cases memory kind count with
  | granted => exact Inverts.pure.congr (by simp) (fun _ _ => rfl)
  | overflow => exact (Inverts.throw _ _).congr (by simp) (fun _ _ => rfl)
  | refused => exact (Inverts.throw _ _).congr (by simp) (fun _ _ => rfl)

theorem readVec_inverts {α : Type} {memory : Memory} {kind : Item}
    {item : Reader Fault UInt8 α}
    {fits : α → Prop} {format : α → List UInt8}
    (inverts : Inverts item fits format) :
    Inverts (readVec memory kind item) (Vec.Fits memory kind fits)
      (Vec.format format) := by
  have whole : Inverts (readVec memory kind item)
      (Vec.Fits memory kind fits)
      (fun vec => leBytes 8 (UInt64.ofNat vec.items.length).toNat ++
        (vec.items.flatMap format ++ [])) := by
    refine read_inverts.bind (fun count _ => ?_) (fun _ _ => trivial)
    have sameCount : ∀ vec : Vec α,
        UInt64.ofNat vec.items.length = count →
        vec.items.length = count.toNat := by
      rintro vec rfl
      exact (UInt64.toNat_ofNat_of_lt' vec.length_lt).symm
    refine (reserve_inverts memory kind count.toNat).after
      (fun granted => ?_)
      (fun vec fits => sameCount vec fits.2 ▸ fits.1.1)
    refine (inverts.collect count.toNat).bind
      (fun items itemsFit => ?_)
      (fun vec fits => ⟨sameCount vec fits.2, fits.1.2⟩)
    rw [dif_pos (itemsFit.1 ▸ count.toNat_lt)]
    refine Inverts.pure.congr (fun vec => ?_) (fun _ _ => rfl)
    constructor
    · rintro ⟨-, rfl⟩
      rfl
    · rintro rfl
      refine ⟨⟨⟨?_, itemsFit.2⟩, ?_⟩, rfl⟩
      · rw [itemsFit.1]
        exact granted
      · rw [itemsFit.1, UInt64.ofNat_toNat]
  exact whole.congr (fun _ => Iff.rfl) (fun vec _ => by
    rw [Vec.format, List.append_nil,
      UInt64.toNat_ofNat_of_lt' vec.length_lt])

theorem readBacktrace_inverts (bits : Nat) (memory : Memory) :
    Inverts (readBacktrace bits memory)
      (Vec.Fits memory .frame (Frame.Fits bits))
      (Vec.format Frame.format) :=
  readVec_inverts (readFrame_inverts bits)

theorem readTask_inverts (bits : Nat) (memory : Memory) :
    Inverts (readTask bits memory) (Task.Fits bits memory)
      Task.format := by
  have whole : Inverts (readTask bits memory) (Task.Fits bits memory)
      (fun task => leBytes 8 task.id.value.toNat ++
        (task.backtraces.format (Vec.format Frame.format) ++ [])) := by
    refine readId_inverts.bind (fun id _ => ?_) (fun _ _ => trivial)
    refine (readVec_inverts (readBacktrace_inverts bits memory)).bind
      (fun backtraces backtracesFit => ?_) (fun task fits => fits.1)
    refine Inverts.pure.congr (fun task => ?_) (fun _ _ => rfl)
    constructor
    · rintro ⟨⟨-, rfl⟩, rfl⟩
      rfl
    · rintro rfl
      exact ⟨⟨backtracesFit, rfl⟩, rfl⟩
  exact whole.congr (fun _ => Iff.rfl) (fun task _ => by
    rw [Task.format, List.append_nil])

/-- The bytes begin with a count for which the allocator has no memory. -/
def BeginsRefused (memory : Memory) (bytes : List UInt8) : Prop :=
  ∃ kind count rest, bytes = leBytes 8 count ++ rest ∧
    memory kind count = .refused

/-- The reader aborts at such a count only. -/
def AbortsRefused {α : Type} (memory : Memory)
    (reader : Reader Fault UInt8 α) : Prop :=
  FailsAt reader .aborted (BeginsRefused memory)

variable {memory : Memory}

theorem panicked_ne_aborted : Fault.panicked ≠ Fault.aborted := by
  decide

theorem read_abortsRefused : AbortsRefused memory read := by
  intro input ran
  by_cases long : 8 ≤ input.length
  · rw [read_of_long long] at ran
    cases ran
  · rw [read_of_short long] at ran
    cases ran

theorem readId_abortsRefused : AbortsRefused memory readId := by
  refine read_abortsRefused.bind read_inverts fun value => ?_
  by_cases nonZero : value ≠ 0
  · rw [dif_pos nonZero]
    exact FailsAt.pure _
  · rw [dif_neg nonZero]
    exact FailsAt.throw panicked_ne_aborted

theorem readAddress_abortsRefused (bits : Nat) :
    AbortsRefused memory (readAddress bits) := by
  refine read_abortsRefused.bind read_inverts fun value => ?_
  split
  · exact FailsAt.pure _
  · exact FailsAt.throw panicked_ne_aborted

theorem readFrame_abortsRefused (bits : Nat) :
    AbortsRefused memory (readFrame bits) := by
  have address := @readAddress_abortsRefused memory bits
  have inverts := readAddress_inverts bits
  refine address.bind inverts fun ip => ?_
  exact address.bind inverts fun symbol => FailsAt.pure _

theorem readVec_abortsRefused {α : Type} {kind : Item}
    {item : Reader Fault UInt8 α} {fits : α → Prop}
    {format : α → List UInt8} (inverts : Inverts item fits format)
    (aborts : AbortsRefused memory item) :
    AbortsRefused memory (readVec memory kind item) := by
  intro input ran
  rcases run_bind_eq_error ran with
    failed | ⟨count, middle, readCount, failed⟩
  · exact read_abortsRefused input failed
  · obtain ⟨-, rfl⟩ := read_inverts.format_read _ _ _ readCount
    have later : FailsAt
        (collect item count.toNat >>= fun items =>
          if length_lt : items.length < 2 ^ 64 then
            (pure ⟨items, length_lt⟩ : Reader Fault UInt8 (Vec α))
          else throw .panicked)
        .aborted (BeginsRefused memory) := by
      refine (aborts.collect inverts count.toNat).bind
        (inverts.collect count.toNat) fun items => ?_
      split
      · exact FailsAt.pure _
      · exact FailsAt.throw panicked_ne_aborted
    cases reserved : memory kind count.toNat with
    | refused =>
        exact ⟨[], _, rfl, kind, count.toNat, middle, rfl, reserved⟩
    | granted =>
        rw [reserve, reserved] at failed
        obtain ⟨front, rest, rfl, found⟩ := later middle failed
        exact ⟨leBytes 8 count.toNat ++ front, rest,
          by rw [List.append_assoc], found⟩
    | overflow =>
        rw [reserve, reserved] at failed
        cases failed

theorem readTask_abortsRefused (bits : Nat) :
    AbortsRefused memory (readTask bits memory) := by
  have inverts := readBacktrace_inverts bits memory
  have backtrace : AbortsRefused memory (readBacktrace bits memory) :=
    readVec_abortsRefused (readFrame_inverts bits)
      (readFrame_abortsRefused bits)
  refine readId_abortsRefused.bind readId_inverts fun id => ?_
  exact (readVec_abortsRefused inverts backtrace).bind
    (readVec_inverts inverts) fun backtraces => FailsAt.pure _

/-- What is decoded has been read to its end. -/
theorem decode_eq_ok_iff {bits : Nat} {bytes : List UInt8} {dump : Dump} :
    decode bits memory bytes = .ok dump ↔
      (readVec memory .task (readTask bits memory)).run bytes =
        .ok (dump.tasks, []) := by
  rw [decode]
  rcases (readVec memory .task (readTask bits memory)).run bytes with
    fault | ⟨tasks, _ | ⟨byte, rest⟩⟩
  · exact iff_of_false nofun nofun
  · cases dump
    simp
  · exact iff_of_false nofun nofun

theorem run_of_aborted {bits : Nat} {bytes : List UInt8}
    (aborted : decode bits memory bytes = .error .aborted) :
    (readVec memory .task (readTask bits memory)).run bytes =
      .error .aborted := by
  rw [decode] at aborted
  rcases result : (readVec memory .task (readTask bits memory)).run bytes
    with fault | ⟨tasks, _ | ⟨byte, rest⟩⟩
  · rw [result] at aborted
    cases aborted
    rfl
  · rw [result] at aborted
    cases aborted
  · rw [result] at aborted
    cases aborted

/-- Encoding and decoding are inverse on the dumps for which the guest has
room. What is no encoding of such a dump is refused by a panic, or aborts the
guest at a count for which the allocator has no memory. -/
structure RoundTrips (bits : Nat) (memory : Memory) : Prop where
  decodes : ∀ dump : Dump, dump.Fits bits memory →
    ∃ bytes, telekioEncode dump = some bytes ∧
      decode bits memory bytes = .ok dump
  reencodes : ∀ bytes dump, decode bits memory bytes = .ok dump →
    dump.Fits bits memory ∧ telekioEncode dump = some bytes
  aborts : ∀ bytes, decode bits memory bytes = .error .aborted →
    ∃ front rest, bytes = front ++ rest ∧ BeginsRefused memory rest

theorem dump_roundTrips (bits : Nat) (memory : Memory) :
    RoundTrips bits memory := by
  have inverts : Inverts (readVec memory .task (readTask bits memory))
      (Vec.Fits memory .task (Task.Fits bits memory)) _ :=
    readVec_inverts (readTask_inverts bits memory)
  constructor
  · intro dump fits
    refine ⟨dump.format, telekioEncode_eq dump, ?_⟩
    rw [decode_eq_ok_iff]
    have read := inverts.read_format dump.tasks [] fits
    rwa [List.append_nil] at read
  · intro bytes dump decoded
    obtain ⟨fits, same⟩ :=
      inverts.format_read _ _ _ (decode_eq_ok_iff.mp decoded)
    rw [List.append_nil] at same
    rw [telekioEncode_eq, same]
    exact ⟨fits, rfl⟩
  · intro bytes aborted
    exact readVec_abortsRefused (readTask_inverts bits memory)
      (readTask_abortsRefused bits) bytes (run_of_aborted aborted)

/-- The sizes of the items on a 64-bit guest. -/
def Item.size : Item → Nat
  | .task => 56
  | .backtrace => 24
  | .frame => 16

/-- An allocator that refuses what is larger than the address space of a
process. -/
def addressSpace : Memory := fun item count =>
  if 2 ^ 63 ≤ count * item.size then .overflow
  else if 2 ^ 47 ≤ count * item.size then .refused
  else .granted

/-- Eight bytes that promise `2 ^ 50` tasks abort the guest. -/
theorem decode_aborts :
    ¬ ∀ bytes, (∃ dump, decode 64 addressSpace bytes = .ok dump) ∨
      decode 64 addressSpace bytes = .error .panicked := by
  intro claimed
  rcases claimed [0, 0, 0, 0, 0, 0, 4, 0] with ⟨dump, decoded⟩ | panicked
  · cases decoded
  · cases panicked

end Telekio.Dumping
