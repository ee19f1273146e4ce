import Telekio.Command.Arguments
import Telekio.Dumping.Format
import Telekio.Dumping.Tree

/-!
# Foreign traces

`display`, `symbols` and `ForeignSymbol` of `guest/runtime/dump.rs`. What the
`backtrace` crate says of an address is a parameter, and so is the hasher.
-/

namespace Telekio.Dumping.Foreign

open Telekio.Command Telekio.Unfolding

/-- What is said of a symbol at an address. -/
structure Resolved where
  name : Option (List UInt8)
  addr : Option UInt64
  filename : Option OsString
  lineno : Option UInt32
  colno : Option UInt32
deriving DecidableEq

structure Resolver where
  resolve : UInt64 → List Resolved
  demangle : List UInt8 → String

variable {demangle : List UInt8 → String}

structure BacktraceSymbol (demangle : List UInt8 → String)
    extends Resolved where
  nameDemangled : Option String
  demangled : nameDemangled = name.map demangle

theorem BacktraceSymbol.eq_iff {first second : BacktraceSymbol demangle} :
    first = second ↔ first.toResolved = second.toResolved := by
  constructor
  · rintro rfl
    rfl
  · obtain ⟨resolved, _, rfl⟩ := first
    obtain ⟨_, _, rfl⟩ := second
    rintro rfl
    rfl

instance : DecidableEq (BacktraceSymbol demangle) := fun _ _ =>
  decidable_of_iff _ BacktraceSymbol.eq_iff.symm

structure ForeignSymbol (demangle : List UInt8 → String) where
  symbol : BacktraceSymbol demangle
  parentHash : UInt64

namespace ForeignSymbol

/-- The name of a symbol is compared, not how it is shown. -/
def eq (self other : ForeignSymbol demangle) : Bool :=
  self.parentHash = other.parentHash &&
    self.symbol.name = other.symbol.name &&
    self.symbol.addr = other.symbol.addr &&
    self.symbol.filename = other.symbol.filename &&
    self.symbol.lineno = other.symbol.lineno &&
    self.symbol.colno = other.symbol.colno

theorem eq_iff {self other : ForeignSymbol demangle} :
    self.eq other = true ↔ self = other := by
  constructor
  · intro same
    obtain ⟨⟨⟨name, addr, filename, lineno, colno⟩, _, rfl⟩, hash⟩ := self
    obtain ⟨⟨⟨_, _, _, _, _⟩, _, rfl⟩, _⟩ := other
    simp only [eq, Bool.and_eq_true, decide_eq_true_eq] at same
    obtain ⟨⟨⟨⟨⟨rfl, rfl⟩, rfl⟩, rfl⟩, rfl⟩, rfl⟩ := same
    rfl
  · rintro rfl
    simp [eq]

instance : DecidableEq (ForeignSymbol demangle) := fun _ _ =>
  decidable_of_iff _ eq_iff

end ForeignSymbol

/-- What is written to a hasher. -/
inductive Hashed where
  | name (name : Option (List UInt8))
  | addr (addr : Option UInt64)
  | filename (filename : Option OsString)
  | number (number : Option UInt32)
  | hash (hash : UInt64)

structure Hasher where
  State : Type
  new : State
  write : State → Hashed → State
  finish : State → UInt64

def ForeignSymbol.hash (self : ForeignSymbol demangle) (hasher : Hasher)
    (state : hasher.State) : hasher.State :=
  [.name self.symbol.name, .addr self.symbol.addr,
    .filename self.symbol.filename, .number self.symbol.lineno,
    .number self.symbol.colno, .hash self.parentHash].foldl
      hasher.write state

/-- The parts before and after the last `::`. -/
def rsplitOnce : List Char → Option (List Char × List Char)
  | [] => none
  | first :: rest =>
      match rsplitOnce rest with
      | some (before, after) => some (first :: before, after)
      | none =>
          if first = ':' ∧ rest.head? = some ':' then
            some ([], rest.tail)
          else
            none

def ForeignSymbol.fmt (self : ForeignSymbol demangle) : String :=
  (match self.symbol.nameDemangled with
  | some name =>
      match rsplitOnce name.toList with
      | some (name, _) => String.ofList name
      | none => name
  | none => "") ++
  (match self.symbol.filename with
  | some filename =>
      " at " ++ filename.toStringLossy ++
        (match self.symbol.lineno with
        | some line =>
            ":" ++ toString line ++
              (match self.symbol.colno with
              | some column => ":" ++ toString column
              | none => "")
        | none => "")
  | none => "")

variable (resolver : Resolver) (hasher : Hasher)

def symbols (frame : Frame) : List (BacktraceSymbol resolver.demangle) :=
  (resolver.resolve frame.ip).map fun symbol =>
    { symbol with
      nameDemangled := symbol.name.map resolver.demangle
      demangled := rfl }

/-- The inner loop of `display`: the state of the hasher, and the trace. -/
def pushSymbol (traced : hasher.State × List (ForeignSymbol demangle))
    (symbol : BacktraceSymbol demangle) :
    hasher.State × List (ForeignSymbol demangle) :=
  let symbol := ⟨symbol, hasher.finish traced.1⟩
  (symbol.hash hasher traced.1, traced.2 ++ [symbol])

def traceOf (backtrace : List Frame) :
    List (ForeignSymbol resolver.demangle) :=
  (backtrace.reverse.foldl (fun traced frame =>
    (symbols resolver frame).reverse.foldl (pushSymbol hasher) traced)
      (hasher.new, [])).2

def display (arrangement : Arrangement (ForeignSymbol resolver.demangle))
    (fuel : Nat) (backtraces : List (List Frame)) : Option String :=
  format arrangement ForeignSymbol.fmt fuel
    (backtraces.map (traceOf resolver hasher))

/-! ## The symbols of a trace -/

/-- The symbols of a backtrace, the outermost caller first. -/
def callers (backtrace : List Frame) :
    List (BacktraceSymbol resolver.demangle) :=
  backtrace.reverse.flatMap fun frame => (symbols resolver frame).reverse

/-- Symbols with the hashes of what is before them. -/
def stamp (symbols : List (BacktraceSymbol demangle)) :
    List (ForeignSymbol demangle) :=
  (symbols.foldl (pushSymbol hasher) (hasher.new, [])).2

/-- The hash after some symbols. -/
def hashOf (symbols : List (BacktraceSymbol demangle)) : UInt64 :=
  hasher.finish (symbols.foldl (pushSymbol hasher) (hasher.new, [])).1

/-- Two parts of backtraces before a symbol have one hash only if they are
the same. -/
def Collisionless (backtraces : List (List Frame)) : Prop :=
  ∀ first ∈ backtraces, ∀ second ∈ backtraces,
    ∀ i < (callers resolver first).length,
      ∀ j < (callers resolver second).length,
        hashOf hasher ((callers resolver first).take i) =
            hashOf hasher ((callers resolver second).take j) →
          (callers resolver first).take i = (callers resolver second).take j

variable {resolver hasher} {backtraces : List (List Frame)}
variable {raw rest : List (BacktraceSymbol demangle)}

theorem traceOf_eq_stamp (backtrace : List Frame) :
    traceOf resolver hasher backtrace =
      stamp hasher (callers resolver backtrace) := by
  rw [traceOf, stamp, callers, List.foldl_flatMap]

theorem stamp_concat (symbol : BacktraceSymbol demangle) :
    stamp hasher (raw ++ [symbol]) =
      stamp hasher raw ++ [⟨symbol, hashOf hasher raw⟩] := by
  rw [stamp, List.foldl_append]
  rfl

theorem map_symbol_stamp :
    (stamp hasher raw).map ForeignSymbol.symbol = raw := by
  induction raw using List.reverseRecOn with
  | nil => rfl
  | append_singleton raw symbol ih =>
      rw [stamp_concat, List.map_append, ih]
      rfl

theorem stamp_prefix : stamp hasher raw <+: stamp hasher (raw ++ rest) := by
  induction rest using List.reverseRecOn with
  | nil => rw [List.append_nil]
  | append_singleton rest symbol ih =>
      rw [← List.append_assoc, stamp_concat]
      exact ih.trans (List.prefix_append _ _)

theorem length_stamp : (stamp hasher raw).length = raw.length := by
  rw [← List.length_map ForeignSymbol.symbol, map_symbol_stamp]

/-- The beginning of a trace is the trace of a beginning. -/
theorem eq_stamp_of_begins {path : List (ForeignSymbol demangle)}
    (begins : path <+: stamp hasher raw) :
    path = stamp hasher (path.map ForeignSymbol.symbol) := by
  have early : path.map ForeignSymbol.symbol <+: raw := by
    have mapped := begins.map ForeignSymbol.symbol
    rwa [map_symbol_stamp] at mapped
  obtain ⟨rest, rfl⟩ := early
  refine List.IsPrefix.eq_of_length (List.prefix_of_prefix_length_le begins
    stamp_prefix ?_) ?_
  · rw [length_stamp, List.length_map]
  · rw [length_stamp, List.length_map]

/-- A symbol of a trace has the hash of the symbols before it. -/
theorem parentHash_eq {before after : List (ForeignSymbol demangle)}
    {symbol : ForeignSymbol demangle}
    (same : stamp hasher raw = before ++ symbol :: after) :
    symbol.parentHash =
      hashOf hasher (before.map ForeignSymbol.symbol) := by
  have begins : before ++ [symbol] <+: stamp hasher raw :=
    ⟨after, by rw [same]; simp⟩
  have stamped := eq_stamp_of_begins begins
  rw [List.map_append, List.map_singleton, stamp_concat] at stamped
  have last := congrArg List.getLast? stamped
  rw [List.getLast?_concat, List.getLast?_concat] at last
  exact congrArg ForeignSymbol.parentHash (Option.some.inj last)

theorem take_of_stamp {before after : List (ForeignSymbol demangle)}
    {symbol : ForeignSymbol demangle}
    (same : stamp hasher raw = before ++ symbol :: after) :
    before.length < raw.length ∧
      raw.take before.length = before.map ForeignSymbol.symbol := by
  have parts : raw = before.map ForeignSymbol.symbol ++
      symbol.symbol :: after.map ForeignSymbol.symbol := by
    rw [← @map_symbol_stamp _ hasher raw, same, List.map_append,
      List.map_cons]
  constructor
  · rw [← @length_stamp _ hasher raw, same, List.length_append,
      List.length_cons]
    omega
  · rw [parts]
    exact List.take_left' (List.length_map _)

/-- Without collisions, a symbol with its hash determines its callers. -/
theorem separated_of_collisionless
    (distinct : Collisionless resolver hasher backtraces) :
    Separated (backtraces.map (traceOf resolver hasher)) := by
  intro first firstMember second secondMember before symbol after front rest
    firstSame secondSame
  obtain ⟨one, oneMember, rfl⟩ := List.mem_map.mp firstMember
  obtain ⟨other, otherMember, rfl⟩ := List.mem_map.mp secondMember
  rw [traceOf_eq_stamp] at firstSame secondSame
  obtain ⟨short, taken⟩ := take_of_stamp firstSame
  obtain ⟨brief, begun⟩ := take_of_stamp secondSame
  have hashes : hashOf hasher (before.map ForeignSymbol.symbol) =
      hashOf hasher (front.map ForeignSymbol.symbol) := by
    rw [← parentHash_eq firstSame, ← parentHash_eq secondSame]
  have same : before.map ForeignSymbol.symbol =
      front.map ForeignSymbol.symbol := by
    have equal := distinct one oneMember other otherMember before.length short
      front.length brief
    rw [taken, begun] at equal
    exact equal hashes
  rw [eq_stamp_of_begins ⟨symbol :: after, firstSame.symm⟩, same,
    ← eq_stamp_of_begins ⟨symbol :: rest, secondSame.symm⟩]

/-- If the hashes do not collide, the printer ends. It prints trees whose
paths are the beginnings of the traces, and no two paths of them have the same
symbols. -/
theorem display_paths (resolver : Resolver) (hasher : Hasher)
    (arrangement : Arrangement (ForeignSymbol resolver.demangle))
    (backtraces : List (List Frame))
    (distinct : Collisionless resolver hasher backtraces) :
    ∃ (trees : List (RoseTree (ForeignSymbol resolver.demangle)))
      (enough : Nat),
      (∀ fuel, enough ≤ fuel →
        display resolver hasher arrangement fuel backtraces = some
          (String.join (trees.map (render ForeignSymbol.fmt true " ")))) ∧
      ((pathsOf trees).map (·.map ForeignSymbol.symbol)).Nodup ∧
      ∀ path, path ∈ pathsOf trees ↔
        path ≠ [] ∧ ∃ backtrace ∈ backtraces,
          path <+: traceOf resolver hasher backtrace := by
  obtain ⟨trees, enough, prints, once, paths⟩ := format_of_separated
    arrangement ForeignSymbol.fmt (separated_of_collisionless distinct)
  have mem_iff : ∀ path, path ∈ pathsOf trees ↔
      path ≠ [] ∧ ∃ backtrace ∈ backtraces,
        path <+: traceOf resolver hasher backtrace := by
    intro path
    rw [paths]
    simp only [List.mem_map, exists_exists_and_eq_and]
  refine ⟨trees, enough, prints, ?_, mem_iff⟩
  refine once.map_on ?_
  intro first firstMember second secondMember same
  obtain ⟨-, one, -, firstBegins⟩ := (mem_iff first).mp firstMember
  obtain ⟨-, other, -, secondBegins⟩ := (mem_iff second).mp secondMember
  rw [traceOf_eq_stamp] at firstBegins secondBegins
  rw [eq_stamp_of_begins firstBegins, same,
    ← eq_stamp_of_begins secondBegins]

def namedSymbol (name : String) : Resolved where
  name := some (name.toList.map Char.toUInt8)
  addr := none
  filename := none
  lineno := none
  colno := none

/-- One function, and another one that is inlined in a third. -/
def recursiveResolver : Resolver where
  resolve := fun ip =>
    if ip = 1 then [namedSymbol "run"]
    else [namedSymbol "wait", namedSymbol "poll"]
  demangle := fun name => String.ofList (name.map fun byte =>
    Char.ofNat byte.toNat)

def polynomialHasher : Hasher where
  State := UInt64
  new := 7
  write := fun state hashed =>
    match hashed with
    | .name name =>
        ((name.getD []).foldl (fun state byte => 31 * state + byte.toUInt64)
          state)
    | .addr addr => 31 * state + addr.getD 0
    | .filename _ => 31 * state
    | .number number => 31 * state + (number.getD 0).toUInt64
    | .hash hash => 31 * state + hash
  finish := id

def inOrder (T : Type) : Arrangement T where
  order := fun _ items => items
  perm := fun _ _ => .refl _

/-- The function calls itself once, and what is inlined at both depths. -/
def recursiveBacktraces : List (List Frame) :=
  [[⟨2, 0⟩, ⟨1, 0⟩, ⟨1, 0⟩], [], [⟨2, 0⟩, ⟨1, 0⟩], [⟨1, 0⟩]]

theorem display_paths_recursive :
    ∃ (trees : List (RoseTree (ForeignSymbol recursiveResolver.demangle)))
      (enough : Nat), ∀ fuel, enough ≤ fuel →
      display recursiveResolver polynomialHasher (inOrder _) fuel
        recursiveBacktraces = some
          (String.join (trees.map (render ForeignSymbol.fmt true " "))) := by
  obtain ⟨trees, enough, prints, -⟩ := display_paths recursiveResolver
    polynomialHasher (inOrder _) recursiveBacktraces
    (by unfold Collisionless; decide +kernel)
  exact ⟨trees, enough, prints⟩

example : display recursiveResolver polynomialHasher (inOrder _) 5
    recursiveBacktraces = some ("╼\u00a0run\n" ++
      "\u00a0\u00a0├╼\u00a0poll\n" ++
      "\u00a0\u00a0│\u00a0\u00a0└╼\u00a0wait\n" ++
      "\u00a0\u00a0└╼\u00a0run\n" ++
      "\u00a0\u00a0\u00a0\u00a0\u00a0└╼\u00a0poll\n" ++
      "\u00a0\u00a0\u00a0\u00a0\u00a0\u00a0\u00a0\u00a0└╼\u00a0wait") := by
  decide +kernel

end Telekio.Dumping.Foreign
