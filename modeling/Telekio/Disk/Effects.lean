import Telekio.Disk.Files

/-!
# Programs over a file system

Programs that read and change files, where a change can fail and leave part of
its work behind. Two kinds of triples: `Triple` is about every run, with a
condition for the files that a failed run leaves, and `Succeeds` is about runs
in which no change fails.
-/

namespace Telekio.Disk

inductive Error where
  | io
  | panicked
  | message (text : String)
deriving DecidableEq, Repr

/-- What a change that fails leaves: part of the contents of a file that is
written, and the paths that are gone of a directory that is removed. -/
structure Fault where
  contents : Option ByteArray
  removed : List Path

/-- The files, and what each of the following changes meets: a fault, or
nothing. -/
structure World where
  files : Files
  faults : List (Option Fault)

abbrev Effect :=
  EStateM Error World

namespace Effect

def query {α : Type} (ask : Files → α) : Effect α :=
  fun world => .ok (ask world.files) world

/-- A change; where it is impossible it is an error that changes nothing. -/
def change (error : Error) (fails : Fault → Files → Files)
    (works : Files → Option Files) : Effect Unit :=
  fun world =>
    match world.faults with
    | some fault :: faults => .error error ⟨fails fault world.files, faults⟩
    | faults =>
        match works world.files with
        | some files => .ok () ⟨files, faults.tail⟩
        | none => .error error ⟨world.files, faults.tail⟩

def okOr {α : Type} (found : Option α) (error : Error) : Effect α :=
  match found with
  | some value => pure value
  | none => throw error

def readToString (path : Path) : Effect String := do
  let found ← query fun files => readText files path
  okOr found .io

def mkdir (path : Path) : Effect Unit :=
  change .io (fun _ files => files) fun files =>
    if vacant files path then some (put path .directory files) else none

def write (path : Path) (contents : ByteArray) : Effect Unit :=
  change .io
    (fun fault files =>
      match fault.contents with
      | some left =>
          if writable files path then put path (.file left) files else files
      | none => files)
    fun files =>
      if writable files path then some (put path (.file contents) files)
      else none

/-- A removal that fails leaves the directory, and some of what is in it. -/
def removeDirAll (path : Path) : Effect Unit :=
  change .io
    (fun fault files => files.filter fun entry =>
      ¬ (path <+: entry.1 ∧ entry.1 ≠ path ∧ entry.1 ∈ fault.removed))
    fun files =>
      if path ≠ [] ∧ isDirectory files path then some (removeTree path files)
      else none

def ensureDirectory (path : Path) : Effect Unit := do
  let present ← query fun files => isDirectory files path
  unless present do
    mkdir path

/-- The directories from a parent on that are not there yet. -/
def createDirectories (parent : Path) : List String → Effect Unit
  | [] => pure ()
  | name :: rest => do
      ensureDirectory (parent ++ [name])
      createDirectories (parent ++ [name]) rest

def createDirAll (path : Path) : Effect Unit :=
  createDirectories [] path

variable {α β : Type} {program : Effect α} {next : α → Effect β}
variable {world left last : World} {value : α} {result : β} {error : Error}

theorem bind_of_ok (ran : program world = .ok value left) :
    (program >>= next) world = next value left := by
  simp only [Bind.bind, EStateM.bind, ran]

theorem bind_of_error (ran : program world = .error error left) :
    (program >>= next) world = .error error left := by
  simp only [Bind.bind, EStateM.bind, ran]

theorem bind_eq_ok : (program >>= next) world = .ok result last ↔
    ∃ value left, program world = .ok value left ∧
      next value left = .ok result last := by
  cases ran : program world with
  | ok value left => simp [bind_of_ok ran]
  | error error left => simp [bind_of_error ran]

theorem query_bind {ask : Files → α} :
    (query ask >>= next) world = next (ask world.files) world :=
  rfl

theorem okOr_eq_ok {found : Option α} :
    okOr found error world = .ok value left ↔
      found = some value ∧ left = world := by
  cases found with
  | none =>
      constructor
      · intro returned
        cases returned
      · rintro ⟨⟨⟩, -⟩
  | some other =>
      simp [okOr, Pure.pure, EStateM.pure, eq_comm]

theorem readToString_eq_ok {path : Path} {text : String} :
    readToString path world = .ok text left ↔
      readText world.files path = some text ∧ left = world := by
  rw [readToString, query_bind, okOr_eq_ok]

end Effect

variable {α β : Type}

/-- From files with `before`, a run that returns leaves files with `after` of
its value, and one that fails leaves files with `failed`. -/
def Triple (before : Files → Prop) (program : Effect α)
    (after : α → Files → Prop) (failed : Files → Prop) : Prop :=
  ∀ world, before world.files →
    match program world with
    | .ok value left => after value left.files
    | .error _ left => failed left.files

/-- Whatever happens, the condition stays. -/
def Preserves (condition : Files → Prop) (program : Effect α) : Prop :=
  Triple condition program (fun _ => condition) condition

namespace Triple

variable {before failed : Files → Prop} {middle : α → Files → Prop}
variable {after : β → Files → Prop}

theorem returned {program : Effect α} {world left : World} {value : α}
    (triple : Triple before program middle failed)
    (ran : program world = .ok value left) (started : before world.files) :
    middle value left.files := by
  have after := triple world started
  rw [ran] at after
  exact after

theorem stopped {program : Effect α} {world left : World} {error : Error}
    (triple : Triple before program middle failed)
    (ran : program world = .error error left)
    (started : before world.files) : failed left.files := by
  have after := triple world started
  rw [ran] at after
  exact after

theorem bind {program : Effect α} {next : α → Effect β}
    (first : Triple before program middle failed)
    (second : ∀ value, Triple (middle value) (next value) after failed) :
    Triple before (program >>= next) after failed := by
  intro world holds
  have firstRun := first world holds
  simp only [Bind.bind, EStateM.bind]
  cases run : program world with
  | ok value left =>
      rw [run] at firstRun
      exact second value left firstRun
  | error error left =>
      rw [run] at firstRun
      exact firstRun

theorem pure {value : α} (holds : ∀ files, before files → middle value files) :
    Triple before (Pure.pure value) middle failed :=
  fun world started => holds world.files started

theorem throw {error : Error} (holds : ∀ files, before files → failed files) :
    Triple before (throw error : Effect α) middle failed :=
  fun world started => holds world.files started

theorem consequence {program : Effect α}
    {weaker weakerFailed : Files → Prop} {stronger : α → Files → Prop}
    (triple : Triple before program middle failed)
    (start : ∀ files, weaker files → before files)
    (returned : ∀ value files, middle value files → stronger value files)
    (failing : ∀ files, failed files → weakerFailed files) :
    Triple weaker program stronger weakerFailed := by
  intro world holds
  have run := triple world (start world.files holds)
  revert run
  split
  · exact returned _ _
  · exact failing _

theorem trivial {program : Effect α} :
    Triple before program (fun _ _ => True) (fun _ => True) := by
  intro world _
  split <;> exact True.intro

theorem and {program : Effect α} {otherBefore otherFailed : Files → Prop}
    {otherAfter : α → Files → Prop}
    (triple : Triple before program middle failed)
    (other : Triple otherBefore program otherAfter otherFailed) :
    Triple (fun files => before files ∧ otherBefore files) program
      (fun value files => middle value files ∧ otherAfter value files)
      (fun files => failed files ∧ otherFailed files) := by
  intro world ⟨started, otherStarted⟩
  have first := triple world started
  have second := other world otherStarted
  revert first second
  split
  · exact And.intro
  · exact And.intro

theorem query {ask : Files → α}
    (holds : ∀ files, before files → middle (ask files) files) :
    Triple before (Effect.query ask) middle failed :=
  fun world started => holds world.files started

theorem okOr {found : Option α} {error : Error}
    (present : ∀ value files, found = some value → before files →
      middle value files)
    (absent : ∀ files, found = none → before files → failed files) :
    Triple before (Effect.okOr found error) middle failed := by
  intro world started
  unfold Effect.okOr
  cases found with
  | some value => exact present value world.files rfl started
  | none => exact absent world.files rfl started

theorem change {error : Error} {fails : Fault → Files → Files}
    {works : Files → Option Files} {finished : Files → Prop}
    (failing : ∀ fault files, before files → failed (fails fault files))
    (working : ∀ files changed, before files → works files = some changed →
      finished changed)
    (impossible : ∀ files, before files → works files = none →
      failed files) :
    Triple before (Effect.change error fails works)
      (fun _ => finished) failed := by
  intro world started
  unfold Effect.change
  split
  · rename_i made
    split at made
    · cases made
    · split at made
      · rename_i changed worked
        cases made
        exact working _ _ started worked
      · cases made
  · rename_i made
    split at made
    · cases made
      exact failing _ _ started
    · split at made
      · cases made
      · rename_i worked
        cases made
        exact impossible _ started worked

end Triple

/-- From files with `before`, a run in which no change meets a fault returns,
and leaves files with `after` of its value. -/
def Succeeds (before : Files → Prop) (program : Effect α)
    (after : α → Files → Prop) : Prop :=
  ∀ files, before files → ∃ value left,
    program ⟨files, []⟩ = .ok value ⟨left, []⟩ ∧ after value left

namespace Succeeds

variable {before : Files → Prop} {middle : α → Files → Prop}
variable {after : β → Files → Prop}

theorem bind {program : Effect α} {next : α → Effect β}
    (first : Succeeds before program middle)
    (second : ∀ value, Succeeds (middle value) (next value) after) :
    Succeeds before (program >>= next) after := by
  intro files holds
  obtain ⟨value, left, run, reached⟩ := first files holds
  obtain ⟨result, last, nextRun, done⟩ := second value left reached
  refine ⟨result, last, ?_, done⟩
  simp only [Bind.bind, EStateM.bind, run, nextRun]

theorem pure {value : α} (holds : ∀ files, before files → middle value files) :
    Succeeds before (Pure.pure value) middle :=
  fun files started => ⟨value, files, rfl, holds files started⟩

theorem consequence {program : Effect α} {weaker : Files → Prop}
    {stronger : α → Files → Prop} (run : Succeeds before program middle)
    (start : ∀ files, weaker files → before files)
    (returned : ∀ value files, middle value files → stronger value files) :
    Succeeds weaker program stronger := by
  intro files holds
  obtain ⟨value, left, ran, reached⟩ := run files (start files holds)
  exact ⟨value, left, ran, returned value left reached⟩

theorem change {error : Error} {fails : Fault → Files → Files}
    {works : Files → Option Files} {finished : Files → Prop}
    (working : ∀ files, before files → ∃ changed,
      works files = some changed ∧ finished changed) :
    Succeeds before (Effect.change error fails works)
      (fun _ => finished) := by
  intro files started
  obtain ⟨changed, worked, done⟩ := working files started
  refine ⟨(), changed, ?_, done⟩
  simp [Effect.change, worked]

/-- A run without faults that returns has done what a triple says. -/
theorem of_triple {program : Effect α} {failed : Files → Prop}
    {more : α → Files → Prop} (run : Succeeds before program middle)
    (triple : Triple before program more failed) :
    Succeeds before program
      (fun value files => middle value files ∧ more value files) := by
  intro files started
  obtain ⟨value, left, ran, reached⟩ := run files started
  have always := triple ⟨files, []⟩ started
  rw [ran] at always
  exact ⟨value, left, ran, reached, always⟩

/-- A condition that the program preserves may be added. -/
theorem frame {program : Effect α} {condition : Files → Prop}
    (run : Succeeds before program middle)
    (preserves : Preserves condition program) :
    Succeeds (fun files => before files ∧ condition files) program
      (fun value files => middle value files ∧ condition files) :=
  (run.consequence (fun _ => And.left) fun _ _ => id).of_triple
    (preserves.consequence (fun _ => And.right) (fun _ _ => id) fun _ => id)

end Succeeds

end Telekio.Disk
