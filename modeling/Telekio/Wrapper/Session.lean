import Mathlib.Data.List.DropRight
import Telekio.Command.Alias
import Telekio.Command.Status
import Telekio.Journal.Program
import Telekio.Patching.Project

/-!
# Commands of Cargo

`metadata`, `manifest`, `selected_packages`, `metadata_options` and `status`
of `telekio/src/cargo.rs`. Cargo is a parameter: what it answers depends on
the files and on a state of its own, and it may change both. Every command is
written down with its answer, and every access to the files with the files
before and after it.
-/

namespace Telekio.Wrapper

open Telekio.Command
open Telekio.Command.OsString
open Telekio.Disk
open Telekio.Journal
open Telekio.Patching

/-- How a process ends; there is no code after a signal. -/
structure ExitStatus where
  code : Option Int
deriving DecidableEq

def ExitStatus.success (status : ExitStatus) : Bool :=
  status.code = some 0

/-- What a command prints: its output as a text if it is one, what `serde_json`
reads of it, and its errors as they are shown. -/
structure Output where
  status : ExitStatus
  text : Option String
  json : Option Json
  stderr : String

/-- Cargo, and what the system says of paths. There is no answer where the
process cannot be started. -/
structure Machine (σ : Type) where
  status : List OsString → Files × σ → Option ExitStatus × (Files × σ)
  output : List OsString → Files × σ → Option Output × (Files × σ)
  -- where a path leads
  pathOf : String → Path
  tempDir : Path

structure State (σ : Type) where
  world : World
  system : σ

/-- What is written down: commands whose output is captured, commands that
have the terminal, texts that are printed, and what the wrapper itself reads
and changes of the files. -/
inductive Entry where
  | output (arguments : List OsString) (answer : Option Output)
  | status (arguments : List OsString) (answer : Option ExitStatus)
  | print (text : String)
  | disk (before after : Files)

/-- An error that is returned, or an exit of the process. -/
inductive Stop where
  | error (error : Error)
  | exit (code : Int)
deriving DecidableEq

abbrev Session (σ α : Type) :=
  Journal.Program Stop (State σ) Entry α

variable {σ α : Type}

/-- How a program over the files ends, with the files before and after it. -/
structure Access (α : Type) where
  result : Except Error α
  before : Files
  after : Files

def access (program : Effect α) (state : State σ) : Access α × State σ :=
  match program state.world with
  | .ok value world =>
      (⟨.ok value, state.world.files, world.files⟩,
        { state with world := world })
  | .error error world =>
      (⟨.error error, state.world.files, world.files⟩,
        { state with world := world })

/-- A program over the files. -/
def onDisk (program : Effect α) : Session σ α := do
  let done ← perform (access program) fun done =>
    .disk done.before done.after
  match done.result with
  | .ok value => pure value
  | .error error => throw (.error error)

def query (ask : Files → α) : Session σ α :=
  onDisk (Effect.query ask)

def fail (text : String) : Session σ α :=
  throw (.error (.message text))

def orFail (found : Option α) (text : String) : Session σ α :=
  match found with
  | some value => pure value
  | none => fail text

def ofExcept (result : Except String α) : Session σ α :=
  match result with
  | .ok value => pure value
  | .error text => fail text

/-- Cargo runs, and may change the files and its own state. -/
def ask (answer : Files × σ → α × (Files × σ)) (state : State σ) :
    α × State σ :=
  let done := answer (state.world.files, state.system)
  (done.1, ⟨{ state.world with files := done.2.1 }, done.2.2⟩)

/-- `Command::output`. -/
def capture (machine : Machine σ) (arguments : List OsString) :
    Session σ Output := do
  let answer ← perform (ask (machine.output arguments)) (.output arguments)
  match answer with
  | some output => pure output
  | none => throw (.error .io)

/-- `Command::status`. -/
def spawn (machine : Machine σ) (arguments : List OsString) :
    Session σ ExitStatus := do
  let answer ← perform (ask (machine.status arguments)) (.status arguments)
  match answer with
  | some status => pure status
  | none => throw (.error .io)

def trim (text : String) : String :=
  String.ofList ((text.toList.dropWhile isWhitespace).rdropWhile isWhitespace)

def osPath (path : Path) : OsString :=
  ofString (display path)

def option (arguments : List OsString) (names : List String) :
    Option OsString :=
  (optionValues names arguments).head?

/-- `Path::new(path).join("Cargo.toml")`. -/
def joinManifest (path : OsString) : OsString :=
  let file := (ofString "Cargo.toml").units
  if path.units = [] then ⟨file⟩
  else if path.units.getLast? = some (.char '/') then ⟨path.units ++ file⟩
  else ⟨path.units ++ .char '/' :: file⟩

/-- What `metadata_options` says for an option with its value in one argument,
or without one. -/
def metadataOption (argument : OsString) (text : String) : List OsString :=
  if Text.startsWith text "--features=" || joined text "-F" ||
      text = "--all-features" || text = "--no-default-features" then
    [argument]
  else
    match Text.stripPrefix text "--target=" with
    | some target => [ofString ("--filter-platform=" ++ target)]
    | none => []

def metadataOptions : List OsString → List OsString
  | [] => []
  | argument :: rest =>
      if argument = dashes then
        []
      else
        match argument.toStr with
        | none => metadataOptions rest
        | some text =>
            if text ∈ ["--features", "-F", "--target"] then
              match rest with
              | [] => []
              | value :: rest =>
                  ofString (if text = "--target" then "--filter-platform"
                    else text) :: value :: metadataOptions rest
            else
              metadataOption argument text ++ metadataOptions rest

variable (machine : Machine σ)

/-- `status` with or without a configuration. -/
def status (arguments : List OsString) (config : Option Path) :
    Session σ ExitStatus :=
  spawn machine (statusArguments arguments (config.map osPath))

def metadataArguments (arguments : List OsString) (manifest : String)
    (config : Option Path) (noDeps : Bool) : List OsString :=
  globalOptions arguments ++
    (match config with
    | some config => [ofString "--config", osPath config]
    | none => []) ++
    ["metadata", "--format-version", "1"].map ofString ++
    (if noDeps then [ofString "--no-deps"] else metadataOptions arguments) ++
    ["--manifest-path", manifest].map ofString

def metadata (arguments : List OsString) (manifest : String)
    (config : Option Path) (noDeps : Bool) : Session σ Json := do
  let output ← capture machine
    (metadataArguments arguments manifest config noDeps)
  if output.status.success then
    orFail output.json "invalid JSON"
  else
    fail ((if config.isSome then "patched " else "") ++
      "Cargo metadata failed: " ++ trim output.stderr)

def manifestArguments (arguments : List OsString) (workspace : Bool) :
    List OsString :=
  globalOptions arguments ++
    ["locate-project", "--message-format", "plain"].map ofString ++
    (if workspace then [ofString "--workspace"] else []) ++
    match option arguments ["--manifest-path", "-m"] with
    | some path => [ofString "--manifest-path", path]
    | none =>
        match option arguments ["--path"] with
        | some path => [ofString "--manifest-path", joinManifest path]
        | none => []

def manifest (arguments : List OsString) (workspace : Bool) :
    Session σ (Option String) :=
  if operation arguments = some "install" &&
      !hasOption arguments "--path" then
    pure none
  else do
    let output ← capture machine (manifestArguments arguments workspace)
    if output.status.success then do
      let text ← orFail output.text "invalid utf-8"
      pure (some (trim text))
    else
      fail (trim output.stderr)

def treeArguments (arguments : List OsString) (manifest : String) :
    List OsString :=
  globalOptions arguments ++
    ["tree", "--depth", "0", "--prefix", "none", "--color", "never",
      "--manifest-path", manifest].map ofString ++
    (if hasOption arguments "--workspace" || hasOption arguments "--all" then
      [ofString "--workspace"] else []) ++
    (optionValues ["--package", "-p"] arguments).flatMap
      (fun package => [ofString "--package", package]) ++
    (optionValues ["--exclude"] arguments).flatMap
      fun package => [ofString "--exclude", package]

def selectedPackages (arguments : List OsString) (manifest : String) :
    Session σ (List String) := do
  let output ← capture machine (treeArguments arguments manifest)
  if output.status.success then do
    let text ← orFail output.text "invalid utf-8"
    pure ((Text.lines text).filterMap fun line => (splitWhitespace line).head?)
  else
    fail (trim output.stderr)

/-- `exit` of `telekio/src/main.rs`, which does not return. -/
def exit (status : ExitStatus) : Session σ Unit :=
  throw (.exit (status.code.getD 1))

/-! ## What they add -/

/-- A captured command, or files that are read. -/
def Entry.IsCaptured : Entry → Prop
  | .output _ _ => True
  | .disk before after => before = after
  | _ => False

/-- The only things that are written down are captured commands and files that
are read. -/
def Captures (added : List Entry) : Prop :=
  ∀ entry ∈ added, entry.IsCaptured

theorem captures_nil : Captures [] :=
  fun _ member => nomatch member

theorem captures_append {first second : List Entry} :
    Captures (first ++ second) ↔ Captures first ∧ Captures second := by
  simp only [Captures, List.mem_append]
  constructor
  · exact fun all => ⟨fun entry member => all entry (Or.inl member),
      fun entry member => all entry (Or.inr member)⟩
  · rintro ⟨left, right⟩ entry (member | member)
    · exact left entry member
    · exact right entry member

variable {machine} {arguments : List OsString} {name : String}
variable {config : Option Path} {noDeps : Bool}

/-- A program over the files is written down, and ends as it does on the files
of some moment. -/
def Accesses (program : Effect α) (added : List Entry)
    (result : Except Stop α) : Prop :=
  ∃ world left, added = [.disk world.files left.files] ∧
    ((∃ value, program world = .ok value left ∧ result = .ok value) ∨
      ∃ error, program world = .error error left ∧
        result = .error (.error error))

theorem adds_onDisk {program : Effect α} :
    Adds (onDisk program : Session σ α) (Accesses program) := by
  intro start
  simp only [onDisk, run_bind]
  cases ran : program start.state.world with
  | ok value left =>
      have done : access program start.state =
          (⟨.ok value, start.state.world.files, left.files⟩,
            { start.state with world := left }) := by
        simp only [access, ran]
      refine ⟨_, ?_, start.state.world, left, rfl,
        Or.inl ⟨value, ran, ?_⟩⟩
      · simp only [Journal.run, perform, done]
        rfl
      · simp only [Journal.run, perform, done]
        rfl
  | error error left =>
      have done : access program start.state =
          (⟨.error error, start.state.world.files, left.files⟩,
            { start.state with world := left }) := by
        simp only [access, ran]
      refine ⟨_, ?_, start.state.world, left, rfl,
        Or.inr ⟨error, ran, ?_⟩⟩
      · simp only [Journal.run, perform, done]
        rfl
      · simp only [Journal.run, perform, done]
        rfl

theorem adds_query {read : Files → α} :
    Adds (query read : Session σ α) fun added result => ∃ files,
      added = [.disk files files] ∧ result = .ok (read files) := by
  refine adds_onDisk.consequence ?_
  rintro added result ⟨world, left, rfl, ⟨value, ran, rfl⟩ | ⟨_, ran, -⟩⟩
  · cases ran
    exact ⟨_, rfl, rfl⟩
  · cases ran

theorem adds_fail {text : String} : Adds (fail text : Session σ α)
    fun added result => added = [] ∧
      result = .error (.error (.message text)) :=
  .throw ⟨rfl, rfl⟩

section Pure

variable {β : Type} {fits : List Entry → Except Stop β → Prop}

/-- A value that is there is used, without a trace. -/
theorem adds_orFail_bind {found : Option α} {text : String}
    {next : α → Session σ β}
    (second : ∀ value, found = some value → Adds (next value) fits)
    (stops : fits [] (.error (.error (.message text)))) :
    Adds (orFail found text >>= next) fits := by
  cases found with
  | some value => exact second value rfl
  | none => exact .throw stops

theorem adds_ofExcept_bind {found : Except String α}
    {next : α → Session σ β}
    (second : ∀ value, found = .ok value → Adds (next value) fits)
    (stops : ∀ text, fits [] (.error (.error (.message text)))) :
    Adds (ofExcept found >>= next) fits := by
  cases found with
  | ok value => exact second value rfl
  | error text => exact .throw (stops text)

end Pure

theorem adds_orFail {found : Option α} {text : String} :
    Adds (orFail found text : Session σ α) fun added result =>
      added = [] ∧ ((∃ value, found = some value ∧ result = .ok value) ∨
        ∃ error, result = .error (.error error)) := by
  cases found with
  | some value => exact .pure ⟨rfl, Or.inl ⟨value, rfl, rfl⟩⟩
  | none => exact .throw ⟨rfl, Or.inr ⟨_, rfl⟩⟩

/-- A command that has the terminal is written down, and its status returned
if it could be started. -/
theorem adds_spawn : Adds (spawn machine arguments) fun added result =>
    (∃ status, added = [.status arguments (some status)] ∧
      result = .ok status) ∨
    added = [.status arguments none] ∧ result = .error (.error .io) := by
  refine .bind .perform (fun answer => ?_) ?_
  · cases answer with
    | some status =>
        refine .pure ?_
        rintro earlier ⟨_, rfl, same⟩
        cases same
        exact Or.inl ⟨status, rfl, rfl⟩
    | none =>
        refine .throw ?_
        rintro earlier ⟨_, rfl, same⟩
        cases same
        exact Or.inr ⟨rfl, rfl⟩
  · rintro _ error ⟨_, -, failed⟩
    cases failed

theorem adds_capture : Adds (capture machine arguments) fun added result =>
    (∃ output, added = [.output arguments (some output)] ∧
      result = .ok output) ∨
    added = [.output arguments none] ∧ result = .error (.error .io) := by
  refine .bind .perform (fun answer => ?_) ?_
  · cases answer with
    | some output =>
        refine .pure ?_
        rintro earlier ⟨_, rfl, same⟩
        cases same
        exact Or.inl ⟨output, rfl, rfl⟩
    | none =>
        refine .throw ?_
        rintro earlier ⟨_, rfl, same⟩
        cases same
        exact Or.inr ⟨rfl, rfl⟩
  · rintro _ error ⟨_, -, failed⟩
    cases failed

/-- Cargo is only asked; the process does not exit and does not panic. -/
def Asks (added : List Entry) (result : Except Stop α) : Prop :=
  Captures added ∧ ∀ stop, result = .error stop →
    ∃ error, stop = .error error ∧ error ≠ .panicked

theorem asks_ok {value : α} : Asks [] (.ok value : Except Stop α) :=
  ⟨captures_nil, nofun⟩

theorem asks_error {error : Error} (proper : error ≠ .panicked) :
    Asks [] (.error (.error error) : Except Stop α) := by
  refine ⟨captures_nil, ?_⟩
  rintro stop same
  cases same
  exact ⟨error, rfl, proper⟩

theorem captures_singleton {entry : Entry} (captured : entry.IsCaptured) :
    Captures [entry] :=
  fun _ member => List.mem_singleton.mp member ▸ captured

section Asking

variable {β : Type} {program : Session σ α} {next : α → Session σ β}

theorem asks_bind (first : Adds program Asks)
    (second : ∀ value, Adds (next value) Asks) :
    Adds (program >>= next) Asks := by
  refine .bind first (fun value => ?_) ?_
  · refine (second value).consequence ?_
    rintro added result ⟨captures, stays⟩ earlier ⟨before, -⟩
    exact ⟨captures_append.mpr ⟨before, captures⟩, stays⟩
  · rintro earlier error ⟨captures, stays⟩
    refine ⟨captures, fun stop same => ?_⟩
    cases same
    exact stays _ rfl

theorem asks_capture : Adds (capture machine arguments) Asks := by
  refine adds_capture.consequence ?_
  rintro added result (⟨output, rfl, rfl⟩ | ⟨rfl, rfl⟩)
  · exact ⟨captures_singleton trivial, nofun⟩
  · refine ⟨captures_singleton trivial, fun stop same => ?_⟩
    cases same
    exact ⟨_, rfl, nofun⟩

theorem asks_fail {text : String} : Adds (fail text : Session σ α) Asks :=
  .throw (asks_error nofun)

theorem asks_orFail {found : Option α} {text : String} :
    Adds (orFail found text : Session σ α) Asks := by
  cases found with
  | some value => exact .pure asks_ok
  | none => exact asks_fail

/-- Cargo is only asked, and what is returned fits what was asked. -/
def Answers (returns : List Entry → α → Prop) (added : List Entry)
    (result : Except Stop α) : Prop :=
  Asks added result ∧ ∀ found, result = .ok found → returns added found

theorem answers_bind {holds : List Entry → α → Prop}
    {returns : List Entry → β → Prop} (first : Adds program (Answers holds))
    (second : ∀ value earlier, holds earlier value →
      Adds (next value)
        (Answers fun added found => returns (earlier ++ added) found)) :
    Adds (program >>= next) (Answers returns) := by
  refine .andThen first (fun value earlier answers => ?_) ?_
  · obtain ⟨⟨before, -⟩, held⟩ := answers
    refine (second value earlier (held value rfl)).consequence ?_
    rintro added result ⟨⟨captures, stays⟩, returned⟩
    exact ⟨⟨captures_append.mpr ⟨before, captures⟩, stays⟩, returned⟩
  · rintro earlier error ⟨⟨captures, stays⟩, -⟩
    refine ⟨⟨captures, fun stop same => ?_⟩, nofun⟩
    cases same
    exact stays _ rfl

/-- After what was asked so far, a part that only asks comes before the
rest. -/
theorem adds_asking_bind {asked : List Entry} {holds : List Entry → α → Prop}
    {fits : List Entry → Except Stop β → Prop}
    (refused : ∀ asked error, Captures asked → error ≠ .panicked →
      fits asked (.error (.error error)))
    (captures : Captures asked) (first : Adds program (Answers holds))
    (second : ∀ value more, Captures more → holds more value →
      Adds (next value) fun added result =>
        fits (asked ++ more ++ added) result) :
    Adds (program >>= next) fun added result =>
      fits (asked ++ added) result := by
  refine .andThen first ?_ ?_
  · rintro value more ⟨⟨further, -⟩, held⟩
    refine (second value more further (held value rfl)).consequence ?_
    intro added result fitting
    rwa [List.append_assoc] at fitting
  · rintro more stop ⟨⟨further, stays⟩, -⟩
    obtain ⟨error, rfl, proper⟩ := stays stop rfl
    exact refused _ error (captures_append.mpr ⟨captures, further⟩) proper

/-- A value is returned at once. -/
theorem answers_pure {value : α} {returns : List Entry → α → Prop}
    (fits : returns [] value) :
    Adds (pure value : Session σ α) (Answers returns) :=
  .pure ⟨asks_ok, fun _ same => Except.ok.inj same ▸ fits⟩

theorem answers_fail {text : String} {returns : List Entry → α → Prop} :
    Adds (fail text : Session σ α) (Answers returns) :=
  .throw ⟨asks_error nofun, nofun⟩

theorem answers_capture : Adds (capture machine arguments)
    (Answers fun added output =>
      added = [.output arguments (some output)]) := by
  refine (asks_capture.and adds_capture).consequence ?_
  rintro added result ⟨asks, captured⟩
  refine ⟨asks, ?_⟩
  rintro found rfl
  rcases captured with ⟨output, rfl, same⟩ | ⟨-, failed⟩
  · cases same
    rfl
  · cases failed

/-- Cargo was asked which packages are named, and listed them. -/
def Listed (arguments : List OsString) (manifest : String)
    (names : List String) (asked : List Entry) : Prop :=
  ∃ output text,
    .output (treeArguments arguments manifest) (some output) ∈ asked ∧
    output.status.success = true ∧ output.text = some text ∧
    names = (Text.lines text).filterMap fun line =>
      (splitWhitespace line).head?

theorem Listed.mono {names : List String} {asked more : List Entry}
    (listed : Listed arguments name names asked) (inside : asked ⊆ more) :
    Listed arguments name names more := by
  obtain ⟨output, text, member, success, printed, same⟩ := listed
  exact ⟨output, text, inside member, success, printed, same⟩

theorem answers_selectedPackages :
    Adds (selectedPackages machine arguments name)
      (Answers fun added names => Listed arguments name names added) := by
  refine answers_bind answers_capture fun output earlier same => ?_
  split
  · rename_i success
    refine adds_orFail_bind (fun text printed => answers_pure ?_)
      ⟨asks_error nofun, nofun⟩
    exact ⟨output, text, by simp [same], success, printed, rfl⟩
  · exact answers_fail

end Asking

/-- Metadata that is returned was printed by a command that is written
down. -/
theorem adds_metadata :
    Adds (metadata machine arguments name config noDeps)
      fun added result => ∃ answer,
        added = [.output
          (metadataArguments arguments name config noDeps) answer] ∧
        ((∃ output found, answer = some output ∧
            output.json = some found ∧ result = .ok found) ∨
          ∃ error, result = .error (.error error)) := by
  refine .bind adds_capture (fun output => ?_) ?_
  · split
    · refine adds_orFail.consequence ?_
      rintro added result ⟨rfl, read⟩ earlier captured
      rcases captured with ⟨other, rfl, same⟩ | ⟨-, failed⟩
      · cases same
        refine ⟨some output, rfl, ?_⟩
        rcases read with ⟨found, parsed, rfl⟩ | failed
        · exact Or.inl ⟨output, found, rfl, parsed, rfl⟩
        · exact Or.inr failed
      · cases failed
    · refine adds_fail.consequence ?_
      rintro added result ⟨rfl, rfl⟩ earlier captured
      rcases captured with ⟨other, rfl, same⟩ | ⟨-, failed⟩
      · exact ⟨some other, rfl, Or.inr ⟨_, rfl⟩⟩
      · cases failed
  · rintro earlier error (⟨_, -, failed⟩ | ⟨rfl, same⟩)
    · cases failed
    · cases same
      exact ⟨none, rfl, Or.inr ⟨_, rfl⟩⟩

theorem asks_metadata :
    Adds (metadata machine arguments name config noDeps) Asks := by
  refine asks_bind asks_capture fun output => ?_
  split
  · exact asks_orFail
  · exact asks_fail

end Telekio.Wrapper
