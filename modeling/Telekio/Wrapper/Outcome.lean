import Telekio.Wrapper.Roles

/-!
# What a run comes to

No command gets the patch of a role that its packages do not have, and the
process ends with success only if all that was planned has succeeded.
-/

namespace Telekio.Wrapper

open Telekio.Command
open Telekio.Command.OsString
open Telekio.Disk
open Telekio.Journal
open Telekio.Patching (Role Editor)

variable {σ json layout : Type}

/-- A command that updates a package in the graph of a stage. -/
def Stage.Refreshes (setup : Setup σ json layout) (stage : Stage)
    (command : List OsString) : Prop :=
  ∃ arguments manifest packages id version,
    stage.graph = some (arguments, manifest, packages) ∧
    command = updateCommand arguments manifest (stage.config setup) version id

/-- What has the terminal in a stage. -/
def Stage.Has (setup : Setup σ json layout) (stage : Stage)
    (command : List OsString) : Prop :=
  command = stage.command setup ∨ stage.Refreshes setup command

section Commands

variable {setup : Setup σ json layout} {machine : Machine σ}
variable {stage : Stage} {stages : List Stage} {added : List Entry}
variable {result : Except Stop Unit} {error : Error}
variable {failed : Option ExitStatus} {code : Int}
variable {command : List OsString} {answer : Option ExitStatus}

theorem Prepares.exists_update {editor : Editor layout}
    {arguments : List OsString} {manifest : String} {config : Path}
    {packages : List String}
    (prepares : Prepares machine editor arguments manifest config packages
      added result) (member : .status command answer ∈ added) :
    ∃ id version,
      command = updateCommand arguments manifest config version id := by
  cases prepares with
  | stopped => simp at member
  | updating => simp at member
  | graph printed graph =>
      have later := (List.mem_cons.mp member).resolve_left nofun
      cases graph with
      | stopped => cases later
      | unread => simp at later
      | updates _ _ _ _ _ updates =>
          obtain ⟨id, same⟩ := updates.exists_id
            ((List.mem_cons.mp later).resolve_left nofun)
          exact ⟨id, _, same⟩

theorem Stage.Graphs.refreshes (graphs : stage.Graphs setup added result)
    (member : .status command answer ∈ added) :
    stage.Refreshes setup command := by
  unfold Stage.Graphs at graphs
  cases graph : stage.graph with
  | none =>
      rw [graph] at graphs
      rw [graphs.1] at member
      cases member
  | some parts =>
      obtain ⟨arguments, manifest, packages⟩ := parts
      rw [graph] at graphs
      obtain ⟨id, version, same⟩ := graphs.exists_update member
      exact ⟨arguments, manifest, packages, id, version, graph, same⟩

theorem Stage.Prepares.refreshes (prepares : stage.Prepares setup added
      result) (member : .status command answer ∈ added) :
    stage.Refreshes setup command := by
  cases prepares with
  | unpatched => simp at member
  | patched patches graphs =>
      exact graphs.refreshes ((List.mem_cons.mp member).resolve_left nofun)

theorem Done.has {done : Done} (prepared : done.Prepared setup)
    (member : .status command answer ∈ done.entries setup) :
    done.stage.Has setup command := by
  rcases List.mem_append.mp member with earlier | last
  · exact Or.inr (prepared.refreshes earlier)
  · cases List.mem_singleton.mp last
    exact Or.inl rfl

theorem Stage.Breaks.has (breaks : stage.Breaks setup added error)
    (member : .status command answer ∈ added) : stage.Has setup command := by
  cases breaks with
  | unprepared prepares => exact Or.inr (prepares.refreshes member)
  | unstarted prepares =>
      rcases List.mem_append.mp member with earlier | last
      · exact Or.inr (prepares.refreshes earlier)
      · cases List.mem_singleton.mp last
        exact Or.inl rfl

theorem Passed.has {done : List Done} (passed : Passed setup done)
    (member : .status command answer ∈ entriesOf setup done) :
    ∃ stage ∈ done.map Done.stage, stage.Has setup command := by
  obtain ⟨each, inside, here⟩ := List.mem_flatMap.mp member
  exact ⟨each.stage, List.mem_map_of_mem inside,
    Done.has (passed.prepared each inside) here⟩

/-- All that has the terminal in a run of stages belongs to one of them. -/
theorem Ends.has (ends : Ends setup stages failed added code)
    (member : .status command answer ∈ added) :
    ∃ stage ∈ stages, stage.Has setup command := by
  cases ends with
  | finished done all passed => exact all ▸ passed.has member
  | stopped done last rest split passed prepared stops =>
      rcases List.mem_append.mp member with earlier | here
      · obtain ⟨stage, inside, has⟩ := passed.has earlier
        exact ⟨stage, by rw [split]; exact List.mem_append_left _ inside,
          has⟩
      · exact ⟨last.stage, by simp [split], Done.has prepared here⟩
  | broken done stage rest tail error split passed breaks =>
      rcases List.mem_append.mp member with earlier | here
      · obtain ⟨stage, inside, has⟩ := passed.has earlier
        exact ⟨stage, by rw [split]; exact List.mem_append_left _ inside,
          has⟩
      · exact ⟨stage, by simp [split], breaks.has here⟩

end Commands

/-- A stage has the patch for its role, and serves that role: there is no
project; or all packages that the command selects have the role; or those of
them that have it are selected by their names; or the command compiles
nothing. -/
inductive Serves (arguments interpreted : List OsString)
    (asked : List Entry) : Stage → Prop where
  | remote (install : operation interpreted = some "install")
      (noPath : hasOption interpreted "--path" = false) :
      Serves arguments interpreted asked (remoteStage arguments)
  | single {manifest : String} {metadata : Json} {info : ProjectInfo}
      {packages : List Json} {selected : List String} {workspace : Bool}
      {role : Role}
      (printed : Printed (plainMetadata interpreted manifest) metadata asked)
      (grouped : Grouped metadata info packages selected)
      (chosen : Chooses interpreted manifest metadata packages asked
        (selected, workspace))
      (all : ∀ id ∈ selected, ∃ name, nameIf packages role id = some name) :
      Serves arguments interpreted asked
        (singleStage arguments interpreted manifest info role)
  | named {manifest : String} {metadata : Json} {packages : List Json}
      {selected names : List String} {role : Role} {command : String}
      (printed : Printed (plainMetadata interpreted manifest) metadata asked)
      (listed : arrayOf metadata "packages" = some packages)
      (chosen : Chooses interpreted manifest metadata packages asked
        (selected, true))
      (ofRole : names = selected.filterMap (nameIf packages role))
      (nonempty : names ≠ []) (called : operation interpreted = some command)
      (builds : kind command = some .packages) :
      Serves arguments interpreted asked
        (groupStage interpreted manifest true role names)
  | whole {manifest : String} {metadata : Json} {packages : List Json}
      {selected names : List String} {workspace : Bool} {role : Role}
      {command : String}
      (printed : Printed (plainMetadata interpreted manifest) metadata asked)
      (listed : arrayOf metadata "packages" = some packages)
      (chosen : Chooses interpreted manifest metadata packages asked
        (selected, workspace))
      (ofRole : names = selected.filterMap (nameIf packages role))
      (nonempty : names ≠ []) (called : operation interpreted = some command)
      (quiet : command ∈ ["fetch", "generate-lockfile", "update", "tree"]) :
      Serves arguments interpreted asked
        (groupStage interpreted manifest false role names)

variable {setup : Setup σ json layout} {arguments interpreted : List OsString}
variable {asked : List Entry} {stages : List Stage} {stage : Stage}

theorem mem_of_kind_workspace {command : String}
    (found : kind command = some .workspace) :
    command ∈ ["fetch", "generate-lockfile", "update"] := by
  unfold kind at found
  split at found
  · cases found
  · split at found
    · assumption
    · repeat' split at found
      all_goals cases found

/-- A stage for a group of packages. -/
theorem serves_of_mem_stagesOf {manifest : String} {metadata : Json}
    {info : ProjectInfo} {select : Bool}
    (printed : Printed (plainMetadata interpreted manifest) metadata asked)
    (informs : Informs interpreted manifest metadata asked info)
    (splits : Splits interpreted info select)
    (member : stage ∈ stagesOf interpreted manifest select
      [(.host, info.host), (.guest, info.guest)]) :
    Serves arguments interpreted asked stage := by
  obtain ⟨packages, selected, members, grouped, chosen, -, -⟩ := informs
  have found : ∃ role, info.names role ≠ [] ∧
      stage = groupStage interpreted manifest select role
        (info.names role) := by
    obtain ⟨⟨role, names⟩, inside, rfl⟩ := List.mem_map.mp member
    obtain ⟨listed, filled⟩ := List.mem_filter.mp inside
    have same : names = info.names role := by
      rcases List.mem_cons.mp listed with here | later
      · cases here
        rfl
      · cases List.mem_singleton.mp later
        rfl
    subst same
    exact ⟨role, by simpa using filled, rfl⟩
  obtain ⟨role, nonempty, rfl⟩ := found
  obtain ⟨command, called, ⟨rfl, builds, workspace⟩ | ⟨rfl, quiet⟩⟩ := splits
  · rw [workspace] at chosen
    exact .named printed grouped.listed chosen (grouped.names role) nonempty
      called builds
  · refine .whole printed grouped.listed chosen (grouped.names role) nonempty
      called ?_
    rcases quiet with rfl | workspace
    · simp
    · have few := mem_of_kind_workspace workspace
      simp only [List.mem_cons] at few ⊢
      tauto

theorem Planned.serves (planned : Planned arguments interpreted asked stages)
    (member : stage ∈ stages) : Serves arguments interpreted asked stage := by
  cases planned with
  | remote install noPath =>
      rw [List.mem_singleton.mp member]
      exact .remote install noPath
  | single printed informs one =>
      rw [List.mem_singleton.mp member]
      obtain ⟨packages, selected, members, grouped, chosen, -, -⟩ := informs
      exact .single printed grouped chosen ((role_eq_some_iff grouped).mp one)
  | both printed informs two splits =>
      exact serves_of_mem_stagesOf printed informs splits member

/-! ## Later entries -/

theorem Unpatched.mono {machine : Machine σ} {more : List Entry}
    (unpatched : Unpatched machine arguments interpreted asked)
    (inside : asked ⊆ more) :
    Unpatched machine arguments interpreted more := by
  rcases unpatched with plain | ⟨manifest, metadata, files, printed, read,
    absent⟩
  · exact Or.inl plain
  · exact Or.inr ⟨manifest, metadata, files, printed.mono inside,
      inside read, absent⟩

theorem Serves.mono {more : List Entry}
    (serves : Serves arguments interpreted asked stage)
    (inside : asked ⊆ more) : Serves arguments interpreted more stage := by
  cases serves with
  | remote install noPath => exact .remote install noPath
  | single printed grouped chosen all =>
      exact .single (printed.mono inside) grouped (chosen.mono inside) all
  | named printed listed chosen ofRole nonempty called builds =>
      exact .named (printed.mono inside) listed (chosen.mono inside) ofRole
        nonempty called builds
  | whole printed listed chosen ofRole nonempty called quiet =>
      exact .whole (printed.mono inside) listed (chosen.mono inside) ofRole
        nonempty called quiet

theorem not_mem_of_captures {command : List OsString}
    {answer : Option ExitStatus} (captures : Captures asked) :
    .status command answer ∉ asked :=
  fun member => captures _ member

/-- A command that has the terminal is the given one, which no patch matters
for, or belongs to a stage that serves its role. -/
def Suits (setup : Setup σ json layout)
    (arguments interpreted : List OsString) (entries : List Entry)
    (command : List OsString) : Prop :=
  Unpatched setup.machine arguments interpreted entries ∧
      command = statusArguments arguments none ∨
    ∃ stage, Serves arguments interpreted entries stage ∧
      stage.Has setup command

/-- In every run, whatever Cargo answers and changes, no command gets the
patch of a role that the packages which it is run for do not have. -/
theorem runCargo_suits :
    Adds (runCargo setup arguments interpreted) fun added _ =>
      ∀ command answer, .status command answer ∈ added →
        Suits setup arguments interpreted added command := by
  refine adds_runCargo.consequence ?_
  intro added result concludes command answer member
  have start := @List.subset_append_left Entry
  cases concludes with
  | refused captures proper =>
      exact absurd member (not_mem_of_captures captures)
  | untouched captures unpatched =>
      rcases List.mem_append.mp member with earlier | last
      · exact absurd earlier (not_mem_of_captures captures)
      · cases List.mem_singleton.mp last
        exact Or.inl ⟨unpatched.mono (start _ _), rfl⟩
  | unstarted captures unpatched =>
      rcases List.mem_append.mp member with earlier | last
      · exact absurd earlier (not_mem_of_captures captures)
      · cases List.mem_singleton.mp last
        exact Or.inl ⟨unpatched.mono (start _ _), rfl⟩
  | staged captures planned ends =>
      rcases List.mem_append.mp member with earlier | later
      · exact absurd earlier (not_mem_of_captures captures)
      · obtain ⟨stage, inside, has⟩ := ends.has later
        exact Or.inr ⟨stage, (planned.serves inside).mono (start _ _), has⟩

/-- All that was planned was run and has succeeded. -/
inductive Succeeds (setup : Setup σ json layout)
    (arguments interpreted : List OsString) : List Entry → Prop where
  | untouched {asked : List Entry} (captures : Captures asked)
      (unpatched : Unpatched setup.machine arguments interpreted asked) :
      Succeeds setup arguments interpreted
        (asked ++ [.status (statusArguments arguments none)
          (some ⟨some 0⟩)])
  | staged {asked : List Entry} {done : List Done}
      (captures : Captures asked)
      (planned : Planned arguments interpreted asked (done.map Done.stage))
      (prepared : ∀ each ∈ done, each.Prepared setup)
      (success : ∀ each ∈ done, each.status = ⟨some 0⟩) :
      Succeeds setup arguments interpreted (asked ++ entriesOf setup done)

section Code

variable {done : List Done} {added : List Entry}
variable {code : Int} {status : ExitStatus}

theorem codeOf_eq_zero : codeOf status = 0 ↔ status = ⟨some 0⟩ := by
  obtain ⟨code⟩ := status
  cases code with
  | none => simp [codeOf]
  | some value => simp [codeOf]

theorem success_iff : status.success = true ↔ status = ⟨some 0⟩ := by
  obtain ⟨code⟩ := status
  simp [ExitStatus.success]

theorem all_of_firstFailure_eq_none (passes : firstFailure done = none) :
    ∀ each ∈ done, each.status = ⟨some 0⟩ := by
  intro each member
  have succeeds := List.find?_eq_none.mp passes each.status
    (List.mem_map_of_mem member)
  exact success_iff.mp (by simpa using succeeds)

theorem firstFailure_ne_zero (found : firstFailure done = some status) :
    (∃ each ∈ done, each.status = status) ∧ codeOf status ≠ 0 := by
  constructor
  · exact List.mem_map.mp (List.mem_of_find?_eq_some found)
  · have fails := List.find?_some found
    rw [ne_eq, codeOf_eq_zero, ← success_iff]
    simpa using fails

theorem exitCode_error {error : Error} :
    exitCode (.error (.error error)) = 1 ∨
      exitCode (.error (.error error)) = 101 := by
  cases error <;> simp [exitCode]

theorem Done.mem_entriesOf {each : Done} (member : each ∈ done) :
    .status (each.stage.command setup) (some each.status) ∈
      entriesOf setup done :=
  List.mem_flatMap.mpr ⟨each, member,
    List.mem_append_right _ (List.mem_singleton_self _)⟩

/-- A run of stages that ends with success has run all of them. -/
theorem Ends.success (ends : Ends setup stages none added code)
    (zero : code = 0) :
    ∃ done : List Done, done.map Done.stage = stages ∧
      added = entriesOf setup done ∧ (∀ each ∈ done, each.Prepared setup) ∧
      ∀ each ∈ done, each.status = ⟨some 0⟩ := by
  cases ends with
  | finished done all passed =>
      refine ⟨done, all, rfl, passed.prepared, ?_⟩
      cases found : firstFailure done with
      | none => exact all_of_firstFailure_eq_none found
      | some status =>
          rw [Option.none_or, found] at zero
          exact absurd zero (firstFailure_ne_zero found).2
  | stopped done last rest split passed prepared stops =>
      have success := success_iff.mpr (codeOf_eq_zero.mp zero)
      exact absurd (Or.inl success) stops
  | broken done stage rest tail error split passed breaks =>
      rcases @exitCode_error error with one | panicked
      · omega
      · omega

/-- A code that is not one of the wrapper is that of a command. -/
theorem Ends.failure (ends : Ends setup stages none added code)
    (apart : code ≠ 0 ∧ code ≠ 1 ∧ code ≠ 101) :
    ∃ command, .status command (some ⟨some code⟩) ∈ added := by
  have known : ∀ {status : ExitStatus}, codeOf status ≠ 1 →
      status = ⟨some (codeOf status)⟩ := by
    intro status other
    obtain ⟨found⟩ := status
    cases found with
    | none => exact absurd rfl other
    | some value => rfl
  cases ends with
  | finished done all passed =>
      cases found : firstFailure done with
      | none => simp [found] at apart
      | some status =>
          rw [found] at apart
          obtain ⟨each, member, same⟩ := (firstFailure_ne_zero found).1
          refine ⟨each.stage.command setup, ?_⟩
          have entry := @Done.mem_entriesOf _ _ _ setup _ _ member
          rw [same, known apart.2.1] at entry
          exact entry
  | stopped done last rest split passed prepared stops =>
      refine ⟨last.stage.command setup, List.mem_append_right _ ?_⟩
      rw [← known apart.2.1]
      exact List.mem_append_right _ (List.mem_singleton_self _)
  | broken done stage rest tail error split passed breaks =>
      rcases @exitCode_error error with one | panicked
      · omega
      · omega

end Code

/-- In every run, the process ends with success only if all that was planned
was run and has succeeded; and any code but 0 and those of the wrapper is the
code of a command. -/
theorem runCargo_code :
    Adds (runCargo setup arguments interpreted) fun added result =>
      (exitCode result = 0 →
        Succeeds setup arguments interpreted added) ∧
      ∀ code, exitCode result = code → code ≠ 0 ∧ code ≠ 1 ∧ code ≠ 101 →
        ∃ command, .status command (some ⟨some code⟩) ∈ added := by
  refine adds_runCargo.consequence ?_
  intro added result concludes
  cases concludes with
  | refused captures proper =>
      rename_i error
      rcases @exitCode_error error with one | panicked
      · exact ⟨fun zero => by omega, fun code same apart => by omega⟩
      · exact ⟨fun zero => by omega, fun code same apart => by omega⟩
  | untouched captures unpatched =>
      rename_i status
      constructor
      · intro zero
        rw [codeOf_eq_zero.mp zero]
        exact .untouched captures unpatched
      · rintro code same apart
        obtain ⟨found⟩ := status
        cases found with
        | none =>
            have one : (1 : Int) = code := same
            omega
        | some value =>
            cases same
            exact ⟨_, List.mem_append_right _ (List.mem_singleton_self _)⟩
  | unstarted captures unpatched =>
      exact ⟨fun zero => absurd zero (by decide), fun code same apart =>
        absurd same.symm apart.2.1⟩
  | staged captures planned ends =>
      constructor
      · intro zero
        obtain ⟨done, all, rfl, prepared, success⟩ := ends.success zero
        exact .staged captures (all ▸ planned) prepared success
      · rintro code rfl apart
        obtain ⟨command, member⟩ := ends.failure apart
        exact ⟨command, List.mem_append_right _ member⟩

end Telekio.Wrapper
