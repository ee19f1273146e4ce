import Telekio.Wrapper.Run

/-!
# Stages

What the wrapper is for: a command of Cargo is carried out as stages, each of
which has one patch and the packages of one role. Here it is said what a run
in stages is, and that the wrapper runs nothing else.
-/

namespace Telekio.Wrapper

open Telekio.Command
open Telekio.Command.OsString
open Telekio.Disk
open Telekio.Journal
open Telekio.Patching

variable {σ json layout : Type}

/-- A run of Cargo with the patch for a role, and what the graph is prepared
for: arguments, a manifest and packages, if there is a project. -/
structure Stage where
  role : Role
  mixed : Bool
  graph : Option (List OsString × String × List String)
  arguments : List OsString

namespace Stage

variable (setup : Setup σ json layout) (stage : Stage)

def config : Path :=
  configPath setup.machine.tempDir stage.role stage.mixed

def command : List OsString :=
  statusArguments stage.arguments (some (osPath (stage.config setup)))

/-- The directory of the patch and the configuration of a stage. -/
def cache : Path :=
  cacheParent setup.machine.tempDir stage.role stage.mixed

/-- The registry has Tokio, and it can be patched for the roles of a stage. -/
def Available : Prop :=
  setup.tools.format.Lawful manifestComment ∧
    ∃ selected entries root original preamble, TokioPackage setup.tools
      setup.registry selected entries root original preamble stage.role
      (dependencyRole stage.role stage.mixed)

/-- What preparing the patch of a stage has come to: the configuration names
the patch, which is current for the roles if Tokio can be had, and nothing
else has changed. -/
structure Patches (before after : Files) : Prop where
  config : entryAt after (stage.config setup) =
    some (.file (configText setup.tools
      (patchOf (stage.cache setup))).toUTF8)
  current : stage.Available setup → patchCurrent setup.tools
    (patchOf (stage.cache setup)) stage.role
    (dependencyRole stage.role stage.mixed) after = .ok true
  others : AgreeOutside (Along (stage.cache setup)) before after

/-- What preparing the graph of a stage writes down, and how it ends. -/
def Graphs (added : List Entry) (result : Except Stop Unit) : Prop :=
  match stage.graph with
  | some (arguments, manifest, packages) =>
      Wrapper.Prepares setup.machine setup.editor arguments manifest
        (stage.config setup) packages added result
  | none => added = [] ∧ result = .ok ()

/-- What preparing a stage writes down, and how it ends: first its patch, then
its graph. -/
inductive Prepares : List Entry → Except Stop Unit → Prop where
  | unpatched {before after : Files} {error : Error}
      (others : AgreeOutside (Along (stage.cache setup)) before after) :
      Prepares [.disk before after] (.error (.error error))
  | patched {before after : Files} {added : List Entry}
      {result : Except Stop Unit}
      (patches : stage.Patches setup before after)
      (graphs : stage.Graphs setup added result) :
      Prepares (.disk before after :: added) result

/-- A stage whose command has no status: its patch or its graph could not be
prepared, or the command not be started. -/
inductive Breaks : List Entry → Error → Prop where
  | unprepared {added : List Entry} {error : Error}
      (prepares : stage.Prepares setup added (.error (.error error))) :
      Breaks added error
  | unstarted {added : List Entry}
      (prepares : stage.Prepares setup added (.ok ())) :
      Breaks (added ++ [.status (stage.command setup) none]) .io

end Stage

/-- A stage whose command has ended. -/
structure Done where
  stage : Stage
  preparation : List Entry
  status : ExitStatus

namespace Done

variable (setup : Setup σ json layout) (done : Done)

def entries : List Entry :=
  done.preparation ++ [.status (done.stage.command setup) (some done.status)]

/-- The patch and the graph of the stage were prepared. -/
def Prepared : Prop :=
  done.stage.Prepares setup done.preparation (.ok ())

/-- The stages after it may be run. -/
def GoesOn : Prop :=
  done.status.success = true ∨ keepsGoing done.stage.arguments = true

end Done

def codeOf (status : ExitStatus) : Int :=
  status.code.getD 1

/-- The first command that failed. -/
def firstFailure (done : List Done) : Option ExitStatus :=
  (done.map Done.status).find? fun status => !status.success

def entriesOf (setup : Setup σ json layout) (done : List Done) :
    List Entry :=
  done.flatMap (Done.entries setup)

/-- Stages that were run and let the next ones be run. -/
structure Passed (setup : Setup σ json layout) (done : List Done) :
    Prop where
  prepared : ∀ each ∈ done, each.Prepared setup
  goesOn : ∀ each ∈ done, each.GoesOn

/-- What a run of stages writes down, after a failure or none, and the code of
the process: all of them are run; or one of them fails and stops the run; or
one of them breaks. -/
inductive Ends (setup : Setup σ json layout) (stages : List Stage)
    (failed : Option ExitStatus) : List Entry → Int → Prop where
  | finished (done : List Done) (all : done.map Done.stage = stages)
      (passed : Passed setup done) :
      Ends setup stages failed (entriesOf setup done)
        (((failed.or (firstFailure done)).map codeOf).getD 0)
  | stopped (done : List Done) (last : Done) (rest : List Stage)
      (split : stages = done.map Done.stage ++ last.stage :: rest)
      (passed : Passed setup done) (prepared : last.Prepared setup)
      (stops : ¬ last.GoesOn) :
      Ends setup stages failed (entriesOf setup done ++ last.entries setup)
        (codeOf last.status)
  | broken (done : List Done) (stage : Stage) (rest : List Stage)
      (tail : List Entry) (error : Error)
      (split : stages = done.map Done.stage ++ stage :: rest)
      (passed : Passed setup done)
      (breaks : stage.Breaks setup tail error) :
      Ends setup stages failed (entriesOf setup done ++ tail)
        (exitCode (.error (.error error)))

section Cons

variable {setup : Setup σ json layout} {first : Done}
variable {stages : List Stage} {failed : Option ExitStatus}
variable {added : List Entry} {code : Int}

theorem Passed.nil : Passed setup [] :=
  ⟨nofun, nofun⟩

theorem Passed.cons {done : List Done} (prepared : first.Prepared setup)
    (goesOn : first.GoesOn) (passed : Passed setup done) :
    Passed setup (first :: done) :=
  ⟨List.forall_mem_cons.mpr ⟨prepared, passed.prepared⟩,
    List.forall_mem_cons.mpr ⟨goesOn, passed.goesOn⟩⟩

/-- The failure that a stage adds to those before it. -/
def failedAfter (failed : Option ExitStatus) (status : ExitStatus) :
    Option ExitStatus :=
  if status.success then failed else failed.or (some status)

theorem firstFailure_cons {done : List Done} :
    failed.or (firstFailure (first :: done)) =
      (failedAfter failed first.status).or (firstFailure done) := by
  unfold firstFailure failedAfter
  rw [List.map_cons, List.find?_cons]
  cases first.status.success with
  | true => rfl
  | false => cases failed <;> rfl

/-- A stage that lets the next ones be run comes before them. -/
theorem Ends.cons (prepared : first.Prepared setup)
    (goesOn : first.GoesOn)
    (ends : Ends setup stages (failedAfter failed first.status) added
      code) :
    Ends setup (first.stage :: stages) failed (first.entries setup ++ added)
      code := by
  cases ends with
  | finished done all passed =>
      rw [← firstFailure_cons]
      exact .finished (first :: done) (congrArg _ all)
        (.cons prepared goesOn passed)
  | stopped done last rest split passed ready stops =>
      rw [← List.append_assoc]
      exact .stopped (first :: done) last rest (congrArg _ split)
        (.cons prepared goesOn passed) ready stops
  | broken done stage rest tail error split passed breaks =>
      rw [← List.append_assoc]
      exact .broken (first :: done) stage rest tail error (congrArg _ split)
        (.cons prepared goesOn passed) breaks

theorem Ends.stop {rest : List Stage} (prepared : first.Prepared setup)
    (stops : ¬ first.GoesOn) :
    Ends setup (first.stage :: rest) failed (first.entries setup)
      (codeOf first.status) :=
  .stopped [] first rest rfl .nil prepared stops

theorem Ends.breakFirst {stage : Stage} {rest : List Stage} {error : Error}
    (breaks : stage.Breaks setup added error) :
    Ends setup (stage :: rest) failed added
      (exitCode (.error (.error error))) :=
  .broken [] stage rest added error rfl .nil breaks

end Cons

/-! ## One stage -/

section Stage

variable {setup : Setup σ json layout} {machine : Machine σ}
variable {editor : Editor layout} {arguments asked : List OsString}
variable {manifest : String} {packages : List String} {config : Path}
variable {role : Role} {mixed : Bool} {added : List Entry}
variable {result : Except Stop Unit} {stage : Stage}

/-- What is written down for a stage, and how it ends. -/
def Stage.Runs (setup : Setup σ json layout) (stage : Stage)
    (added : List Entry) (result : Except Stop ExitStatus) : Prop :=
  (∃ done : Done, done.stage = stage ∧ done.Prepared setup ∧
    added = done.entries setup ∧ result = .ok done.status) ∨
  ∃ error, stage.Breaks setup added error ∧ result = .error (.error error)

theorem Updates.ended {command : String → List OsString} {expected : Path}
    {reached : List String} {listed : List Json}
    (updates : Updates machine command expected reached listed added
      result) :
    result = .ok () ∨ ∃ error, result = .error (.error error) := by
  induction updates with
  | done => exact Or.inl rfl
  | skip _ _ ih => exact ih
  | update _ _ _ ih => exact ih
  | refused => exact Or.inr ⟨_, rfl⟩

/-- Preparing a graph does not end the process. -/
theorem Prepares.ended (prepares : Prepares machine editor arguments manifest
      config packages added result) :
    result = .ok () ∨ ∃ error, result = .error (.error error) := by
  cases prepares with
  | stopped => exact Or.inr ⟨_, rfl⟩
  | updating => exact Or.inl rfl
  | graph _ graph =>
      cases graph with
      | stopped => exact Or.inr ⟨_, rfl⟩
      | unread => exact Or.inr ⟨_, rfl⟩
      | updates _ _ _ _ _ updates => exact updates.ended

theorem Stage.Graphs.ended (graphs : stage.Graphs setup added result) :
    result = .ok () ∨ ∃ error, result = .error (.error error) := by
  unfold Stage.Graphs at graphs
  split at graphs
  · exact graphs.ended
  · exact Or.inl graphs.2

/-- A preparation of the patch is written down. -/
theorem adds_configure (stage : Stage) :
    Adds (configure setup stage.role stage.mixed) fun added result =>
      ∃ before after, added = [.disk before after] ∧
        (stage.Patches setup before after ∧
            result = .ok (stage.config setup) ∨
          AgreeOutside (Along (stage.cache setup)) before after ∧
            ∃ error, result = .error (.error error)) := by
  refine adds_onDisk.consequence ?_
  rintro added result ⟨world, left, rfl, ended⟩
  refine ⟨_, _, rfl, ?_⟩
  have region := @preserves_prepareConfig _ setup.tools setup.registry
    setup.machine.tempDir stage.role stage.mixed world.files
  rcases ended with ⟨path, ran, rfl⟩ | ⟨error, ran, rfl⟩
  · refine Or.inl ⟨⟨?_, ?_, region.returned ran (.refl _ _)⟩, ?_⟩
    · exact after_prepareConfig.returned ran trivial
    · rintro ⟨lawful, _, _, _, _, _, package⟩
      exact (current_prepareConfig lawful package).returned ran trivial
    · rw [prepareConfig_returns ran]
      rfl
  · exact Or.inr ⟨region.stopped ran (.refl _ _), error, rfl⟩

/-- The patch of a stage, then its graph, then its command. -/
theorem adds_stage {graph : Path → Session σ Unit} (stage : Stage)
    (graphs : Adds (graph (stage.config setup)) (stage.Graphs setup)) :
    Adds (configure setup stage.role stage.mixed >>= fun config =>
      graph config >>= fun _ =>
        status setup.machine stage.arguments (some config))
      (stage.Runs setup) := by
  refine .andThen (adds_configure stage) ?_ ?_
  · rintro config _ ⟨before, after, rfl, ⟨patches, same⟩ |
      ⟨-, _, failed⟩⟩
    · cases same
      refine .andThen graphs ?_ ?_
      · intro _ earlier graphed
        have prepared := Stage.Prepares.patched patches graphed
        refine adds_spawn.consequence ?_
        rintro added result (⟨status, rfl, rfl⟩ | ⟨rfl, rfl⟩)
        · exact Or.inl ⟨⟨stage, _, status⟩, rfl, prepared, rfl, rfl⟩
        · exact Or.inr ⟨_, .unstarted prepared, rfl⟩
      · intro earlier stop graphed
        rcases graphed.ended with ended | ⟨error, ended⟩
        · cases ended
        · cases ended
          exact Or.inr ⟨error, .unprepared (.patched patches graphed), rfl⟩
    · cases failed
  · rintro _ stop ⟨before, after, rfl, ⟨-, failed⟩ | ⟨others, error, same⟩⟩
    · cases failed
    · cases same
      exact Or.inr ⟨error, .unprepared (.unpatched others), rfl⟩

/-- The stage for the packages of one role. -/
def groupStage (arguments : List OsString) (manifest : String)
    (select : Bool) (role : Role) (packages : List String) : Stage :=
  ⟨role, true, some (argumentsFor arguments packages select, manifest,
    packages), argumentsFor arguments packages select⟩

/-- The stages of groups of packages, without empty ones. -/
def stagesOf (arguments : List OsString) (manifest : String) (select : Bool)
    (groups : List (Role × List String)) : List Stage :=
  (groups.filter fun group => !group.2.isEmpty).map fun group =>
    groupStage arguments manifest select group.1 group.2

theorem adds_runGroup {select : Bool} :
    Adds (runGroup setup (argumentsFor arguments packages select) manifest
      role packages) (Stage.Runs setup
        (groupStage arguments manifest select role packages)) :=
  adds_stage (groupStage arguments manifest select role packages)
    adds_prepareGraph

theorem adds_finish {failed : Option ExitStatus} :
    Adds (finish failed : Session σ Unit) fun added result =>
      Ends setup [] failed added (exitCode result) := by
  cases failed with
  | none => exact .pure (.finished [] rfl .nil)
  | some status => exact .throw (.finished [] rfl .nil)

theorem adds_runGroups {select : Bool} {groups : List (Role × List String)}
    {failed : Option ExitStatus} :
    Adds (runGroups setup arguments manifest select groups failed)
      fun added result => Ends setup
        (stagesOf arguments manifest select groups) failed added
        (exitCode result) := by
  induction groups generalizing failed with
  | nil => exact adds_finish
  | cons group rest ih =>
      obtain ⟨role, packages⟩ := group
      unfold runGroups
      split
      · rename_i empty
        rw [stagesOf, List.filter_cons_of_neg (by simp [empty])]
        exact ih
      · rename_i filled
        rw [stagesOf, List.filter_cons_of_pos (by simp [filled]),
          List.map_cons]
        refine .andThen adds_runGroup ?_ ?_
        · rintro status earlier (⟨done, same, prepared, rfl, ended⟩ |
            ⟨_, -, failed⟩)
          · cases ended
            have asked : argumentsFor arguments packages select =
                done.stage.arguments := by
              rw [same]
              rfl
            rw [← same, asked]
            split
            · rename_i success
              refine ih.consequence fun added result ends =>
                .cons prepared (Or.inl success) ?_
              rw [failedAfter, if_pos success]
              exact ends
            · rename_i failure
              split
              · rename_i stops
                refine .throw ?_
                rw [List.append_nil]
                refine .stop prepared ?_
                rintro (success | goes)
                · exact failure success
                · simp [goes] at stops
              · rename_i goes
                refine ih.consequence fun added result ends =>
                  .cons prepared (Or.inr (by simpa using goes)) ?_
                rw [failedAfter, if_neg failure]
                exact ends
          · cases failed
        · rintro earlier stop (⟨_, -, -, -, failed⟩ | ⟨error, breaks, same⟩)
          · cases failed
          · cases same
            exact .breakFirst breaks

/-- A stage alone, whose status is that of the process. -/
theorem ends_exit {done : Done} (prepared : done.Prepared setup) :
    Ends setup [done.stage] none (done.entries setup)
      (codeOf done.status) := by
  have whole : entriesOf setup [done] = done.entries setup := by
    simp [entriesOf]
  cases success : done.status.success with
  | true =>
      have ends := @Ends.finished _ _ _ setup _ none [done] rfl
        (.cons prepared (Or.inl success) .nil)
      have zero : done.status.code = some 0 := by
        simpa [ExitStatus.success] using success
      rw [whole] at ends
      simpa [firstFailure, success, codeOf, zero] using ends
  | false =>
      by_cases goes : done.GoesOn
      · have ends := @Ends.finished _ _ _ setup _ none [done] rfl
          (.cons prepared goes .nil)
        rw [whole] at ends
        simpa [firstFailure, success] using ends
      · exact .stop prepared goes

theorem adds_exit {program : Session σ ExitStatus}
    (runs : Adds program (stage.Runs setup)) :
    Adds (program >>= exit) fun added result =>
      Ends setup [stage] none added (exitCode result) := by
  refine .bind runs (fun status => .throw ?_) ?_
  · rintro earlier (⟨done, rfl, prepared, rfl, ended⟩ | ⟨_, -, failed⟩)
    · cases ended
      rw [List.append_nil]
      exact ends_exit prepared
    · cases failed
  · rintro earlier stop (⟨_, -, -, -, failed⟩ | ⟨error, breaks, same⟩)
    · cases failed
    · cases same
      exact .breakFirst breaks

def singleStage (arguments interpreted : List OsString) (manifest : String)
    (info : ProjectInfo) (role : Role) : Stage :=
  ⟨role, role = .guest && info.workspaceMixed,
    some (interpreted, manifest, info.packageNames), arguments⟩

theorem adds_runSingle {info : ProjectInfo} {interpreted : List OsString} :
    Adds (runSingle setup arguments interpreted manifest info role)
      fun added result => Ends setup
        [singleStage arguments interpreted manifest info role] none
        added (exitCode result) := by
  have whole : runSingle setup arguments interpreted manifest info role =
      ((configure setup role (role = .guest && info.workspaceMixed) >>=
        fun config => prepareGraph setup.machine setup.editor interpreted
          manifest config info.packageNames >>= fun _ =>
        status setup.machine arguments (some config)) >>= exit) := by
    simp only [runSingle, runWith, bind_assoc]
  rw [whole]
  exact adds_exit (adds_stage
    (singleStage arguments interpreted manifest info role) adds_prepareGraph)

def remoteStage (arguments : List OsString) : Stage :=
  ⟨.host, false, none, arguments⟩

theorem adds_runRemote : Adds (runRemote setup arguments)
    fun added result => Ends setup [remoteStage arguments] none added
      (exitCode result) := by
  have whole : runRemote setup arguments =
      ((configure setup .host false >>= fun config =>
        pure () >>= fun _ =>
        status setup.machine arguments (some config)) >>= exit) := by
    simp only [runRemote, runWith, bind_assoc, pure_bind]
  have graphs : Adds (pure () : Session σ Unit)
      ((remoteStage arguments).Graphs setup) :=
    .pure ⟨rfl, rfl⟩
  rw [whole]
  exact adds_exit (adds_stage (remoteStage arguments) graphs)

end Stage

end Telekio.Wrapper
