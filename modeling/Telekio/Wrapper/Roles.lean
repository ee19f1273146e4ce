import Telekio.Wrapper.Stages

/-!
# Roles of what is run

Every run of `telekio cargo` is a run of planned stages, whatever Cargo
answers and changes; and no command is run with a patch that is not for the
packages it is run for.
-/

namespace Telekio.Wrapper

open Telekio.Command
open Telekio.Command.OsString
open Telekio.Disk
open Telekio.Journal
open Telekio.Patching (Role)

variable {σ json layout : Type}

/-- A command of Cargo was run that printed the metadata of a project. -/
def Printed (command : List OsString) (metadata : Json)
    (asked : List Entry) : Prop :=
  ∃ output, .output command (some output) ∈ asked ∧
    output.json = some metadata

theorem Printed.mono {command : List OsString} {metadata : Json}
    {asked more : List Entry} (printed : Printed command metadata asked)
    (inside : asked ⊆ more) : Printed command metadata more := by
  obtain ⟨output, member, same⟩ := printed
  exact ⟨output, inside member, same⟩

/-- The command that asks for the metadata of the project as it is. -/
def plainMetadata (interpreted : List OsString) (manifest : String) :
    List OsString :=
  metadataArguments interpreted manifest none false

/-- A command that is run once for each role: with the packages of the role
selected, or as it is if it compiles nothing. -/
def Splits (interpreted : List OsString) (info : ProjectInfo)
    (select : Bool) : Prop :=
  ∃ command, operation interpreted = some command ∧
    (select = true ∧ kind command = some .packages ∧
        info.workspaceSelection = true ∨
      select = false ∧ (command = "tree" ∨ kind command = some .workspace))

/-- The stages for a command. -/
inductive Planned (arguments interpreted : List OsString)
    (asked : List Entry) : List Stage → Prop where
  | remote (install : operation interpreted = some "install")
      (noPath : hasOption interpreted "--path" = false) :
      Planned arguments interpreted asked [remoteStage arguments]
  | single {manifest : String} {metadata : Json} {info : ProjectInfo}
      {role : Role}
      (printed : Printed (plainMetadata interpreted manifest) metadata asked)
      (informs : Informs interpreted manifest metadata asked info)
      (one : info.role = some role) :
      Planned arguments interpreted asked
        [singleStage arguments interpreted manifest info role]
  | both {manifest : String} {metadata : Json} {info : ProjectInfo}
      {select : Bool}
      (printed : Printed (plainMetadata interpreted manifest) metadata asked)
      (informs : Informs interpreted manifest metadata asked info)
      (two : info.role = none) (splits : Splits interpreted info select) :
      Planned arguments interpreted asked
        (stagesOf interpreted manifest select
          [(.host, info.host), (.guest, info.guest)])

/-- A command that no patch matters for: it builds nothing, or nothing in the
project is a Tokio that is patched. -/
def Unpatched (machine : Machine σ) (arguments interpreted : List OsString)
    (asked : List Entry) : Prop :=
  isPlain arguments interpreted = true ∨
    ∃ manifest metadata files,
      Printed (plainMetadata interpreted manifest) metadata asked ∧
      .disk files files ∈ asked ∧
      ∀ package ∈ (arrayOf metadata "packages").getD [],
        isTokio package = true →
          cratesIo package = false ∧
            generatedPatch machine files package = false

/-- What a run writes down and how it ends. Before anything is run, Cargo is
only asked. -/
inductive Concludes (setup : Setup σ json layout)
    (arguments interpreted : List OsString) :
    List Entry → Except Stop Unit → Prop where
  | refused {asked : List Entry} {error : Error}
      (captures : Captures asked) (proper : error ≠ .panicked) :
      Concludes setup arguments interpreted asked (.error (.error error))
  | untouched {asked : List Entry} {status : ExitStatus}
      (captures : Captures asked)
      (unpatched : Unpatched setup.machine arguments interpreted asked) :
      Concludes setup arguments interpreted
        (asked ++ [.status (statusArguments arguments none) (some status)])
        (.error (.exit (codeOf status)))
  | unstarted {asked : List Entry} (captures : Captures asked)
      (unpatched : Unpatched setup.machine arguments interpreted asked) :
      Concludes setup arguments interpreted
        (asked ++ [.status (statusArguments arguments none) none])
        (.error (.error .io))
  | staged {asked added : List Entry} {stages : List Stage}
      {result : Except Stop Unit} (captures : Captures asked)
      (planned : Planned arguments interpreted asked stages)
      (ends : Ends setup stages none added (exitCode result)) :
      Concludes setup arguments interpreted (asked ++ added) result

section Run

variable {setup : Setup σ json layout} {arguments interpreted : List OsString}
variable {asked : List Entry} {manifest : String} {metadata : Json}
variable {info : ProjectInfo}

/-- What is written down after what was asked. -/
abbrev After (setup : Setup σ json layout)
    (arguments interpreted : List OsString) (asked : List Entry)
    (added : List Entry) (result : Except Stop Unit) : Prop :=
  Concludes setup arguments interpreted (asked ++ added) result

theorem adds_runWith_none (captures : Captures asked)
    (unpatched : Unpatched setup.machine arguments interpreted asked) :
    Adds (runWith setup arguments none)
      (After setup arguments interpreted asked) := by
  refine .bind adds_spawn (fun status => .throw ?_) ?_
  · rintro earlier (⟨found, rfl, same⟩ | ⟨-, failed⟩)
    · cases same
      exact .untouched captures unpatched
    · cases failed
  · rintro earlier stop (⟨_, -, failed⟩ | ⟨rfl, same⟩)
    · cases failed
    · cases same
      exact .unstarted captures unpatched

theorem adds_runBoth {select : Bool} (captures : Captures asked)
    (printed : Printed (plainMetadata interpreted manifest) metadata asked)
    (informs : Informs interpreted manifest metadata asked info)
    (two : info.role = none)
    (splits : Splits interpreted info select) :
    Adds (runBoth setup interpreted manifest info select)
      (After setup arguments interpreted asked) :=
  adds_runGroups.consequence fun _ _ ends =>
    .staged captures (.both printed informs two splits) ends

theorem adds_refuse {text : String} (captures : Captures asked) :
    Adds (fail text : Session σ Unit)
      (After setup arguments interpreted asked) := by
  refine .throw ?_
  rw [After, List.append_nil]
  exact .refused captures nofun

/-- Commands that compile one package, or give one output, are refused. -/
theorem adds_runMixed (building : isPlain arguments interpreted = false)
    (captures : Captures asked)
    (printed : Printed (plainMetadata interpreted manifest) metadata asked)
    (informs : Informs interpreted manifest metadata asked info)
    (two : info.role = none) :
    Adds (runMixed setup interpreted manifest info)
      (After setup arguments interpreted asked) := by
  unfold runMixed
  cases command : operation interpreted with
  | none => exact adds_refuse captures
  | some name =>
      dsimp only
      cases found : kind name with
      | none => exact adds_refuse captures
      | some sort =>
          cases sort with
          | packages =>
              dsimp only [Option.getD_some]
              split
              · rename_i selection
                exact adds_runBoth captures printed informs two
                  ⟨_, command, Or.inl ⟨rfl, found, selection⟩⟩
              · split
                · rename_i tree
                  exact adds_runBoth captures printed informs two
                    ⟨_, command, Or.inr ⟨rfl, Or.inl tree⟩⟩
                · exact adds_refuse captures
          | workspace =>
              exact adds_runBoth captures printed informs two
                ⟨_, command, Or.inr ⟨rfl, Or.inr found⟩⟩
          | single => exact adds_refuse captures
          | output => exact adds_refuse captures
          | plain => simp [isPlain, command, found] at building

theorem adds_runInfo (building : isPlain arguments interpreted = false)
    (captures : Captures asked)
    (printed : Printed (plainMetadata interpreted manifest) metadata asked)
    (informs : Informs interpreted manifest metadata asked info) :
    Adds (runInfo setup arguments interpreted manifest info)
      (After setup arguments interpreted asked) := by
  unfold runInfo
  cases found : info.role with
  | none => exact adds_runMixed building captures printed informs found
  | some role =>
      exact adds_runSingle.consequence fun _ _ ends =>
        .staged captures (.single printed informs found) ends

/-- A part that only asks Cargo, before the rest. -/
theorem adds_asked_bind {α : Type} {program : Session σ α}
    {next : α → Session σ Unit} {holds : List Entry → α → Prop}
    (captures : Captures asked) (first : Adds program (Answers holds))
    (second : ∀ value more, Captures more → holds more value →
      Adds (next value) (After setup arguments interpreted
        (asked ++ more))) :
    Adds (program >>= next) (After setup arguments interpreted asked) :=
  adds_asking_bind (fun _ _ => .refused) captures first second

theorem adds_runUsed (building : isPlain arguments interpreted = false)
    (captures : Captures asked)
    (printed : Printed (plainMetadata interpreted manifest) metadata asked) :
    Adds (usesTokio setup.machine metadata >>= fun uses =>
      if uses then
        Wrapper.info setup.machine interpreted manifest metadata >>=
          fun info => runInfo setup arguments interpreted manifest info
      else
        runWith setup arguments none)
      (After setup arguments interpreted asked) := by
  refine adds_query_bind fun files => ?_
  have read : Captures (asked ++ [.disk files files]) :=
    captures_append.mpr ⟨captures, captures_singleton rfl⟩
  have later : ∀ {program : Session σ Unit},
      Adds program (After setup arguments interpreted
        (asked ++ [.disk files files])) →
      Adds program fun added result => After setup arguments interpreted
        asked (.disk files files :: added) result := by
    intro program adds
    refine adds.consequence fun added result concludes => ?_
    rwa [After, List.append_assoc, List.singleton_append] at concludes
  split
  · refine later (adds_asked_bind read answers_info ?_)
    intro found more further informs
    refine adds_runInfo building (captures_append.mpr ⟨read, further⟩) ?_
      (informs.mono (List.subset_append_right _ _))
    rw [List.append_assoc]
    exact printed.mono (List.subset_append_left _ _)
  · rename_i unused
    refine later (adds_runWith_none read (Or.inr ⟨manifest, metadata, files,
      printed.mono (List.subset_append_left _ _), by simp, ?_⟩))
    intro package member tokio
    simp only [List.any_eq_true, not_exists, not_and] at unused
    have other := unused package member
    simp only [isTokio, decide_eq_true_eq] at tokio
    simpa [tokio] using other

theorem answers_metadata {command : List OsString} {noDeps : Bool} :
    Adds (Wrapper.metadata setup.machine command manifest none noDeps)
      (Answers fun added found => Printed
        (metadataArguments command manifest none noDeps) found added) := by
  refine (asks_metadata.and adds_metadata).consequence ?_
  rintro added result ⟨asks, answer, rfl, ended⟩
  refine ⟨asks, ?_⟩
  rintro found rfl
  rcases ended with ⟨output, other, rfl, printed, same⟩ | ⟨_, failed⟩
  · cases same
    exact ⟨output, List.mem_singleton_self _, printed⟩
  · cases failed

theorem adds_runProject (building : isPlain arguments interpreted = false)
    (captures : Captures asked) :
    Adds (runProject setup arguments interpreted manifest)
      (After setup arguments interpreted asked) :=
  adds_asked_bind captures answers_metadata fun _ _ further printed =>
    adds_runUsed building (captures_append.mpr ⟨captures, further⟩)
      (printed.mono (List.subset_append_right _ _))

theorem answers_manifest :
    Adds (Wrapper.manifest setup.machine interpreted false)
      (Answers fun _ found => found = none →
        operation interpreted = some "install" ∧
          hasOption interpreted "--path" = false) := by
  unfold Wrapper.manifest
  split
  · rename_i install
    simp only [Bool.and_eq_true, decide_eq_true_eq,
      Bool.not_eq_eq_eq_not, Bool.not_true] at install
    exact answers_pure fun _ => install
  · refine answers_bind answers_capture fun output _ _ => ?_
    split
    · exact adds_orFail_bind (fun text _ => answers_pure nofun)
        ⟨asks_error nofun, nofun⟩
    · exact answers_fail

/-- Every run of a command of Cargo, whatever Cargo answers and changes:
nothing is run before the plan is known; then either the command is run as it
is, because no patch matters for it, and its status is that of the process; or
stages are run in order, each after its patch and its graph are prepared, and
the code of the process is that of the first failure of the stages; or the
wrapper stops with an error and nothing is run. -/
theorem adds_runCargo :
    Adds (runCargo setup arguments interpreted)
      (Concludes setup arguments interpreted) := by
  unfold runCargo
  have start : Captures [] := captures_nil
  split
  · rename_i plain
    exact adds_runWith_none start (Or.inl plain)
  · rename_i building
    refine adds_asked_bind start answers_manifest ?_
    intro found more further missing
    cases found with
    | none =>
        obtain ⟨install, noPath⟩ := missing rfl
        exact adds_runRemote.consequence fun _ _ ends =>
          .staged further (.remote install noPath) ends
    | some manifest =>
        exact adds_runProject (Bool.eq_false_iff.mpr building) further

end Run

end Telekio.Wrapper
