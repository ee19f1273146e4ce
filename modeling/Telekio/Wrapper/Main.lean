import Telekio.Command.Expansion
import Telekio.Wrapper.Outcome

/-!
# Every run of the program

All ways through `run` of `telekio/src/main.rs`: each ends, only a command of
Cargo has the terminal, and only `init` and `remove` change a project.
-/

namespace Telekio.Wrapper

open Telekio.Command
open Telekio.Command.OsString
open Telekio.Disk
open Telekio.Journal
open Telekio.Patching

variable {σ json layout : Type} {setup : Setup σ json layout}

/-- The manifest of the workspace, as Cargo has printed it. -/
def Located (arguments : List OsString) (manifest : String)
    (asked : List Entry) : Prop :=
  ∃ output text,
    .output (manifestArguments arguments true) (some output) ∈ asked ∧
    output.status.success = true ∧ output.text = some text ∧
    manifest = trim text

theorem Located.mono {arguments : List OsString} {manifest : String}
    {asked more : List Entry} (located : Located arguments manifest asked)
    (inside : asked ⊆ more) : Located arguments manifest more := by
  obtain ⟨output, text, member, printed⟩ := located
  exact ⟨output, text, inside member, printed⟩

/-- What `init` and `remove` come to at a manifest, and how they end. The role
of the patch is the one of all packages in the workspace. -/
inductive Changes (setup : Setup σ json layout) (arguments : List OsString)
    (manifest : String) (asked : List Entry) :
    String → Files → Files → Except Stop Unit → Prop where
  | init {metadata : Json} {info : ProjectInfo} {role : Role} {root : Path}
      {document changed : Document layout} {before after : Files}
      (printed : Printed
        (metadataArguments (arguments ++ [ofString "--workspace"]) manifest
          none true) metadata asked)
      (informs : Informs (arguments ++ [ofString "--workspace"]) manifest
        metadata asked info) (one : info.role = some role)
      (inits : Inits setup.editor setup.tools setup.registry
        (setup.machine.pathOf manifest) role root document changed before
        after) :
      Changes setup arguments manifest asked "init" before after (.ok ())
  | remove {root : Path} {document final : Document layout}
      {before after : Files}
      (removes : Removes setup.editor (setup.machine.pathOf manifest) root
        document final before after) :
      Changes setup arguments manifest asked "remove" before after (.ok ())
  | failed {command : String} {before after : Files} {error : Error}
      (others : AgreeOutside (Project (setup.machine.pathOf manifest)) before
        after) :
      Changes setup arguments manifest asked command before after
        (.error (.error error))

/-- The first argument. -/
def commandOf (arguments : List OsString) : Option String :=
  arguments.head?.bind toStr

/-- What a run of the program writes down and how it ends. -/
inductive Outcome (setup : Setup σ json layout) (arguments : List OsString) :
    List Entry → Except Stop Unit → Prop where
  | misused (unknown : commandOf arguments ∉ [some "--help", some "-h",
      some "--version", some "-V", some "init", some "remove",
      some "cargo"]) :
      Outcome setup arguments [] (.error (.error (.message usage)))
  | help (asks : commandOf arguments ∈ [some "--help", some "-h"]) :
      Outcome setup arguments
        [.print "Usage: telekio <cargo|init|remove> [arguments]"] (.ok ())
  | version (asks : commandOf arguments ∈ [some "--version", some "-V"]) :
      Outcome setup arguments
        [.print ("telekio " ++ setup.tools.release.version)] (.ok ())
  | refused {asked : List Entry} {error : Error}
      (patch : commandOf arguments ∈ [some "init", some "remove"])
      (captures : Captures asked) (proper : error ≠ .panicked) :
      Outcome setup arguments asked (.error (.error error))
  | patched {command manifest : String} {asked : List Entry}
      {before after : Files} {result : Except Stop Unit}
      (patch : commandOf arguments = some command)
      (either : command = "init" ∨ command = "remove")
      (captures : Captures asked)
      (located : Located arguments.tail manifest asked)
      (changes : Changes setup arguments.tail manifest asked command before
        after result) :
      Outcome setup arguments (asked ++ [.disk before after]) result
  | unexpanded {text : String} {fuel : Nat}
      (cargo : commandOf arguments = some "cargo")
      (expands : expandAlias setup.configured arguments.tail fuel =
        some (.error text)) :
      Outcome setup arguments [] (.error (.error (.message text)))
  | cargo {interpreted : List OsString} {added : List Entry}
      {result : Except Stop Unit} {fuel : Nat}
      (cargo : commandOf arguments = some "cargo")
      (expands : expandAlias setup.configured arguments.tail fuel =
        some (.ok interpreted))
      (concludes : Concludes setup arguments.tail interpreted added result) :
      Outcome setup arguments added result

section Asking

variable {arguments : List OsString} {manifest command : String}
variable {asked : List Entry}

/-- What is asked, and then one change of the files; or an error before. -/
def Patched (setup : Setup σ json layout) (command : String)
    (arguments : List OsString) (added : List Entry)
    (result : Except Stop Unit) : Prop :=
  (Captures added ∧
    ∃ error, error ≠ .panicked ∧ result = .error (.error error)) ∨
  ∃ asked manifest before after, added = asked ++ [.disk before after] ∧
    Captures asked ∧ Located arguments manifest asked ∧
    Changes setup arguments manifest asked command before after result

theorem patched_of_refused {added : List Entry} {error : Error}
    (captures : Captures added) (proper : error ≠ .panicked) :
    Patched setup command arguments added (.error (.error error)) :=
  Or.inl ⟨captures, error, proper, rfl⟩

theorem answers_located :
    Adds (Wrapper.manifest setup.machine arguments true)
      (Answers fun added found => ∀ manifest, found = some manifest →
        Located arguments manifest added) := by
  unfold Wrapper.manifest
  split
  · exact answers_pure nofun
  · refine answers_bind answers_capture fun output earlier same => ?_
    split
    · rename_i success
      refine adds_orFail_bind (fun text printed => answers_pure ?_)
        ⟨asks_error nofun, nofun⟩
      rintro manifest chosen
      exact ⟨output, text, by simp [same], success, printed,
        (Option.some.inj chosen).symm⟩
    · exact answers_fail

theorem patched_remove (captures : Captures asked)
    (located : Located arguments manifest asked) :
    Adds (onDisk (remove setup.editor (setup.machine.pathOf manifest)) :
      Session σ Unit) fun added result =>
        Patched setup "remove" arguments (asked ++ added) result := by
  refine adds_onDisk.consequence ?_
  rintro added result ⟨world, left, rfl, ⟨value, ran, rfl⟩ |
    ⟨error, ran, rfl⟩⟩
  · obtain ⟨root, document, final, removes⟩ := removes_of_returned ran
    exact Or.inr ⟨asked, manifest, _, _, rfl, captures, located,
      .remove removes⟩
  · exact Or.inr ⟨asked, manifest, _, _, rfl, captures, located,
      .failed (preserves_remove.stopped ran (.refl _ _))⟩

theorem patched_init (captures : Captures asked)
    (located : Located arguments manifest asked) :
    Adds (runInit setup arguments manifest) fun added result =>
      Patched setup "init" arguments (asked ++ added) result := by
  refine adds_asking_bind (fun _ _ => patched_of_refused) captures
    answers_metadata fun metadata more further printed => ?_
  have known := captures_append.mpr ⟨captures, further⟩
  refine adds_asking_bind (fun _ _ => patched_of_refused) known
    answers_info fun info later asks informs => ?_
  have all := captures_append.mpr ⟨known, asks⟩
  refine adds_orFail_bind (fun role one => ?_) ?_
  · refine adds_onDisk.consequence ?_
    have found := located.mono (List.subset_append_left _ (more ++ later))
    rw [← List.append_assoc] at found
    rintro added result ⟨world, left, rfl, ⟨value, ran, rfl⟩ |
      ⟨error, ran, rfl⟩⟩
    · obtain ⟨root, document, changed, inits⟩ := inits_of_returned ran
      refine Or.inr ⟨_, manifest, _, _, rfl, all, found,
        .init (printed.mono ?_) (informs.mono ?_) one inits⟩
      · rw [List.append_assoc]
        exact fun entry member => List.mem_append_right _
          (List.mem_append_left _ member)
      · exact List.subset_append_right _ _
    · exact Or.inr ⟨_, manifest, _, _, rfl, all, found,
        .failed (preserves_init.stopped ran (.refl _ _))⟩
  · rw [List.append_nil]
    exact patched_of_refused all nofun

theorem adds_runPatch (either : command = "init" ∨ command = "remove") :
    Adds (runPatch setup command arguments)
      (Patched setup command arguments) := by
  refine @adds_asking_bind σ _ _ _ _ [] _ (Patched setup command arguments)
    (fun _ _ => patched_of_refused) captures_nil answers_located ?_
  intro found more captures located
  refine adds_orFail_bind (fun manifest same => ?_) ?_
  · rcases either with rfl | rfl
    · exact patched_init captures (located manifest same)
    · exact patched_remove captures (located manifest same)
  · rw [List.append_nil]
    exact patched_of_refused captures nofun

end Asking

theorem exists_expandAlias (cargo : Configured) (arguments : List OsString) :
    ∃ outcome enough, ∀ fuel, enough < fuel →
      expandAlias cargo arguments fuel = some outcome := by
  by_cases plain : (operation arguments).all builtin
  · exact ⟨_, 0, fun fuel _ => by rw [expandAlias, if_pos plain]⟩
  · cases asked : config cargo arguments none with
    | error error =>
        exact ⟨_, 0, fun fuel _ => by rw [expandAlias, if_neg plain, asked]⟩
    | ok configuration =>
        obtain ⟨outcome, returns, -⟩ := Visits.exists_outcome
          (.error recursive) arguments (aliasTurn_mem asked)
        refine ⟨outcome, (aliasNames cargo configuration).length,
          fun fuel enough => ?_⟩
        rw [expandAlias, if_neg plain, asked]
        exact returns fuel enough

section Run

variable {arguments rest : List OsString} {first : OsString} {fuel : Nat}

theorem outcome_patch {command : String}
    (patch : commandOf arguments = some command)
    (either : command = "init" ∨ command = "remove") :
    Adds (runPatch setup command arguments.tail)
      (Outcome setup arguments) := by
  refine (adds_runPatch either).consequence ?_
  rintro added result (⟨captures, error, proper, rfl⟩ | ⟨asked, manifest,
    before, after, rfl, captures, located, changes⟩)
  · refine .refused ?_ captures proper
    rw [patch]
    rcases either with rfl | rfl
    · decide
    · decide
  · exact .patched patch either captures located changes

theorem outcome_cargo {expanded : Except String (List OsString)}
    (cargo : commandOf arguments = some "cargo")
    (expands : expandAlias setup.configured arguments.tail fuel =
      some expanded) :
    Adds (ofExcept expanded >>= fun interpreted =>
        runCargo setup arguments.tail interpreted)
      (Outcome setup arguments) := by
  cases expanded with
  | error text => exact .throw (.unexpanded cargo expands)
  | ok interpreted =>
      exact adds_runCargo.consequence fun _ _ concludes =>
        .cargo cargo expands concludes

theorem outcome_print {text : String}
    (prints : Outcome setup arguments [.print text] (.ok ())) :
    Adds (print text : Session σ Unit) (Outcome setup arguments) := by
  refine Adds.perform.consequence ?_
  rintro added result ⟨⟨⟩, rfl, rfl⟩
  exact prints

/-- The first argument alone chooses between the ways. -/
theorem run_cons (setup : Setup σ json layout) {command : String}
    (text : first.toStr = some command)
    (enough : ∃ expanded,
      expandAlias setup.configured rest fuel = some expanded) :
    ∃ program, Wrapper.run setup fuel (first :: rest) = some program ∧
      Adds program (Outcome setup (first :: rest)) := by
  have head : commandOf (first :: rest) = some command := text
  simp only [Wrapper.run, text]
  split
  · rename_i help
    exact ⟨_, rfl, outcome_print (.help (by simpa [head] using help))⟩
  · rename_i noHelp
    split
    · rename_i version
      exact ⟨_, rfl, outcome_print (.version (by simpa [head] using version))⟩
    · rename_i noVersion
      split
      · rename_i patch
        exact ⟨_, rfl, outcome_patch head (by simpa using patch)⟩
      · rename_i noPatch
        split
        · rename_i noCargo
          refine ⟨_, rfl, .throw (.misused ?_)⟩
          simp only [Bool.or_eq_true, decide_eq_true_eq, not_or]
            at noHelp noVersion noPatch
          simp [head, noHelp, noVersion, noPatch, noCargo]
        · rename_i cargo
          obtain ⟨expanded, expands⟩ := enough
          rw [expands]
          exact ⟨_, rfl, outcome_cargo (head.trans
            (congrArg some (not_not.mp cargo))) expands⟩

/-- Every call of the program ends: it says how it is used, or its version; or
it asks, and then `init` or `remove` changes the manifest and the patch beside
it, and nothing else; or it carries out a command of Cargo, in the arguments
that aliases are expanded in; or it stops with an error, having only asked. -/
theorem run_outcome (setup : Setup σ json layout)
    (arguments : List OsString) :
    ∃ enough, ∀ fuel, enough < fuel → ∃ program,
      Wrapper.run setup fuel arguments = some program ∧
        Adds program (Outcome setup arguments) := by
  cases arguments with
  | nil =>
      refine ⟨0, fun _ _ => ⟨_, rfl, .throw (.misused ?_)⟩⟩
      simp [commandOf]
  | cons first rest =>
      obtain ⟨expanded, enough, returns⟩ :=
        exists_expandAlias setup.configured rest
      refine ⟨enough, fun fuel more => ?_⟩
      cases text : first.toStr with
      | none =>
          refine ⟨fail usage, by simp only [Wrapper.run, text],
            .throw (.misused ?_)⟩
          simp [commandOf, text]
      | some command =>
          exact run_cons setup text ⟨expanded, returns fuel more⟩

end Run

end Telekio.Wrapper
