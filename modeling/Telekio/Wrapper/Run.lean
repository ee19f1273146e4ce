import Telekio.Patching.Removal
import Telekio.Wrapper.Graph

/-!
# The wrapper

`run`, `run_groups` and `main` of `telekio/src/main.rs`. Where the packages
that a command of Cargo selects have one role, the command is run with the
patch for that role; where they have both, it is run once for each role, or
refused.
-/

namespace Telekio.Wrapper

open Telekio.Command
open Telekio.Command.OsString
open Telekio.Disk
open Telekio.Journal
open Telekio.Patching (Role Editor Tools)

variable {σ json layout : Type}

/-- What the wrapper runs with: Cargo, the editor of documents, and what the
patches are made with. -/
structure Setup (σ json layout : Type) where
  machine : Machine σ
  configured : Configured
  editor : Editor layout
  tools : Tools json
  registry : Patching.Cargo json

variable (setup : Setup σ json layout)

def configure (role : Role) (mixed : Bool) : Session σ Path :=
  onDisk (prepareConfig setup.tools setup.registry setup.machine.tempDir role
    mixed)

/-- The arguments for the packages of one group. -/
def argumentsFor (arguments : List OsString) (packages : List String)
    (select : Bool) : List OsString :=
  if select then packageArguments arguments packages else arguments

def keepsGoing (arguments : List OsString) : Bool :=
  hasOption arguments "--keep-going" || hasOption arguments "--no-fail-fast"

/-- The command of one group: its patch, its graph, and its run. -/
def runGroup (arguments : List OsString) (manifest : String) (role : Role)
    (packages : List String) : Session σ ExitStatus := do
  let config ← configure setup role true
  prepareGraph setup.machine setup.editor arguments manifest config packages
  status setup.machine arguments (some config)

/-- The end of `run_groups`: the first failure is that of all. -/
def finish (failed : Option ExitStatus) : Session σ Unit :=
  match failed with
  | some status => exit status
  | none => pure ()

/-- The loop of `run_groups`. -/
def runGroups (arguments : List OsString) (manifest : String)
    (select : Bool) :
    List (Role × List String) → Option ExitStatus → Session σ Unit
  | [], failed => finish failed
  | (role, packages) :: rest, failed =>
      if packages.isEmpty then
        runGroups arguments manifest select rest failed
      else do
        let status ← runGroup setup
          (argumentsFor arguments packages select) manifest role packages
        if status.success then
          runGroups arguments manifest select rest failed
        else if !keepsGoing (argumentsFor arguments packages select) then
          exit status
        else
          runGroups arguments manifest select rest (failed.or (some status))

def runBoth (arguments : List OsString) (manifest : String)
    (info : ProjectInfo) (select : Bool) : Session σ Unit :=
  runGroups setup arguments manifest select
    [(.host, info.groups.1), (.guest, info.groups.2)] none

/-- A command that is run as it is, or with a configuration, and whose status
is that of the process. -/
def runWith (arguments : List OsString) (config : Option Path) :
    Session σ Unit := do
  let status ← status setup.machine arguments config
  exit status

def cannotDetermine : String :=
  "this Cargo extension cannot determine mixed Telekio package selection; " ++
    "select one role"

def requiresOneRole (operation : String) : String :=
  "`cargo " ++ operation ++ "` requires packages from one Telekio role; " ++
    "select one package"

def cannotCombine (operation : String) : String :=
  "`cargo " ++ operation ++ "` cannot combine Telekio host and guest " ++
    "dependency graphs; select one package role"

/-- The packages have both roles. -/
def runMixed (interpreted : List OsString) (manifest : String)
    (info : ProjectInfo) : Session σ Unit :=
  match operation interpreted with
  | none => fail cannotDetermine
  | some operation =>
      match (kind operation).getD .output with
      | .packages =>
          if info.workspaceSelection then
            runBoth setup interpreted manifest info true
          else if operation = "tree" then
            runBoth setup interpreted manifest info false
          else
            fail (cannotCombine operation)
      | .workspace => runBoth setup interpreted manifest info false
      | .single => fail (requiresOneRole operation)
      | .output => fail (cannotCombine operation)
      | .plain => throw (.error .panicked)

/-- The packages have one role. -/
def runSingle (arguments interpreted : List OsString) (manifest : String)
    (info : ProjectInfo) (role : Role) : Session σ Unit := do
  let config ← configure setup role (role = .guest && info.workspaceMixed)
  prepareGraph setup.machine setup.editor interpreted manifest config
    info.packageNames
  runWith setup arguments (some config)

def runInfo (arguments interpreted : List OsString) (manifest : String)
    (info : ProjectInfo) : Session σ Unit :=
  match info.role with
  | some role => runSingle setup arguments interpreted manifest info role
  | none => runMixed setup interpreted manifest info

def runProject (arguments interpreted : List OsString) (manifest : String) :
    Session σ Unit := do
  let metadata ← metadata setup.machine interpreted manifest none false
  let uses ← usesTokio setup.machine metadata
  if uses then do
    let info ← info setup.machine interpreted manifest metadata
    runInfo setup arguments interpreted manifest info
  else
    runWith setup arguments none

/-- There is no manifest: a package is installed that is in no project. -/
def runRemote (arguments : List OsString) : Session σ Unit := do
  let config ← configure setup .host false
  runWith setup arguments (some config)

/-- A command that builds nothing. -/
def isPlain (arguments interpreted : List OsString) : Bool :=
  (operation interpreted).all (kind · = some .plain) ||
    hasOption arguments "--help" || hasOption arguments "-h"

/-- `telekio cargo`, after aliases are expanded. -/
def runCargo (arguments interpreted : List OsString) : Session σ Unit :=
  if isPlain arguments interpreted then
    runWith setup arguments none
  else do
    let manifest ← manifest setup.machine interpreted false
    match manifest with
    | none => runRemote setup arguments
    | some manifest => runProject setup arguments interpreted manifest

def bothRoles : String :=
  "a persistent Tokio patch cannot represent both Telekio host and guest " ++
    "packages; use `telekio cargo` for this workspace"

/-- `telekio init`. -/
def runInit (arguments : List OsString) (manifest : String) :
    Session σ Unit := do
  let metadata ← metadata setup.machine
    (arguments ++ [ofString "--workspace"]) manifest none true
  let info ← info setup.machine (arguments ++ [ofString "--workspace"])
    manifest metadata
  let role ← orFail info.role bothRoles
  onDisk (Patching.init setup.editor setup.tools setup.registry
    (setup.machine.pathOf manifest) role)

/-- `telekio init` and `telekio remove`. -/
def runPatch (command : String) (arguments : List OsString) :
    Session σ Unit := do
  let found ← manifest setup.machine arguments true
  let manifest ← orFail found "Cargo.toml was not found"
  if command = "init" then
    runInit setup arguments manifest
  else
    onDisk (Patching.remove setup.editor (setup.machine.pathOf manifest))

def usage : String :=
  "usage: telekio <cargo|init|remove> [arguments]"

def print (text : String) : Session σ Unit :=
  perform (fun state => ((), state)) fun _ => .print text

/-- `run`, where the fuel bounds the turns of the expansion of aliases. -/
def run (fuel : Nat) (arguments : List OsString) :
    Option (Session σ Unit) :=
  match arguments with
  | [] => some (fail usage)
  | first :: rest =>
      match first.toStr with
      | none => some (fail usage)
      | some command =>
          if command = "--help" || command = "-h" then
            some (print "Usage: telekio <cargo|init|remove> [arguments]")
          else if command = "--version" || command = "-V" then
            some (print ("telekio " ++ setup.tools.release.version))
          else if command = "init" || command = "remove" then
            some (runPatch setup command rest)
          else if command ≠ "cargo" then
            some (fail usage)
          else
            (expandAlias setup.configured rest fuel).map fun expanded => do
              let interpreted ← ofExcept expanded
              runCargo setup rest interpreted

/-- How `main` ends the process: an error is code 1, a panic 101. -/
def exitCode : Except Stop Unit → Int
  | .ok () => 0
  | .error (.exit code) => code
  | .error (.error .panicked) => 101
  | .error (.error _) => 1

end Telekio.Wrapper
