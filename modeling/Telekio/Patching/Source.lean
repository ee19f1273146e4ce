import Telekio.Disk.Frames
import Telekio.Text.Search

/-!
# Preparing the source of Tokio

`prepare_package`, `package_source` and `copy_directory` of
`telekio-build/src/source.rs`: a package of its own that depends on Tokio is
made in the cache, Cargo resolves it, and the source that it names is copied.
What Cargo answers and what is in its registry are parameters.
-/

namespace Telekio.Patching

open Telekio.Disk

/-- What is in the directory of a package. -/
inductive Node where
  | file (contents : ByteArray)
  | directory (entries : List (String × Node))
  | other

/-- A package of `cargo metadata`, with what is next to its manifest. -/
structure Package (json : Type) where
  name : Option String
  version : Option String
  source : Option String
  directory : Option (List (String × Node))
  features : json

/-- What `cargo generate-lockfile` writes and the packages that
`cargo metadata` answers with. -/
structure Cargo (json : Type) where
  lockfile : ByteArray
  packages : List (Package json)

variable {json : Type} (cargo : Cargo json)

def tokioVersion : String :=
  "1.53.1"

def isSelected (package version : String) (candidate : Package json) : Bool :=
  candidate.name = some package && candidate.version = some version &&
    candidate.source.any fun source => "registry+".toList <+: source.toList

/-- A command that changes no file that matters here. -/
def runMetadata : Effect Unit :=
  Effect.change (.message "cargo metadata failed")
    (fun _ files => files) some

def packageSource (package version : String) :
    Effect (List (String × Node) × json) := do
  runMetadata
  match cargo.packages.filter (isSelected package version) with
  | [selected] =>
      let directory ← Effect.okOr selected.directory
        (.message "registry package has no manifest path")
      return (directory, selected.features)
  | _ =>
      throw (.message "Cargo metadata must select one registry package")

mutual

/-- One entry of a directory that is copied. -/
def copyNode (name : String) (destination : Path) : Node → Effect Unit
  | .file contents =>
      if name = ".git" then pure ()
      else Effect.write (destination ++ [name]) contents
  | .directory entries =>
      if name = ".git" then pure ()
      else do
        Effect.createDirAll (destination ++ [name])
        copyEntries (destination ++ [name]) entries
  | .other =>
      if name = ".git" then pure ()
      else throw (.message "unsupported package source entry")

def copyEntries (destination : Path) :
    List (String × Node) → Effect Unit
  | [] => pure ()
  | (name, node) :: rest => do
      copyNode name destination node
      copyEntries destination rest

end

def copyDirectory (source : List (String × Node)) (destination : Path) :
    Effect Unit := do
  Effect.createDirAll destination
  copyEntries destination source

def sourceManifest (package version : String) : String :=
  "[package]\nname = \"telekio-" ++ package ++ "-source\"\n" ++
  "version = \"0.0.0\"\nedition = \"2024\"\n\n[workspace]\n\n" ++
  "[dependencies]\n" ++ package ++ " = \"=" ++ version ++ "\"\n"

/-- The manifest of the package that depends on Tokio, made or amended. -/
def ensureManifest (package version : String) (out : Path) : Effect Unit := do
  let present ← Effect.query fun files => isFile files (out ++ ["Cargo.toml"])
  if present then
    let source ← Effect.readToString (out ++ ["Cargo.toml"])
    if Text.contains source "[workspace]" then
      pure ()
    else
      Effect.write (out ++ ["Cargo.toml"])
        (source ++ "\n[workspace]\n").toUTF8
  else
    Effect.write (out ++ ["Cargo.toml"])
      (sourceManifest package version).toUTF8
    Effect.write (out ++ ["src", "lib.rs"]) "".toUTF8

def ensureLockfile (out : Path) : Effect Unit := do
  let present ← Effect.query fun files => isFile files (out ++ ["Cargo.lock"])
  if present then
    pure ()
  else
    Effect.write (out ++ ["Cargo.lock"]) cargo.lockfile

def removeDirectory (path : Path) : Effect Unit := do
  let present ← Effect.query fun files => isDirectory files path
  if present then
    Effect.removeDirAll path
  else
    pure ()

/-- The directory of the package that depends on Tokio. -/
def outOf (output : Path) (package version : String) : Path :=
  output ++ [package ++ "-source-" ++ version]

def destinationOf (output : Path) (package version : String) : Path :=
  output ++ [package ++ "-" ++ version]

/-- The part of `prepare_package` after its directory is made. -/
def fillCache (output : Path) (package version : String) :
    Effect (Path × json) := do
  ensureManifest package version (outOf output package version)
  ensureLockfile cargo (outOf output package version)
  let (source, features) ← packageSource cargo package version
  removeDirectory (destinationOf output package version)
  copyDirectory source (destinationOf output package version)
  return (destinationOf output package version, features)

def preparePackage (output : Path) (package version : String) :
    Effect (Path × json) := do
  Effect.createDirAll (outOf output package version ++ ["src"])
  fillCache cargo output package version

def prepareTokioIn (output : Path) : Effect (Path × json) :=
  preparePackage cargo output "tokio" tokioVersion

end Telekio.Patching
