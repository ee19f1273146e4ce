import Telekio.Packages.Reachable
import Telekio.Wrapper.Session

/-!
# Packages and roles

`info`, `package_role`, `selected_packages` and `uses_tokio` of
`telekio/src/project.rs`: which packages a command selects, and which role
each of them has.
-/

namespace Telekio.Wrapper

open Telekio.Command
open Telekio.Disk
open Telekio.Journal
open Telekio.Patching (Role generatedText)

def isNull : Json → Bool
  | .null => true
  | _ => false

def arrayOf (value : Json) (key : String) : Option (List Json) :=
  (value.index key).asArray

def textOf (value : Json) (key : String) : Option String :=
  (value.index key).asStr

structure ProjectInfo where
  host : List String
  guest : List String
  workspaceSelection : Bool
  workspaceMixed : Bool

namespace ProjectInfo

def role (info : ProjectInfo) : Option Role :=
  match info.host.isEmpty, info.guest.isEmpty with
  | false, true => some .host
  | true, false => some .guest
  | _, _ => none

def packageNames (info : ProjectInfo) : List String :=
  info.host ++ info.guest

def groups (info : ProjectInfo) : List String × List String :=
  (info.host, info.guest)

end ProjectInfo

def isHostDependency (dependency : Json) : Bool :=
  textOf dependency "name" = some "telekio-host" ||
    textOf dependency "rename" = some "telekio-host" ||
    textOf dependency "rename" = some "telekio_host"

/-- The loop of `package_role`. -/
def roleFrom (guest : Bool) : List Json → Role
  | [] => if guest then .guest else .host
  | dependency :: rest =>
      if isHostDependency dependency then .host
      else roleFrom
        (guest || textOf dependency "name" = some "telekio-abi") rest

def packageRole (package : Json) : Role :=
  roleFrom false (((arrayOf package "dependencies").getD []).filter
    fun dependency => isNull (dependency.index "kind"))

def cratesIo (package : Json) : Bool :=
  (textOf package "source").any (Text.contains · "crates.io-index")

variable {σ : Type} (machine : Machine σ)

def generatedPatch (files : Files) (package : Json) : Bool :=
  (((textOf package "manifest_path").map machine.pathOf).bind
    (readText files)).any fun manifest =>
      (Text.lines manifest).any (Text.contains · generatedText)

def usesTokio (metadata : Json) : Session σ Bool :=
  query fun files => ((arrayOf metadata "packages").getD []).any fun package =>
    textOf package "name" = some "tokio" &&
      (cratesIo package || generatedPatch machine files package)

def packageSelectsWorkspace (operation : String) : Bool :=
  operation ≠ "install" &&
    (kind operation = some .packages || kind operation = some .single)

def isId (id : String) (value : Json) : Bool :=
  value.asStr = some id

/-- The ids of the members of the workspace with some names. An id that is no
text is left out in any case. -/
def memberIds (packages members : List Json) (names : List String) :
    List String :=
  packages.filterMap fun package =>
    match textOf package "id" with
    | some id =>
        if members.any (isId id) &&
            (textOf package "name").any (· ∈ names) then
          some id
        else
          none
    | none => none

/-- The packages that are named, if all of them are in the workspace. -/
def namedPackages (arguments : List OsString) (manifest : String)
    (packages members : List Json) (selected : List String) :
    Session σ (List String × Bool) := do
  let names ← selectedPackages machine arguments manifest
  let ids := memberIds packages members names
  if ids.length = names.length then
    pure (ids, true)
  else
    pure (selected, false)

def nonemptySelection (selection : List String × Bool) :
    Session σ (List String × Bool) :=
  if selection.1.isEmpty then
    fail "Cargo package selection matched no packages"
  else
    pure selection

/-- The members that are meant if no package is named. -/
def candidates (arguments : List OsString) (metadata : Json)
    (members : List Json) : Session σ (List Json) :=
  if hasOption arguments "--workspace" || hasOption arguments "--all" then
    pure members
  else
    orFail (arrayOf metadata "workspace_default_members")
      "Cargo metadata has no default workspace members"

def selectsNamed (arguments : List OsString) : Bool :=
  (operation arguments).any packageSelectsWorkspace &&
    (!(optionValues ["-p", "--package"] arguments).isEmpty ||
      hasOption arguments "--exclude")

def chosenPackages (arguments : List OsString) (manifest : String)
    (packages members : List Json) (selected : List String) :
    Session σ (List String × Bool) :=
  if selectsNamed arguments then
    namedPackages machine arguments manifest packages members selected
  else
    pure (selected, (operation arguments).any packageSelectsWorkspace)

namespace Project

/-- The ids that are selected, and whether the selection is of packages of the
workspace. -/
def selectedPackages (arguments : List OsString) (manifest : String)
    (metadata : Json) (packages : List Json) :
    Session σ (List String × Bool) := do
  let workspaceMembers ← orFail (arrayOf metadata "workspace_members")
    "Cargo metadata has no workspace members"
  let members ← candidates arguments metadata workspaceMembers
  let selection ← chosenPackages machine arguments manifest packages
    workspaceMembers (members.filterMap Json.asStr)
  nonemptySelection selection

end Project

def packageOf (packages : List Json) (id : String) : Option Json :=
  packages.find? fun package => textOf package "id" = some id

/-- The loop of `info`: the names of the packages of each role. -/
def group (packages : List Json) :
    List String → Except String (List String × List String)
  | [] => .ok ([], [])
  | id :: rest =>
      match packageOf packages id with
      | none => .error "selected Cargo package was not found"
      | some package =>
          match textOf package "name" with
          | none => .error "selected Cargo package has no name"
          | some name =>
              (group packages rest).map fun groups =>
                match packageRole package with
                | .host => (name :: groups.1, groups.2)
                | .guest => (groups.1, name :: groups.2)

/-- The roles of the members of the workspace that are among the packages. -/
def workspaceRoles (packages members : List Json) : List Role :=
  ((members.filterMap Json.asStr).filterMap (packageOf packages)).map
    packageRole

def info (arguments : List OsString) (manifest : String) (metadata : Json) :
    Session σ ProjectInfo := do
  let packages ← orFail (arrayOf metadata "packages")
    "Cargo metadata has no packages"
  let selection ← Project.selectedPackages machine arguments manifest
    metadata packages
  let groups ← ofExcept (group packages selection.1)
  let members ← orFail (arrayOf metadata "workspace_members")
    "Cargo metadata has no workspace members"
  let roles := workspaceRoles packages members
  pure ⟨groups.1, groups.2, selection.2,
    .host ∈ roles && .guest ∈ roles⟩

/-! ## What the groups are -/

/-- The name of a selected package, if it has the role. -/
def nameIf (packages : List Json) (role : Role) (id : String) :
    Option String :=
  (packageOf packages id).bind fun package =>
    if packageRole package = role then textOf package "name" else none

def ProjectInfo.names (info : ProjectInfo) : Role → List String
  | .host => info.host
  | .guest => info.guest

/-- The groups are the names of the selected packages, each in the group of
its role. -/
structure Grouped (metadata : Json) (info : ProjectInfo)
    (packages : List Json) (selected : List String) : Prop where
  listed : arrayOf metadata "packages" = some packages
  nonempty : selected ≠ []
  named : ∀ id ∈ selected, ∃ role name, nameIf packages role id = some name
  names : ∀ role, info.names role = selected.filterMap (nameIf packages role)

variable {machine} {arguments : List OsString} {manifest : String}
variable {metadata : Json} {packages : List Json} {selected : List String}

theorem group_eq_ok {groups : List String × List String}
    (grouped : group packages selected = .ok groups) :
    (∀ id ∈ selected, ∃ role name, nameIf packages role id = some name) ∧
      groups.1 = selected.filterMap (nameIf packages .host) ∧
      groups.2 = selected.filterMap (nameIf packages .guest) := by
  induction selected generalizing groups with
  | nil =>
      cases grouped
      exact ⟨nofun, rfl, rfl⟩
  | cons id rest ih =>
      unfold group at grouped
      cases found : packageOf packages id with
      | none => simp [found] at grouped
      | some package =>
          cases named : textOf package "name" with
          | none => simp [found, named] at grouped
          | some name =>
              simp only [found, named] at grouped
              cases further : group packages rest with
              | error text => simp [further, Except.map] at grouped
              | ok later =>
                  obtain ⟨all, host, guest⟩ := ih further
                  simp only [further, Except.map] at grouped
                  cases role : packageRole package with
                  | host =>
                      have here : nameIf packages .host id = some name := by
                        simp [nameIf, found, role, named]
                      have other : nameIf packages .guest id = none := by
                        simp [nameIf, found, role]
                      simp only [role] at grouped
                      cases grouped
                      refine ⟨?_, ?_, ?_⟩
                      · exact List.forall_mem_cons.mpr
                          ⟨⟨_, _, here⟩, all⟩
                      · rw [List.filterMap_cons_some here, host]
                      · rw [List.filterMap_cons_none other, guest]
                  | guest =>
                      have here : nameIf packages .guest id = some name := by
                        simp [nameIf, found, role, named]
                      have other : nameIf packages .host id = none := by
                        simp [nameIf, found, role]
                      simp only [role] at grouped
                      cases grouped
                      refine ⟨?_, ?_, ?_⟩
                      · exact List.forall_mem_cons.mpr
                          ⟨⟨_, _, here⟩, all⟩
                      · rw [List.filterMap_cons_none other, host]
                      · rw [List.filterMap_cons_some here, guest]

/-- A package has one role. -/
theorem role_of_nameIf {role other : Role} {id name another : String}
    (named : nameIf packages role id = some name)
    (again : nameIf packages other id = some another) :
    role = other ∧ name = another := by
  unfold nameIf at named again
  cases found : packageOf packages id with
  | none => simp [found] at named
  | some package =>
      simp only [found, Option.bind_some] at named again
      split at named
      · rename_i same
        split at again
        · rename_i sameToo
          exact ⟨same.symm.trans sameToo,
            Option.some.inj (named.symm.trans again)⟩
        · cases again
      · cases named

theorem mem_names {info : ProjectInfo} {role : Role} {name : String}
    (grouped : Grouped metadata info packages selected) :
    name ∈ info.names role ↔
      ∃ id ∈ selected, nameIf packages role id = some name := by
  rw [grouped.names, List.mem_filterMap]

/-- There is a role if the other group is empty. -/
theorem ProjectInfo.role_eq_some {info : ProjectInfo} {role : Role} :
    info.role = some role ↔ info.names role ≠ [] ∧
      ∀ other, other ≠ role → info.names other = [] := by
  obtain ⟨host, guest, -, -⟩ := info
  have split : ∀ {condition : Role → Prop},
      (∀ role, condition role) ↔ condition .host ∧ condition .guest :=
    ⟨fun all => ⟨all _, all _⟩, fun both role => by
      cases role <;> simp [both]⟩
  rw [split]
  cases role <;> cases host <;> cases guest <;>
    simp [ProjectInfo.role, ProjectInfo.names]

/-- There is a role exactly if all that is selected has it. -/
theorem role_eq_some_iff {info : ProjectInfo} {role : Role}
    (grouped : Grouped metadata info packages selected) :
    info.role = some role ↔
      ∀ id ∈ selected, ∃ name, nameIf packages role id = some name := by
  have listed := fun role name => @mem_names metadata packages selected info
    role name grouped
  rw [ProjectInfo.role_eq_some]
  constructor
  · rintro ⟨-, empty⟩ id member
    obtain ⟨other, name, named⟩ := grouped.named id member
    have inside := (listed other name).mpr ⟨id, member, named⟩
    have same : other = role := by
      by_contra different
      rw [empty other different] at inside
      cases inside
    exact ⟨name, same ▸ named⟩
  · intro all
    constructor
    · obtain ⟨id, member⟩ := List.exists_mem_of_ne_nil _ grouped.nonempty
      obtain ⟨name, named⟩ := all id member
      exact List.ne_nil_of_mem ((listed role name).mpr ⟨id, member, named⟩)
    · intro other different
      refine List.eq_nil_iff_forall_not_mem.mpr fun name inside => ?_
      obtain ⟨id, member, named⟩ := (listed other name).mp inside
      obtain ⟨_, again⟩ := all id member
      exact different (role_of_nameIf named again).1

/-- The members that are meant if no package is named: all, or the default
ones. -/
def Meant (arguments : List OsString) (metadata : Json)
    (members meant : List Json) : Prop :=
  if hasOption arguments "--workspace" || hasOption arguments "--all" then
    meant = members
  else
    arrayOf metadata "workspace_default_members" = some meant

/-- What a command selects: the members that are meant; or, if it names
packages, those that Cargo lists for it, if all of them are in the
workspace. -/
inductive Chooses (arguments : List OsString) (manifest : String)
    (metadata : Json) (packages : List Json) (asked : List Entry) :
    List String × Bool → Prop where
  | meant {members meant : List Json}
      (inside : arrayOf metadata "workspace_members" = some members)
      (unnamed : selectsNamed arguments = false)
      (default : Meant arguments metadata members meant) :
      Chooses arguments manifest metadata packages asked
        (meant.filterMap Json.asStr,
          (operation arguments).any packageSelectsWorkspace)
  | named {members : List Json} {names : List String}
      (inside : arrayOf metadata "workspace_members" = some members)
      (named : selectsNamed arguments = true)
      (listed : Listed arguments manifest names asked)
      (all : (memberIds packages members names).length = names.length) :
      Chooses arguments manifest metadata packages asked
        (memberIds packages members names, true)
  | foreign {members meant : List Json} {names : List String}
      (inside : arrayOf metadata "workspace_members" = some members)
      (named : selectsNamed arguments = true)
      (listed : Listed arguments manifest names asked)
      (other : (memberIds packages members names).length ≠ names.length)
      (default : Meant arguments metadata members meant) :
      Chooses arguments manifest metadata packages asked
        (meant.filterMap Json.asStr, false)

theorem Chooses.mono {asked more : List Entry}
    {selection : List String × Bool}
    (chooses : Chooses arguments manifest metadata packages asked selection)
    (subset : asked ⊆ more) :
    Chooses arguments manifest metadata packages more selection := by
  cases chooses with
  | meant inside unnamed default => exact .meant inside unnamed default
  | named inside named listed all =>
      exact .named inside named (listed.mono subset) all
  | foreign inside named listed other default =>
      exact .foreign inside named (listed.mono subset) other default

/-- What is said of a project: the groups of the packages that the command
selects, and whether its workspace has packages of both roles. -/
def Informs (arguments : List OsString) (manifest : String) (metadata : Json)
    (asked : List Entry) (info : ProjectInfo) : Prop :=
  ∃ packages selected members, Grouped metadata info packages selected ∧
    Chooses arguments manifest metadata packages asked
      (selected, info.workspaceSelection) ∧
    arrayOf metadata "workspace_members" = some members ∧
    info.workspaceMixed = (.host ∈ workspaceRoles packages members &&
      .guest ∈ workspaceRoles packages members)

theorem Informs.mono {asked more : List Entry} {info : ProjectInfo}
    (informs : Informs arguments manifest metadata asked info)
    (subset : asked ⊆ more) :
    Informs arguments manifest metadata more info := by
  obtain ⟨packages, selected, members, grouped, chooses, rest⟩ := informs
  exact ⟨packages, selected, members, grouped, chooses.mono subset, rest⟩

theorem answers_candidates {members : List Json} :
    Adds (candidates arguments metadata members : Session σ _)
      (Answers fun added meant =>
        added = [] ∧ Meant arguments metadata members meant) := by
  unfold candidates Meant
  split
  · exact answers_pure ⟨rfl, rfl⟩
  · refine (asks_orFail.and adds_orFail).consequence ?_
    rintro added result ⟨asks, rfl, ended⟩
    refine ⟨asks, ?_⟩
    rintro found rfl
    rcases ended with ⟨value, there, same⟩ | ⟨_, failed⟩
    · cases same
      exact ⟨rfl, there⟩
    · cases failed

theorem answers_chosenPackages {members meant : List Json}
    (inside : arrayOf metadata "workspace_members" = some members)
    (default : Meant arguments metadata members meant) :
    Adds (chosenPackages machine arguments manifest packages members
      (meant.filterMap Json.asStr))
      (Answers (Chooses arguments manifest metadata packages)) := by
  unfold chosenPackages
  split
  · rename_i named
    refine answers_bind answers_selectedPackages fun names earlier listed => ?_
    dsimp only
    split
    · rename_i all
      exact answers_pure (.named inside named
        (listed.mono (List.subset_append_left _ _)) all)
    · rename_i other
      exact answers_pure (.foreign inside named
        (listed.mono (List.subset_append_left _ _)) other default)
  · rename_i unnamed
    exact answers_pure
      (.meant inside (Bool.eq_false_iff.mpr unnamed) default)

theorem answers_projectPackages :
    Adds (Project.selectedPackages machine arguments manifest metadata
      packages) (Answers fun added found => found.1 ≠ [] ∧
        Chooses arguments manifest metadata packages added found) := by
  refine adds_orFail_bind (fun members inside => ?_)
    ⟨asks_error nofun, nofun⟩
  refine answers_bind answers_candidates ?_
  rintro meant _ ⟨rfl, default⟩
  refine answers_bind (answers_chosenPackages inside default) ?_
  intro selection earlier chooses
  unfold nonemptySelection
  split
  · exact answers_fail
  · rename_i filled
    refine answers_pure ⟨by simpa using filled, ?_⟩
    exact chooses.mono (List.subset_append_left _ _)

theorem answers_info : Adds (info machine arguments manifest metadata)
    (Answers (Informs arguments manifest metadata)) := by
  refine adds_orFail_bind (fun packages listed => ?_)
    ⟨asks_error nofun, nofun⟩
  refine answers_bind answers_projectPackages ?_
  rintro selection earlier ⟨nonempty, chooses⟩
  refine adds_ofExcept_bind (fun groups grouped => ?_)
    fun _ => ⟨asks_error nofun, nofun⟩
  refine adds_orFail_bind (fun members inside => answers_pure ?_)
    ⟨asks_error nofun, nofun⟩
  obtain ⟨named, host, guest⟩ := group_eq_ok grouped
  refine ⟨packages, selection.1, members,
    ⟨listed, nonempty, named, fun role => ?_⟩,
    chooses.mono (List.subset_append_left _ _), inside, rfl⟩
  cases role with
  | host => exact host
  | guest => exact guest

end Telekio.Wrapper
