import Mathlib.Data.List.Sections
import Telekio.Command.Arguments
import Telekio.Json.Value
import Telekio.Loop.Visits

/-!
# Aliases of commands

`expand_alias` of `telekio/src/cargo.rs`. What Cargo prints of its
configuration is a parameter, with the environment variables that are set.
-/

namespace Telekio.Command

open OsString

/-- White space as Unicode has it. -/
def isWhitespace (character : Char) : Bool :=
  let code := character.toNat
  (0x9 ≤ code && code ≤ 0xD) || (0x2000 ≤ code && code ≤ 0x200A) ||
    code ∈ [0x20, 0x85, 0xA0, 0x1680, 0x2028, 0x2029, 0x202F, 0x205F, 0x3000]

def splitWhitespace (text : String) : List String :=
  ((text.toList.splitOnP isWhitespace).filter (· ≠ [])).map String.ofList

/-- A character of a name in the name of a variable. -/
def variableChar (character : Char) : Char :=
  if character.toUpper = '-' ∨ character.toUpper = '.' then '_'
  else character.toUpper

def variableOf (name : String) : String :=
  "CARGO_ALIAS_" ++ String.ofList (name.toList.map variableChar)

/-- What Cargo is asked with and knows: the configuration that it prints for
arguments, and the environment variables. -/
structure Configured where
  print : List OsString → Except String Json
  environment : List String

/-- The loop over the global options in `config`. -/
def withoutConfigOptions : List OsString → List OsString
  | [] => []
  | option :: rest =>
      if option = ofString "--config" then
        match rest with
        | [] => []
        | _ :: rest => withoutConfigOptions rest
      else if !Text.startsWith option.toStringLossy "--config=" then
        option :: withoutConfigOptions rest
      else
        withoutConfigOptions rest

def config (cargo : Configured) (arguments : List OsString)
    (key : Option String) : Except String Json :=
  cargo.print (withoutConfigOptions (globalOptions arguments) ++
    (["-Z", "unstable-options", "config", "get", "--format", "json-value"] ++
      key.toList).map ofString)

def defaultAlias (name : String) : Option String :=
  match name with
  | "b" => some "build"
  | "c" => some "check"
  | "d" => some "doc"
  | "r" => some "run"
  | "t" => some "test"
  | "rm" => some "remove"
  | _ => none

/-- The value under a name with dots. -/
def configuredAlias (configuration : Json) (name : String) : Option Json :=
  (name.toList.splitOn '.').foldlM
    (fun value key => value.get (String.ofList key))
    (configuration.index "alias")

variable (cargo : Configured) (arguments : List OsString)
variable (configuration : Json)

/-- The environment comes first, then the configuration. -/
def aliasOf (name : String) : Except String (Option Json) :=
  if variableOf name ∈ cargo.environment then
    (config cargo arguments (some ("alias." ++ name))).map some
  else
    .ok ((configuredAlias configuration name).or
      ((defaultAlias name).map .string))

/-- A list of texts; what `serde` says of anything else is left out. -/
def fromValue (value : Json) : Except String (List String) :=
  match value.asArray.bind (·.mapM Json.asStr) with
  | some texts => .ok texts
  | none => .error "invalid type"

def targetOf : Json → Except String (List String)
  | .string text => .ok (splitWhitespace text)
  | value => fromValue value

def recursive : String :=
  "Cargo alias expansion is recursive"

def shellAlias : String :=
  "Cargo shell aliases cannot determine a Telekio artifact role; " ++
    "use the direct Cargo command"

/-- The list with a target in the place of the argument at an index. -/
def splice (expanded : List OsString) (index : Nat) (target : List String) :
    List OsString :=
  expanded.take index ++ target.map ofString ++ expanded.drop (index + 1)

/-- A turn of the loop at the command word of the list. -/
def nameTurn (expanded : List OsString) (index : Nat) (name : String) :
    Visits.Turn (List OsString) String (Except String (List OsString)) :=
  if builtin name then
    .done (.ok expanded)
  else
    match aliasOf cargo arguments configuration name with
    | .error error => .done (.error error)
    | .ok none => .done (.ok expanded)
    | .ok (some alias_) =>
        match targetOf alias_ with
        | .error error => .done (.error error)
        | .ok [] => .done (.error "Cargo alias has no command")
        | .ok (first :: rest) =>
            .visit name
              (if Text.startsWith first "!" then
                .inl (.error shellAlias)
              else
                .inr (splice expanded index (first :: rest)))

def aliasTurn (expanded : List OsString) :
    Visits.Turn (List OsString) String (Except String (List OsString)) :=
  match commandIndex expanded with
  | none => .done (.ok expanded)
  | some index =>
      match (expanded[index]?).bind toStr with
      | none => .done (.ok expanded)
      | some name =>
          nameTurn cargo arguments configuration expanded index name

/-- The fuel bounds the turns of the loop. -/
def expandAlias (fuel : Nat) :
    Option (Except String (List OsString)) :=
  if (operation arguments).all builtin then
    some (.ok arguments)
  else
    match config cargo arguments none with
    | .error error => some (.error error)
    | .ok configuration =>
        Visits.run (aliasTurn cargo arguments configuration)
          (.error recursive) fuel [] arguments

variable {cargo arguments configuration}

mutual

/-- The keys that lead to a value in another one. -/
def paths : Json → List (List String)
  | .object entries => [] :: pathsIn entries
  | _ => [[]]

def pathsIn : List (String × Json) → List (List String)
  | [] => []
  | (key, value) :: rest => (paths value).map (key :: ·) ++ pathsIn rest

end

theorem nil_mem_paths {value : Json} : [] ∈ paths value := by
  cases value <;> simp [paths]

theorem mem_pathsIn {entries : List (String × Json)} {key : String}
    {value : Json} {keys : List String}
    (found : entries.lookup key = some value)
    (inside : keys ∈ paths value) : key :: keys ∈ pathsIn entries := by
  induction entries with
  | nil => cases found
  | cons entry rest ih =>
      obtain ⟨other, first⟩ := entry
      rw [pathsIn, List.mem_append]
      rw [List.lookup_cons] at found
      by_cases same : key = other
      · subst same
        rw [beq_self_eq_true] at found
        cases found
        exact Or.inl (List.mem_map.mpr ⟨keys, inside, rfl⟩)
      · rw [beq_eq_false_iff_ne.mpr same] at found
        exact Or.inr (ih found)

theorem mem_paths {value found : Json} {keys : List String}
    (follows : keys.foldlM (fun value key => value.get key) value =
      some found) : keys ∈ paths value := by
  induction keys generalizing value with
  | nil => exact nil_mem_paths
  | cons key rest ih =>
      rw [List.foldlM_cons] at follows
      obtain ⟨inside, got, later⟩ := Option.bind_eq_some_iff.mp follows
      cases value with
      | object entries =>
          exact List.mem_cons_of_mem _ (mem_pathsIn got (ih later))
      | null => cases got
      | bool => cases got
      | number => cases got
      | string => cases got
      | array => cases got

/-- The names for what there is in a value. -/
def configuredNames (configuration : Json) : List String :=
  (paths (configuration.index "alias")).map fun keys =>
    String.ofList (['.'].intercalate (keys.map String.toList))

theorem mem_configuredNames {name : String} {value : Json}
    (found : configuredAlias configuration name = some value) :
    name ∈ configuredNames configuration := by
  have follows : ((name.toList.splitOn '.').map String.ofList).foldlM
      (fun value key => value.get key) (configuration.index "alias") =
        some value := by
    rw [List.foldlM_map]
    exact found
  refine List.mem_map.mpr ⟨_, mem_paths follows, ?_⟩
  rw [List.map_map]
  have same : (String.toList ∘ String.ofList) = (id : List Char → _) := by
    funext characters
    exact String.toList_ofList
  rw [same, List.map_id, List.intercalate_splitOn, String.ofList_toList]

/-- The characters that become a character of a variable. -/
def originsOf (character : Char) : List Char :=
  [character, character.toLower, '-', '.']

theorem toUpper_or_toLower (character : Char) :
    character.toUpper = character ∨
      character.toUpper.toLower = character := by
  have ascii : ∀ code : Fin 128,
      (Char.ofNat code).toUpper = Char.ofNat code ∨
        (Char.ofNat code).toUpper.toLower = Char.ofNat code := by
    decide +kernel
  by_cases small : character.toNat < 128
  · simpa only [Char.ofNat_toNat] using ascii ⟨character.toNat, small⟩
  · refine Or.inl (dif_neg ?_)
    rintro ⟨-, upper⟩
    have bound : character.toNat ≤ 122 := UInt32.le_iff_toNat_le.mp upper
    omega

theorem eq_of_toUpper {character sign : Char} (plain : sign.toLower = sign)
    (upper : character.toUpper = sign) : character = sign := by
  rcases toUpper_or_toLower character with same | same
  · exact same.symm.trans upper
  · rw [← same, upper, plain]

theorem mem_originsOf {character : Char} :
    character ∈ originsOf (variableChar character) := by
  unfold variableChar
  split
  · rename_i sign
    rcases sign with dash | dot
    · rw [eq_of_toUpper rfl dash]
      decide
    · rw [eq_of_toUpper rfl dot]
      decide
  · rcases toUpper_or_toLower character with same | same
    · simp [originsOf, same]
    · simp [originsOf, same]

/-- The names whose variable is the given one. -/
def namesOf (variable_ : String) : List String :=
  ((variable_.toList.drop "CARGO_ALIAS_".toList.length).map
    originsOf).sections.map String.ofList

theorem mem_namesOf {name : String} : name ∈ namesOf (variableOf name) := by
  refine List.mem_map.mpr ⟨name.toList, ?_, String.ofList_toList⟩
  rw [List.mem_sections, variableOf, String.toList_append, List.drop_left,
    String.toList_ofList, List.map_map, List.forall₂_map_right_iff,
    List.forall₂_same]
  exact fun _ _ => mem_originsOf

theorem mem_of_defaultAlias {name target : String}
    (found : defaultAlias name = some target) :
    name ∈ ["b", "c", "d", "r", "t", "rm"] := by
  unfold defaultAlias at found
  split at found
  case h_7 => cases found
  all_goals simp

/-- Every name that has an alias is one of finitely many. -/
def aliasNames (cargo : Configured) (configuration : Json) : List String :=
  cargo.environment.flatMap namesOf ++ configuredNames configuration ++
    ["b", "c", "d", "r", "t", "rm"]

theorem mem_aliasNames {name : String} {alias_ : Json}
    (found : aliasOf cargo arguments configuration name =
      .ok (some alias_)) : name ∈ aliasNames cargo configuration := by
  unfold aliasOf at found
  rw [aliasNames, List.mem_append, List.mem_append]
  split at found
  · rename_i set
    exact Or.inl (Or.inl (List.mem_flatMap.mpr ⟨_, set, mem_namesOf⟩))
  · rcases Option.or_eq_some_iff.mp (Except.ok.inj found) with
      written | ⟨-, short⟩
    · exact Or.inl (Or.inr (mem_configuredNames written))
    · obtain ⟨target, default, -⟩ := Option.map_eq_some_iff.mp short
      exact Or.inr (mem_of_defaultAlias default)

end Telekio.Command
