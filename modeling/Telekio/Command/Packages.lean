import Mathlib.Data.List.TakeWhile
import Telekio.Command.Arguments
import Telekio.Command.Scan

/-!
# Selecting the packages of one role

`package_arguments` of `telekio/src/cargo.rs` takes the selection of packages
out of the arguments and puts another one in, before the arguments of the
program.
-/

namespace Telekio.Command

open OsString

def selectsWorkspace (text : String) : Bool :=
  text = "--workspace" || text = "--all"

def takesPackage (text : String) : Bool :=
  text = "-p" || text = "--package" || text = "--exclude"

def joinsPackage (text : String) : Bool :=
  Text.startsWith text "--package=" || Text.startsWith text "--exclude=" ||
    joined text "-p"

/-- What the loop keeps of the arguments before `--`. -/
def otherArguments : List OsString → List OsString
  | [] => []
  | argument :: rest =>
      if selectsWorkspace argument.toStringLossy then
        otherArguments rest
      else if takesPackage argument.toStringLossy then
        match rest with
        | [] => []
        | _ :: rest => otherArguments rest
      else if joinsPackage argument.toStringLossy then
        otherArguments rest
      else
        argument :: otherArguments rest

def packageOptions (packages : List String) : List OsString :=
  packages.flatMap fun package => [ofString "--package", ofString package]

def packageArguments (arguments : List OsString) (packages : List String) :
    List OsString :=
  otherArguments (front arguments) ++ packageOptions packages ++
    back arguments

/-- An argument that selects packages. -/
def selects (argument : OsString) : Bool :=
  selectsWorkspace argument.toStringLossy ||
    takesPackage argument.toStringLossy ||
    joinsPackage argument.toStringLossy

/-- An argument that is followed by a package. -/
def takesNext (argument : OsString) : Bool :=
  takesPackage argument.toStringLossy

variable {arguments items : List OsString} {packages : List String}
variable {argument : OsString} {text : String}

theorem not_takesPackage_of_selectsWorkspace
    (flag : selectsWorkspace text = true) : takesPackage text = false := by
  simp only [selectsWorkspace, Bool.or_eq_true, decide_eq_true_eq] at flag
  rcases flag with rfl | rfl
  · decide
  · decide

/-- The loop keeps what neither selects packages nor is a value of that. -/
theorem otherArguments_eq_kept :
    otherArguments items = Scan.kept takesNext selects items := by
  fun_induction otherArguments items with
  | case1 => rfl
  | case2 argument rest flag ih =>
      have free : takesNext argument = false :=
        not_takesPackage_of_selectsWorkspace flag
      rw [Scan.kept_cons free, if_pos (by simp [selects, flag]), ih]
  | case3 argument flag takes =>
      rw [Scan.kept_singleton (by simp [selects, takes])]
  | case4 argument flag takes value rest ih =>
      have taking : takesNext argument = true := takes
      rw [Scan.kept_cons_cons taking (by simp [selects, takes]), ih]
  | case5 argument rest flag takes joins ih =>
      rw [Scan.kept_cons (by simpa [takesNext] using takes),
        if_pos (by simp [selects, joins]), ih]
  | case6 argument rest flag takes joins ih =>
      rw [Scan.kept_cons (by simpa [takesNext] using takes),
        if_neg (by simp [selects, flag, takes, joins]), ih]

theorem mem_otherArguments (member : argument ∈ otherArguments items) :
    argument ∈ items ∧ selects argument = false := by
  rw [otherArguments_eq_kept] at member
  exact Scan.mem_kept member

theorem valueOf_of_not_selects {name : String} {next : Option OsString}
    (named : name = "--package" ∨ name = "-p")
    (other : takesPackage text = false) (apart : joinsPackage text = false) :
    valueOf name text next = [] := by
  simp only [takesPackage, joinsPackage, Bool.or_eq_false_iff,
    decide_eq_false_iff_not] at other apart
  obtain ⟨⟨notShort, notLong⟩, -⟩ := other
  obtain ⟨⟨notJoined, -⟩, notShortJoined⟩ := apart
  rcases named with rfl | rfl
  · have long : ("--package".utf8ByteSize = 2 : Bool) = false := by decide
    have whole : "--package" ++ "=" = "--package=" := by decide
    rw [valueOf, if_neg notLong, if_neg (by simp [long]), whole,
      Text.stripPrefix_eq_none notJoined]
    rfl
  · have noEquals : Text.startsWith text ("-p" ++ "=") = false := by
      rw [Bool.eq_false_iff]
      intro starts
      have short := Text.startsWith_of_append starts
      have longer := (Text.lt_utf8ByteSize_iff short).mpr notShort
      simp [joined, short, longer] at notShortJoined
    rw [valueOf, if_neg notShort, if_neg (by simp [notShortJoined]),
      Text.stripPrefix_eq_none noEquals]
    rfl

/-- What says nothing for the options is passed over. -/
theorem optionValues_append {names : List String}
    {first second : List OsString}
    (silent : ∀ argument ∈ first, argument ≠ dashes ∧
      ∀ text, argument.toStr = some text → ∀ name ∈ names, ∀ next,
        valueOf name text next = []) :
    optionValues names (first ++ second) = optionValues names second := by
  induction first with
  | nil => rfl
  | cons argument rest ih =>
      obtain ⟨proper, mute⟩ := silent argument List.mem_cons_self
      have later := ih fun other member =>
        silent other (List.mem_cons_of_mem _ member)
      rw [List.cons_append, optionValues, if_neg proper, later]
      cases read : argument.toStr with
      | none => rfl
      | some text =>
          have nothing : (names.flatMap fun name =>
              valueOf name text (rest ++ second).head?) = [] := by
            rw [List.flatMap_eq_nil_iff]
            exact fun name member => mute text read name member _
          simp only [nothing, List.nil_append]

theorem optionValues_back {names : List String} :
    optionValues names (back arguments) = [] := by
  induction arguments with
  | nil => rfl
  | cons argument rest ih =>
      unfold back at ih ⊢
      rw [List.dropWhile_cons]
      split
      · exact ih
      · rename_i found
        rw [optionValues, if_pos (by simpa using found)]

/-- A list of names with which the packages are read. -/
def ReadsPackages (names : List String) : Prop :=
  names = ["--package", "-p"] ∨ names = ["-p", "--package"]

theorem ReadsPackages.named {names : List String} {name : String}
    (reads : ReadsPackages names) (member : name ∈ names) :
    name = "--package" ∨ name = "-p" := by
  rcases reads with rfl | rfl
  · simpa using member
  · simpa [or_comm] using member

/-- The option itself says its value, for one of the names. -/
theorem ReadsPackages.flatMap {names : List String} {next : OsString}
    (reads : ReadsPackages names) :
    (names.flatMap fun name => valueOf name "--package" (some next)) =
      [next] := by
  have long : valueOf "--package" "--package" (some next) = [next] := rfl
  have short : valueOf "-p" "--package" (some next) = [] := by
    rw [valueOf, if_neg (by decide), if_neg (by decide)]
    rfl
  rcases reads with rfl | rfl
  · simp [long, short]
  · simp [long, short]

/-- A name that does not begin with `-` selects nothing by itself. -/
theorem not_selects_of_name (plain : Text.startsWith text "-" = false) :
    selectsWorkspace text = false ∧ takesPackage text = false ∧
      joinsPackage text = false := by
  have apart : ∀ rest, Text.startsWith text ("-" ++ rest) = false := by
    intro rest
    rw [Bool.eq_false_iff] at plain ⊢
    exact fun starts => plain (Text.startsWith_of_append starts)
  have differs : ∀ rest, text ≠ "-" ++ rest := by
    rintro rest rfl
    have starts := apart rest
    rw [Bool.eq_false_iff] at starts
    exact starts (Text.startsWith_iff.mpr List.prefix_rfl)
  refine ⟨?_, ?_, ?_⟩
  · simp only [selectsWorkspace, Bool.or_eq_false_iff,
      decide_eq_false_iff_not]
    exact ⟨differs "-workspace", differs "-all"⟩
  · simp only [takesPackage, Bool.or_eq_false_iff, decide_eq_false_iff_not]
    exact ⟨⟨differs "p", differs "-package"⟩, differs "-exclude"⟩
  · simp only [joinsPackage, joined, Bool.or_eq_false_iff,
      Bool.and_eq_false_iff]
    exact ⟨⟨apart "-package=", apart "-exclude="⟩, Or.inl (apart "p")⟩

theorem ne_dashes_of_name (plain : Text.startsWith text "-" = false) :
    ofString text ≠ dashes := by
  intro same
  rw [ofString_inj.mp same] at plain
  exact absurd plain (by decide)

theorem option_ne_dashes : ofString "--package" ≠ dashes := by
  rw [dashes, Ne, ofString_inj]
  decide

theorem ReadsPackages.valueOf {names : List String}
    (reads : ReadsPackages names) (other : takesPackage text = false)
    (apart : joinsPackage text = false) :
    ∀ name ∈ names, ∀ next, valueOf name text next = [] :=
  fun _ member _ => valueOf_of_not_selects (reads.named member) other apart

theorem optionValues_packageOptions {names : List String}
    {rest : List OsString} (reads : ReadsPackages names)
    (plain : ∀ package ∈ packages, Text.startsWith package "-" = false) :
    optionValues names (packageOptions packages ++ rest) =
      packages.map ofString ++ optionValues names rest := by
  induction packages with
  | nil => rfl
  | cons package later ih =>
      obtain ⟨flag, takes, joins⟩ :=
        not_selects_of_name (plain package List.mem_cons_self)
      have ihLater := ih fun other member =>
        plain other (List.mem_cons_of_mem _ member)
      have silent : optionValues names
          ([ofString package] ++ (packageOptions later ++ rest)) =
            optionValues names (packageOptions later ++ rest) := by
        refine optionValues_append ?_
        intro argument member
        rw [List.mem_singleton.mp member]
        refine ⟨ne_dashes_of_name (plain package List.mem_cons_self), ?_⟩
        intro text read
        rw [toStr_ofString] at read
        cases read
        exact reads.valueOf takes joins
      have split : packageOptions (package :: later) ++ rest =
          ofString "--package" :: ([ofString package] ++
            (packageOptions later ++ rest)) :=
        rfl
      rw [split, optionValues, if_neg option_ne_dashes, toStr_ofString,
        silent, ihLater]
      simp [reads.flatMap]

/-! ## The two parts -/

theorem ne_dashes_of_front (member : argument ∈ front arguments) :
    argument ≠ dashes := by
  simpa using List.mem_takeWhile_imp member

theorem front_append_back {first : List OsString}
    (proper : ∀ argument ∈ first, argument ≠ dashes) :
    front (first ++ back arguments) = first := by
  have empty : front (back arguments) = [] := by
    unfold front back
    induction arguments with
    | nil => rfl
    | cons argument rest ih =>
        rw [List.dropWhile_cons]
        split
        · exact ih
        · rename_i found
          rw [List.takeWhile_cons, if_neg found]
  unfold front at empty ⊢
  rw [List.takeWhile_append_of_pos (by simpa using proper), empty,
    List.append_nil]

theorem back_append_back {first : List OsString}
    (proper : ∀ argument ∈ first, argument ≠ dashes) :
    back (first ++ back arguments) = back arguments := by
  have same : back (back arguments) = back arguments := by
    unfold back
    induction arguments with
    | nil => rfl
    | cons argument rest ih =>
        rw [List.dropWhile_cons]
        split
        · exact ih
        · rename_i found
          rw [List.dropWhile_cons, if_neg found]
  unfold back at same ⊢
  rw [List.dropWhile_append_of_pos (by simpa using proper), same]

theorem mem_packageOptions (member : argument ∈ packageOptions packages) :
    argument = ofString "--package" ∨
      ∃ package ∈ packages, argument = ofString package := by
  obtain ⟨package, listed, pair⟩ := List.mem_flatMap.mp member
  simp only [List.mem_cons, List.not_mem_nil, or_false] at pair
  rcases pair with option | name
  · exact Or.inl option
  · exact Or.inr ⟨package, listed, name⟩

/-- A selection of packages other than by name; the first two take no value. -/
def selectsOthers (argument : OsString) : Bool :=
  selectsWorkspace argument.toStringLossy ||
    argument.toStringLossy = "--exclude" ||
    Text.startsWith argument.toStringLossy "--exclude="

theorem not_selectsOthers_option :
    selectsOthers (ofString "--package") = false := by
  rw [selectsOthers, toStringLossy_ofString]
  decide

theorem selects_of_selectsOthers (others : selectsOthers argument = true) :
    selects argument = true := by
  unfold selectsOthers at others
  unfold selects takesPackage joinsPackage
  rcases Bool.or_eq_true_iff.mp others with first | joins
  · rcases Bool.or_eq_true_iff.mp first with flag | exclude
    · rw [flag, Bool.true_or, Bool.true_or]
    · rw [exclude, Bool.or_true, Bool.or_true, Bool.true_or]
  · rw [joins, Bool.or_true, Bool.true_or, Bool.or_true]

/-- What the arguments of a group select and keep. -/
structure Regrouped (arguments : List OsString) (packages : List String)
    (result : List OsString) : Prop where
  named : ∀ names, ReadsPackages names →
    optionValues names result = packages.map ofString
  selected : ∀ argument ∈ front result, selectsOthers argument = false
  others : front result =
    Scan.kept takesNext selects (front arguments) ++ packageOptions packages
  program : back result = back arguments

/-- The selection of packages is replaced, and nothing else. -/
theorem packageArguments_regrouped
    (plain : ∀ package ∈ packages, Text.startsWith package "-" = false) :
    Regrouped arguments packages (packageArguments arguments packages) := by
  have keptProper : ∀ argument ∈ otherArguments (front arguments),
      argument ≠ dashes :=
    fun argument member => ne_dashes_of_front (mem_otherArguments member).1
  have proper : ∀ argument ∈ otherArguments (front arguments) ++
      packageOptions packages, argument ≠ dashes := by
    intro argument member
    rcases List.mem_append.mp member with kept | option
    · exact keptProper argument kept
    · rcases mem_packageOptions option with rfl | ⟨package, listed, rfl⟩
      · exact option_ne_dashes
      · exact ne_dashes_of_name (plain package listed)
  have before : front (packageArguments arguments packages) =
      otherArguments (front arguments) ++ packageOptions packages :=
    front_append_back proper
  refine ⟨?_, ?_, ?_, back_append_back proper⟩
  · intro names reads
    have silent := @optionValues_append names
      (otherArguments (front arguments))
      (packageOptions packages ++ back arguments) ?_
    · rw [packageArguments, List.append_assoc, silent,
        optionValues_packageOptions reads plain, optionValues_back,
        List.append_nil]
    · intro argument member
      refine ⟨keptProper argument member, ?_⟩
      intro text read
      have other := (mem_otherArguments member).2
      simp only [selects, toStringLossy_of_toStr read,
        Bool.or_eq_false_iff] at other
      exact reads.valueOf other.1.2 other.2
  · intro argument member
    rw [before] at member
    rw [Bool.eq_false_iff]
    intro others
    have selected := selects_of_selectsOthers others
    rcases List.mem_append.mp member with kept | option
    · rw [(mem_otherArguments kept).2] at selected
      cases selected
    · rcases mem_packageOptions option with rfl | ⟨package, listed, rfl⟩
      · rw [not_selectsOthers_option] at others
        cases others
      · obtain ⟨flag, takes, joins⟩ :=
          not_selects_of_name (plain package listed)
        simp [selects, toStringLossy_ofString, flag, takes, joins]
          at selected
  · rw [before, otherArguments_eq_kept]

/-- Selections of every form, one of them without its value. -/
def groupArguments : List OsString :=
  ["test", "-p", "old", "--workspace", "--release", "--exclude=other",
    "-pold", "--package", "--", "--all"].map ofString

theorem packageArguments_regrouped_two :
    Regrouped groupArguments ["one", "two"]
      (packageArguments groupArguments ["one", "two"]) :=
  packageArguments_regrouped (by decide)

example : packageArguments groupArguments ["one", "two"] =
    ["test", "--release", "--package", "one", "--package", "two", "--",
      "--all"].map ofString := by
  rfl

end Telekio.Command
