import Telekio.Text.Search

/-!
# Arguments of a command

The arguments of Cargo, and how `telekio/src/cargo.rs` reads them.
-/

namespace Telekio.Command

/-- A character, or a part of an argument that is no text. -/
inductive OsUnit where
  | char (character : Char)
  | other (value : Nat)
deriving DecidableEq

def replacement : Char :=
  Char.ofNat 0xFFFD

namespace OsUnit

def asChar : OsUnit → Option Char
  | .char character => some character
  | .other _ => none

/-- How it is shown. -/
def shown : OsUnit → Char
  | .char character => character
  | .other _ => replacement

end OsUnit

structure OsString where
  units : List OsUnit
deriving DecidableEq

namespace OsString

def ofString (text : String) : OsString :=
  ⟨text.toList.map OsUnit.char⟩

def toStr (argument : OsString) : Option String :=
  (argument.units.mapM OsUnit.asChar).map String.ofList

def toStringLossy (argument : OsString) : String :=
  String.ofList (argument.units.map OsUnit.shown)

variable {argument : OsString} {text : String}

theorem mapM_asChar {characters : List Char} :
    (characters.map OsUnit.char).mapM OsUnit.asChar = some characters := by
  induction characters with
  | nil => rfl
  | cons first rest ih =>
      rw [List.map_cons, List.mapM_cons, ih]
      rfl

theorem toStr_ofString : (ofString text).toStr = some text := by
  rw [toStr, ofString, mapM_asChar, Option.map_some, String.ofList_toList]

theorem toStringLossy_ofString : (ofString text).toStringLossy = text := by
  simp [toStringLossy, ofString, Function.comp_def, OsUnit.shown]

theorem eq_of_toStr (read : argument.toStr = some text) :
    argument = ofString text := by
  obtain ⟨units⟩ := argument
  obtain ⟨characters, all, rfl⟩ := Option.map_eq_some_iff.mp read
  rw [ofString, String.toList_ofList]
  congr 1
  clear read
  induction units generalizing characters with
  | nil =>
      cases all
      rfl
  | cons unit rest ih =>
      cases unit with
      | char character =>
          obtain ⟨later, allLater, rfl⟩ : ∃ later,
              rest.mapM OsUnit.asChar = some later ∧
                character :: later = characters := by
            simpa [List.mapM_cons, OsUnit.asChar, Option.bind_eq_some_iff]
              using all
          rw [List.map_cons, ← ih later allLater]
      | other value =>
          rw [List.mapM_cons] at all
          cases all

theorem ofString_inj {other : String} :
    ofString text = ofString other ↔ text = other := by
  constructor
  · intro same
    have read := @toStr_ofString text
    rw [same, toStr_ofString] at read
    exact (Option.some.inj read).symm
  · rintro rfl
    rfl

/-- What is read of an argument is what is shown of it. -/
theorem toStringLossy_of_toStr (read : argument.toStr = some text) :
    argument.toStringLossy = text := by
  rw [eq_of_toStr read, toStringLossy_ofString]

end OsString

open OsString

def dashes : OsString :=
  ofString "--"

/-- The arguments before the first `--`. -/
def front (arguments : List OsString) : List OsString :=
  arguments.takeWhile (· ≠ dashes)

/-- The arguments from the first `--` on. -/
def back (arguments : List OsString) : List OsString :=
  arguments.dropWhile (· ≠ dashes)

inductive Kind where
  | packages
  | workspace
  | single
  | output
  | plain
deriving DecidableEq

def kind (operation : String) : Option Kind :=
  if operation ∈ ["bench", "build", "check", "clippy", "doc", "fix",
      "package", "publish", "test", "tree"] then
    some .packages
  else if operation ∈ ["fetch", "generate-lockfile", "update"] then
    some .workspace
  else if operation ∈ ["add", "install", "remove", "run", "rustc",
      "rustdoc"] then
    some .single
  else if operation ∈ ["metadata", "vendor"] then
    some .output
  else if operation ∈ ["clean", "config", "fmt", "help", "info", "init",
      "locate-project", "login", "logout", "new", "owner", "report",
      "search", "uninstall", "yank"] then
    some .plain
  else
    none

def builtin (operation : String) : Bool :=
  (kind operation).isSome && operation ∉ ["clippy", "fmt"]

/-- The loop of `command_index`, from an index on. -/
def commandIndexFrom (index : Nat) : List OsString → Option Nat
  | [] => none
  | argument :: rest =>
      match argument.toStr with
      | none => none
      | some text =>
          if text = "--" then
            none
          else if text ∈ ["--config", "--color", "--explain", "-C",
              "-Z"] then
            match rest with
            | [] => none
            | _ :: rest => commandIndexFrom (index + 2) rest
          else if !Text.startsWith text "-" &&
              !(index = 0 && Text.startsWith text "+") then
            some index
          else
            commandIndexFrom (index + 1) rest

def commandIndex (arguments : List OsString) : Option Nat :=
  commandIndexFrom 0 arguments

def operation (arguments : List OsString) : Option String := do
  (← arguments[← commandIndex arguments]?).toStr

/-- A short option with its value in one argument. -/
def joined (text option : String) : Bool :=
  Text.startsWith text option &&
    option.utf8ByteSize < text.utf8ByteSize

/-- The loop of `global_options`, from an index on. -/
def globalOptionsFrom (index : Nat) : List OsString → List OsString
  | [] => []
  | argument :: rest =>
      if argument = dashes then
        []
      else
        match argument.toStr with
        | none => globalOptionsFrom (index + 1) rest
        | some text =>
            if Text.startsWith text "+" && index = 0 then
              argument :: globalOptionsFrom (index + 1) rest
            else if text ∈ ["--config", "-C", "-Z"] then
              match rest with
              | [] => []
              | value :: rest =>
                  argument :: value :: globalOptionsFrom (index + 2) rest
            else if Text.startsWith text "--config=" || joined text "-C" ||
                joined text "-Z" then
              argument :: globalOptionsFrom (index + 1) rest
            else
              globalOptionsFrom (index + 1) rest

def globalOptions (arguments : List OsString) : List OsString :=
  globalOptionsFrom 0 arguments

/-- What one argument says for one option. -/
def valueOf (name text : String) (next : Option OsString) : List OsString :=
  if text = name then
    next.toList
  else if name.utf8ByteSize = 2 && joined text name then
    let rest := (Text.stripPrefix text name).getD ""
    [ofString ((Text.stripPrefix rest "=").getD rest)]
  else
    ((Text.stripPrefix text (name ++ "=")).map ofString).toList

def optionValues (names : List String) : List OsString → List OsString
  | [] => []
  | argument :: rest =>
      if argument = dashes then
        []
      else
        (match argument.toStr with
        | none => []
        | some text => names.flatMap fun name =>
            valueOf name text rest.head?) ++ optionValues names rest

def hasOption (arguments : List OsString) (name : String) : Bool :=
  (front arguments).any fun argument =>
    argument.toStr.any fun text =>
      text = name || Text.startsWith text (name ++ "=")

end Telekio.Command
