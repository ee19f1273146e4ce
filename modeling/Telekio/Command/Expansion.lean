import Telekio.Command.Alias

/-!
# What the expansion of aliases keeps

A round replaces the command word of the list, as the list then is, by the
target of its alias. What is before and after that word stays.
-/

namespace Telekio.Command

open OsString

/-- The command word of a list, with what is before and after it. -/
def CommandAt (list before : List OsString) (name : String)
    (after : List OsString) : Prop :=
  list = before ++ ofString name :: after ∧
    commandIndex list = some before.length

variable {list before after rest arguments : List OsString}
variable {name : String} {index start : Nat}

/-- A text is a command word at an index, if it is no option. -/
def isWord (index : Nat) (text : String) : Bool :=
  !Text.startsWith text "-" && !(index = 0 && Text.startsWith text "+")

theorem isWord_of_isWord {text : String} (word : isWord index text)
    (same : start = 0 → index = 0) : isWord start text := by
  unfold isWord at word ⊢
  rcases Nat.eq_zero_or_pos start with zero | positive
  · rw [same zero] at word
    rw [zero]
    exact word
  · rw [Bool.and_eq_true] at word ⊢
    refine ⟨word.1, ?_⟩
    rw [decide_eq_false (by omega : ¬ start = 0)]
    rfl

theorem commandIndexFrom_cons {text : String} (notDashes : ¬ text = "--")
    (free : text ∉ ["--config", "--color", "--explain", "-C", "-Z"]) :
    commandIndexFrom start (ofString text :: rest) =
      if isWord start text then some start
      else commandIndexFrom (start + 1) rest := by
  rw [commandIndexFrom.eq_def]
  dsimp only
  rw [toStr_ofString]
  dsimp only
  rw [if_neg notDashes, if_neg free]
  rfl

/-- What the scan passes, it passes whatever follows. Only a toolchain at the
index zero is passed there and found elsewhere. -/
theorem exists_of_commandIndexFrom
    (found : commandIndexFrom index list ≠ none)
    (same : start = 0 → index = 0) :
    ∃ before name after, list = before ++ ofString name :: after ∧
      (∀ rest, commandIndexFrom start (before ++ rest) =
        commandIndexFrom (start + before.length) rest) ∧
      ∀ rest, commandIndexFrom (start + before.length)
        (ofString name :: rest) = some (start + before.length) := by
  fun_induction commandIndexFrom index list generalizing start with
  | case1 => exact absurd rfl found
  | case2 => exact absurd rfl found
  | case3 => exact absurd rfl found
  | case4 => exact absurd rfl found
  | case5 index argument text read notDashes takes value rest ih =>
      obtain ⟨before, name, after, rfl, passes, stops⟩ :=
        @ih (start + 2) found (by omega)
      refine ⟨argument :: value :: before, name, after, rfl, ?_, ?_⟩
      · intro rest
        rw [List.cons_append, List.cons_append, commandIndexFrom, read]
        simp only [if_neg notDashes, if_pos takes, passes,
          List.length_cons]
        congr 1
        omega
      · intro rest
        have sum : start + (argument :: value :: before).length =
            start + 2 + before.length := by
          simp only [List.length_cons]
          omega
        rw [sum]
        exact stops rest
  | case6 index argument rest text read notDashes free word =>
      rw [eq_of_toStr read]
      refine ⟨[], text, rest, rfl, fun _ => rfl, fun _ => ?_⟩
      rw [List.length_nil, Nat.add_zero,
        commandIndexFrom_cons notDashes free,
        if_pos (isWord_of_isWord word same)]
  | case7 index argument rest text read notDashes free skipped ih =>
      rw [eq_of_toStr read]
      by_cases word : isWord start text
      · refine ⟨[], text, rest, rfl, fun _ => rfl, fun _ => ?_⟩
        rw [List.length_nil, Nat.add_zero,
          commandIndexFrom_cons notDashes free, if_pos word]
      · obtain ⟨before, name, after, rfl, passes, stops⟩ :=
          @ih (start + 1) found (by omega)
        refine ⟨ofString text :: before, name, after, rfl, ?_, ?_⟩
        · intro rest
          rw [List.cons_append, commandIndexFrom_cons notDashes free,
            if_neg word, passes, List.length_cons]
          congr 1
          omega
        · intro rest
          have sum : start + (ofString text :: before).length =
              start + 1 + before.length := by
            simp only [List.length_cons]
            omega
          rw [sum]
          exact stops rest

theorem le_of_commandIndexFrom
    (found : commandIndexFrom start list = some index) : start ≤ index := by
  obtain ⟨before, name, after, rfl, passes, stops⟩ :=
    @exists_of_commandIndexFrom list start start
      (by rw [found]; exact Option.some_ne_none _) id
  rw [passes, stops] at found
  have sum := Option.some.inj found
  omega

theorem exists_commandAt (found : commandIndex list = some index) :
    ∃ before name after, CommandAt list before name after := by
  obtain ⟨before, name, after, same, passes, stops⟩ :=
    @exists_of_commandIndexFrom list 0 0
      (by rw [commandIndex] at found; rw [found]; exact Option.some_ne_none _)
      id
  refine ⟨before, name, after, same, ?_⟩
  rw [commandIndex, same, passes, stops, Nat.zero_add]

namespace CommandAt

theorem unique {front tail : List OsString} {word : String}
    (first : CommandAt list before name after)
    (second : CommandAt list front word tail) :
    front = before ∧ word = name ∧ tail = after := by
  obtain ⟨same, found⟩ := first
  obtain ⟨other, again⟩ := second
  rw [found] at again
  rw [same] at other
  obtain ⟨fronts, rests⟩ :=
    List.append_inj other (Option.some.inj again)
  obtain ⟨words, tails⟩ := List.cons.inj rests
  exact ⟨fronts.symm, (ofString_inj.mp words).symm, tails.symm⟩

/-- The scan comes to the place of the command word, whatever is there. -/
theorem passes (at_ : CommandAt list before name after)
    (rest : List OsString) :
    commandIndex (before ++ rest) = commandIndexFrom before.length rest := by
  have found : commandIndexFrom 0 list ≠ none := by
    have here := at_.2
    rw [commandIndex] at here
    rw [here]
    exact Option.some_ne_none _
  obtain ⟨front, word, tail, same, passes, stops⟩ :=
    @exists_of_commandIndexFrom list 0 0 found id
  have other : CommandAt list front word tail := by
    refine ⟨same, ?_⟩
    rw [commandIndex, same, passes, stops, Nat.zero_add]
  obtain ⟨rfl, -, -⟩ := at_.unique other
  rw [commandIndex, passes, Nat.zero_add]

theorem operation_eq (at_ : CommandAt list before name after) :
    operation list = some name := by
  obtain ⟨rfl, found⟩ := at_
  simp [operation, found, toStr_ofString]

end CommandAt

theorem exists_of_operation (found : operation list = some name) :
    ∃ before after, CommandAt list before name after := by
  obtain ⟨index, there, -⟩ := Option.bind_eq_some_iff.mp found
  obtain ⟨before, word, after, at_⟩ := exists_commandAt there
  have same := at_.operation_eq
  rw [found] at same
  cases same
  exact ⟨before, after, at_⟩

section Chains

variable (target : String → Option (List String))

/-- The names that a list has been expanded with, and what it is then: the
command word of the list is replaced again and again. -/
inductive Expands (arguments : List OsString) :
    List String → List OsString → Prop where
  | start : Expands arguments [] arguments
  | round {names : List String} {list before after : List OsString}
      {name : String} {words : List String}
      (expands : Expands arguments names list)
      (at_ : CommandAt list before name after)
      (free : builtin name = false)
      (replaced : target name = some words)
      (fresh : name ∉ names) :
      Expands arguments (names ++ [name])
        (before ++ words.map ofString ++ after)

/-- The target of a name has a command word of its own. -/
def HoldsCommand (name : String) : Prop :=
  ∀ words, target name = some words →
    commandIndex (words.map ofString) ≠ none

variable {target} {names : List String}

/-- Every name on the way is replaced by its target. -/
theorem Expands.replaced (expands : Expands target arguments names list) :
    ∀ name ∈ names, builtin name = false ∧
      ∃ words, target name = some words := by
  induction expands with
  | start => simp
  | round _ _ free replaced _ ih =>
      intro name member
      rcases List.mem_append.mp member with earlier | last
      · exact ih name earlier
      · rw [List.mem_singleton.mp last]
        exact ⟨free, _, replaced⟩

/-- A list with a built-in command, or with none, is not expanded. -/
theorem Expands.of_builtin (expands : Expands target arguments names list)
    (plain : (operation arguments).all builtin) :
    names = [] ∧ list = arguments := by
  induction expands with
  | start => exact ⟨rfl, rfl⟩
  | round _ at_ free _ _ ih =>
      obtain ⟨-, rfl⟩ := ih
      rw [at_.operation_eq, Option.all_some, free] at plain
      cases plain

/-- What is before the first command word stays. -/
theorem Expands.keeps_before (expands : Expands target arguments names list)
    (at_ : CommandAt arguments before name after) : before <+: list := by
  induction expands with
  | start =>
      rw [at_.1]
      exact List.prefix_append _ _
  | @round _ _ first last _ words expands later _ _ _ ih =>
      obtain ⟨rest, rfl⟩ := ih
      obtain ⟨same, found⟩ := later
      rw [at_.passes] at found
      have inside : before <+: first :=
        List.prefix_of_prefix_length_le (List.prefix_append before rest)
          (same ▸ List.prefix_append first _) (le_of_commandIndexFrom found)
      rw [List.append_assoc]
      exact inside.trans (List.prefix_append _ _)

/-- While every target has a command word, that word comes from a target. -/
theorem Expands.inside (expands : Expands target arguments names list)
    (at_ : CommandAt arguments before name after)
    (commands : ∀ name ∈ names, HoldsCommand target name) :
    ∃ front word tail, CommandAt list (before ++ front) word
      (tail ++ after) := by
  induction expands with
  | start => exact ⟨[], name, [], by simpa using at_⟩
  | @round names list first last key words expands later _ replaced _ ih =>
      have earlier : ∀ name ∈ names, HoldsCommand target name := by
        intro name member
        exact commands name (List.mem_append_left _ member)
      have holds : commandIndex (words.map ofString) ≠ none :=
        commands key (by simp) words replaced
      obtain ⟨front, word, tail, there⟩ := ih earlier
      obtain ⟨rfl, rfl, rfl⟩ := there.unique later
      obtain ⟨start, command, rest, same, passes, stops⟩ :=
        @exists_of_commandIndexFrom _ 0 (before ++ front).length holds
          (fun _ => rfl)
      refine ⟨front ++ start, command, rest ++ tail, ?_, ?_⟩
      · simp [same]
      · rw [List.append_assoc, later.passes, same, List.append_assoc, passes,
          List.cons_append, stops, ← List.append_assoc]
        exact congrArg some List.length_append.symm

/-- What is after the first command word stays too, as long as every target
but the last has a command word. -/
theorem Expands.keeps_after (expands : Expands target arguments names list)
    (at_ : CommandAt arguments before name after)
    (commands : ∀ name ∈ names.dropLast, HoldsCommand target name) :
    ∃ middle, list = before ++ middle ++ after := by
  cases expands with
  | start => exact ⟨[ofString name], by simpa using at_.1⟩
  | @round _ _ _ _ _ words expands later =>
      rw [List.dropLast_concat] at commands
      obtain ⟨front, word, tail, there⟩ := expands.inside at_ commands
      obtain ⟨rfl, rfl, rfl⟩ := there.unique later
      exact ⟨front ++ words.map ofString ++ tail, by simp⟩

end Chains

/-! ## The turns of the loop -/

/-- The alias of a name in what is configured. -/
def aliasFor (cargo : Configured) (arguments : List OsString)
    (name : String) : Except String (Option Json) := do
  aliasOf cargo arguments (← config cargo arguments none) name

/-- What a name is replaced by. -/
def targetFor (cargo : Configured) (arguments : List OsString)
    (name : String) : Option (List String) :=
  match aliasFor cargo arguments name with
  | .ok (some alias_) =>
      match targetOf alias_ with
      | .ok (first :: rest) =>
          if Text.startsWith first "!" then none else some (first :: rest)
      | _ => none
  | _ => none

/-- A list that is not expanded any more. -/
def Settled (cargo : Configured) (arguments list : List OsString) : Prop :=
  ∀ name, operation list = some name →
    builtin name ∨ aliasFor cargo arguments name = .ok none

variable {cargo : Configured} {configuration : Json} {names : List String}
variable {next : List OsString}

theorem aliasTurn_of_no_operation (missing : operation list = none) :
    aliasTurn cargo arguments configuration list = .done (.ok list) := by
  unfold operation at missing
  unfold aliasTurn
  cases found : commandIndex list with
  | none => rfl
  | some index =>
      have unread : (list[index]?).bind toStr = none := by
        simpa [found] using missing
      simp only [unread]

theorem aliasTurn_of_commandAt (at_ : CommandAt list before name after) :
    aliasTurn cargo arguments configuration list =
      nameTurn cargo arguments configuration list before.length name := by
  obtain ⟨rfl, found⟩ := at_
  have read : ((before ++ ofString name :: after)[before.length]?).bind
      toStr = some name := by
    simp [toStr_ofString]
  unfold aliasTurn
  simp only [found, read]

theorem splice_of_commandAt (at_ : CommandAt list before name after)
    (words : List String) : splice list before.length words =
      before ++ words.map ofString ++ after := by
  simp [splice, at_.1]

section Configured

variable (configured : config cargo arguments none = .ok configuration)
include configured

theorem aliasFor_eq : aliasFor cargo arguments name =
    aliasOf cargo arguments configuration name := by
  rw [aliasFor, configured]
  rfl

/-- A turn at a command word that is no built-in one, by its alias. -/
theorem nameTurn_cases (at_ : CommandAt list before name after)
    (free : builtin name = false) :
    (nameTurn cargo arguments configuration list before.length name =
        .done (.ok list) ∧ aliasFor cargo arguments name = .ok none) ∨
    (∃ error, nameTurn cargo arguments configuration list before.length name =
      .done (.error error)) ∨
    name ∈ aliasNames cargo configuration ∧
      (nameTurn cargo arguments configuration list before.length name =
          .visit name (.inl (.error shellAlias)) ∨
        ∃ words, targetFor cargo arguments name = some words ∧
          nameTurn cargo arguments configuration list before.length name =
            .visit name (.inr (before ++ words.map ofString ++ after))) := by
  have known := @aliasFor_eq arguments name _ _ configured
  unfold targetFor nameTurn
  rw [if_neg (by simp [free]), known]
  cases found : aliasOf cargo arguments configuration name with
  | error error => exact Or.inr (Or.inl ⟨error, rfl⟩)
  | ok value =>
      cases value with
      | none => exact Or.inl ⟨rfl, rfl⟩
      | some alias_ =>
          dsimp only
          cases targetOf alias_ with
          | error error => exact Or.inr (Or.inl ⟨error, rfl⟩)
          | ok words =>
              cases words with
              | nil => exact Or.inr (Or.inl ⟨_, rfl⟩)
              | cons first rest =>
                  refine Or.inr (Or.inr ⟨mem_aliasNames found, ?_⟩)
                  dsimp only
                  by_cases shell : Text.startsWith first "!"
                  · rw [if_pos shell]
                    exact Or.inl rfl
                  · rw [if_neg shell, if_neg shell, splice_of_commandAt at_]
                    exact Or.inr ⟨first :: rest, rfl, rfl⟩

/-- A turn is done with the list or with an error, or visits the name of the
command word, which has an alias. -/
theorem aliasTurn_cases (list : List OsString) :
    (aliasTurn cargo arguments configuration list = .done (.ok list) ∧
      Settled cargo arguments list) ∨
    (∃ error, aliasTurn cargo arguments configuration list =
      .done (.error error)) ∨
    ∃ before name after, CommandAt list before name after ∧
      builtin name = false ∧ name ∈ aliasNames cargo configuration ∧
      (aliasTurn cargo arguments configuration list =
          .visit name (.inl (.error shellAlias)) ∨
        ∃ words, targetFor cargo arguments name = some words ∧
          aliasTurn cargo arguments configuration list =
            .visit name (.inr (before ++ words.map ofString ++ after))) := by
  cases command : operation list with
  | none =>
      refine Or.inl ⟨aliasTurn_of_no_operation command, ?_⟩
      intro name found
      rw [command] at found
      cases found
  | some name =>
      have settled : builtin name ∨ aliasFor cargo arguments name = .ok none →
          Settled cargo arguments list := by
        intro ends other found
        rw [command] at found
        cases found
        exact ends
      obtain ⟨before, after, at_⟩ := exists_of_operation command
      rw [aliasTurn_of_commandAt at_]
      cases free : builtin name with
      | true =>
          refine Or.inl ⟨?_, settled (Or.inl free)⟩
          rw [nameTurn, if_pos free]
      | false =>
          rcases nameTurn_cases configured at_ free with
            ⟨done, missing⟩ | failed | visits
          · exact Or.inl ⟨done, settled (Or.inr missing)⟩
          · exact Or.inr (Or.inl failed)
          · exact Or.inr (Or.inr ⟨before, name, after, at_, free, visits⟩)

/-- The turn at a command word, by what its name is replaced by. -/
theorem aliasTurn_of_target (at_ : CommandAt list before name after)
    (free : builtin name = false) {words : List String}
    (replaced : targetFor cargo arguments name = some words) :
    aliasTurn cargo arguments configuration list =
      .visit name (.inr (before ++ words.map ofString ++ after)) := by
  rw [aliasTurn_of_commandAt at_, nameTurn, if_neg (by simp [free]),
    ← aliasFor_eq configured]
  unfold targetFor at replaced
  split at replaced
  · rename_i alias_ found
    rw [found]
    dsimp only
    split at replaced
    · rename_i first rest target
      rw [target]
      split at replaced
      · cases replaced
      · rename_i plain
        cases replaced
        dsimp only
        rw [if_neg plain, splice_of_commandAt at_]
    · cases replaced
  · cases replaced

theorem reaches_iff_expands :
    Visits.Reaches (aliasTurn cargo arguments configuration) arguments names
      list ↔ Expands (targetFor cargo arguments) arguments names list := by
  constructor
  · intro reaches
    induction reaches with
    | start => exact .start
    | @visit _ list _ _ _ turns fresh ih =>
        rcases aliasTurn_cases configured list with
          ⟨done, -⟩ | ⟨error, done⟩ |
            ⟨before, name, after, at_, free, -, shell | ⟨words, replaced, goes⟩⟩
        · rw [done] at turns
          cases turns
        · rw [done] at turns
          cases turns
        · rw [shell] at turns
          cases turns
        · rw [goes] at turns
          cases turns
          exact .round ih at_ free replaced fresh
  · intro expands
    induction expands with
    | start => exact .start
    | round _ at_ free replaced fresh ih =>
        exact .visit ih (aliasTurn_of_target configured at_ free replaced)
          fresh

theorem aliasTurn_mem (list : List OsString) (key : String)
    (next : Except String (List OsString) ⊕ List OsString)
    (turns : aliasTurn cargo arguments configuration list =
      .visit key next) : key ∈ aliasNames cargo configuration := by
  rcases aliasTurn_cases configured list with
    ⟨done, -⟩ | ⟨error, done⟩ |
      ⟨before, name, after, at_, free, known, shell | ⟨words, replaced, goes⟩⟩
  · rw [done] at turns
    cases turns
  · rw [done] at turns
    cases turns
  · rw [shell] at turns
    cases turns
    exact known
  · rw [goes] at turns
    cases turns
    exact known

/-- A list that is returned is not expanded any more. -/
theorem settled_of_ends {visited : List String}
    {again : String} {result : List OsString}
    (ends : Visits.Ends (aliasTurn cargo arguments configuration)
      (.error again) visited list (.ok result)) :
    result = list ∧ Settled cargo arguments list := by
  have ended : aliasTurn cargo arguments configuration list =
      .done (.ok result) ∨ ∃ key, aliasTurn cargo arguments configuration
        list = .visit key (.inl (.ok result)) := by
    cases ends with
    | done turns => exact Or.inl turns
    | stopped turns => exact Or.inr ⟨_, turns⟩
  rcases aliasTurn_cases configured list with
    ⟨done, settled⟩ | ⟨error, done⟩ |
      ⟨before, name, after, at_, free, -, shell | ⟨words, replaced, goes⟩⟩
  · have same : list = result := by simpa [done] using ended
    exact ⟨same.symm, settled⟩
  · simp [done] at ended
  · simp [shell] at ended
  · simp [goes] at ended

/-- A name that comes again ends the loop. -/
theorem ends_of_again {visited : List String} {again : String}
    (expands : Expands (targetFor cargo arguments) arguments visited list)
    (command : operation list = some name) (seen : name ∈ visited) :
    Visits.Ends (aliasTurn cargo arguments configuration) (.error again)
      visited list (.error again) := by
  obtain ⟨before, after, at_⟩ := exists_of_operation command
  obtain ⟨free, words, replaced⟩ := expands.replaced name seen
  exact .again (aliasTurn_of_target configured at_ free replaced) seen

end Configured

/-- What is before and after the command word of the arguments is there
still. -/
def KeepsAround (arguments result : List OsString) : Prop :=
  ∀ before name after, CommandAt arguments before name after →
    ∃ middle, result = before ++ middle ++ after

theorem configured_of_target {words : List String}
    (replaced : targetFor cargo arguments name = some words) :
    ∃ configuration, config cargo arguments none = .ok configuration := by
  cases asked : config cargo arguments none with
  | ok configuration => exact ⟨configuration, rfl⟩
  | error error =>
      rw [targetFor, aliasFor, asked] at replaced
      cases replaced

/-- The expansion ends. A list that it returns comes from the arguments by
rounds, is not expanded any more, begins with what is before the command word
of the arguments, and ends with what is after it if every target but the last
has a command word. A name that comes again gives the error. -/
theorem expandAlias_ends (cargo : Configured) (arguments : List OsString) :
    ∃ outcome, (∃ enough, ∀ fuel, enough < fuel →
        expandAlias cargo arguments fuel = some outcome) ∧
      (∀ result, outcome = .ok result →
        Settled cargo arguments result ∧
        ∃ names,
          Expands (targetFor cargo arguments) arguments names result ∧
          (∀ before name after, CommandAt arguments before name after →
            before <+: result) ∧
          ((∀ name ∈ names.dropLast,
              HoldsCommand (targetFor cargo arguments) name) →
            KeepsAround arguments result)) ∧
      ∀ names list name,
        Expands (targetFor cargo arguments) arguments names list →
        operation list = some name → name ∈ names →
        outcome = .error recursive := by
  by_cases plain : (operation arguments).all builtin
  · refine ⟨.ok arguments, ⟨0, fun fuel _ => ?_⟩, ?_, ?_⟩
    · rw [expandAlias, if_pos plain]
    · rintro result ⟨⟩
      have expands : Expands (targetFor cargo arguments) arguments []
        arguments := .start
      refine ⟨?_, [], expands, fun _ _ _ => expands.keeps_before, ?_⟩
      · intro name command
        rw [command] at plain
        exact Or.inl plain
      · exact fun commands _ _ _ at_ => expands.keeps_after at_ commands
    · intro names list name expands _ seen
      obtain ⟨rfl, -⟩ := expands.of_builtin plain
      cases seen
  cases asked : config cargo arguments none with
  | error error =>
      refine ⟨.error error, ⟨0, fun fuel _ => ?_⟩, ?_, ?_⟩
      · rw [expandAlias, if_neg plain, asked]
      · rintro result ⟨⟩
      · intro names list name expands _ seen
        obtain ⟨-, words, replaced⟩ := expands.replaced name seen
        obtain ⟨_, known⟩ := configured_of_target replaced
        rw [asked] at known
        cases known
  | ok configuration =>
      obtain ⟨outcome, returns, ⟨visited, last, reaches, ends⟩, only⟩ :=
        Visits.exists_outcome (.error recursive) arguments
          (aliasTurn_mem asked)
      refine ⟨outcome, ⟨(aliasNames cargo configuration).length, ?_⟩, ?_, ?_⟩
      · intro fuel enough
        rw [expandAlias, if_neg plain, asked]
        exact returns fuel enough
      · rintro result rfl
        obtain ⟨rfl, settled⟩ := settled_of_ends asked ends
        have expands := (reaches_iff_expands asked).mp reaches
        exact ⟨settled, visited, expands,
          fun _ _ _ => expands.keeps_before,
          fun commands _ _ _ at_ => expands.keeps_after at_ commands⟩
      · intro names list name expands command seen
        exact (only names list _ ((reaches_iff_expands asked).mpr expands)
          (ends_of_again asked expands command seen)).symm

/-- `x` stands for an option only, `y` for a command. -/
def optionCargo : Configured where
  print := fun _ => .ok (.object [("alias", .object
    [("x", .array [.string "-v"]), ("y", .array [.string "check"])])])
  environment := []

theorem expandAlias_option :
    expandAlias optionCargo [ofString "x", ofString "y"] 3 =
      some (.ok [ofString "-v", ofString "check"]) := by
  rfl

/-- The command word that is replaced next may be one of the arguments after
the first one. -/
theorem not_forall_keepsAround :
    ¬ ∀ cargo arguments fuel result,
      expandAlias cargo arguments fuel = some (.ok result) →
      KeepsAround arguments result := by
  intro all
  have found : CommandAt [ofString "x", ofString "y"] [] "x"
      [ofString "y"] := by
    refine ⟨rfl, ?_⟩
    decide +kernel
  obtain ⟨middle, same⟩ :=
    all _ _ _ _ expandAlias_option _ _ _ found
  have last := congrArg List.getLast? same
  rw [List.nil_append, List.getLast?_append] at last
  exact absurd (ofString_inj.mp (Option.some.inj last)) (by decide)

end Telekio.Command
