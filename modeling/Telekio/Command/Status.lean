import Telekio.Command.Packages

/-!
# The arguments that Cargo is run with

`status` of `telekio/src/cargo.rs` puts the configuration of the patch after
the arguments for Cargo and before those for the program.
-/

namespace Telekio.Command

open OsString

def configOption : OsString :=
  ofString "--config"

/-- A toolchain at the start, and the rest. -/
def splitToolchain : List OsString → List OsString × List OsString
  | [] => ([], [])
  | first :: rest =>
      if first.toStr.any (Text.startsWith · "+") then ([first], rest)
      else ([], first :: rest)

/-- The loop over the arguments before `--`, which are followed by `next`:
those for Cargo, and its configuration. -/
def separateConfigs (next : Option OsString) :
    List OsString → List OsString × List OsString
  | [] => ([], [])
  | argument :: rest =>
      if argument.toStringLossy = "--config" then
        match rest with
        | [] => ([], next.toList.flatMap fun value => [argument, value])
        | value :: rest =>
            let (cargo, configs) := separateConfigs next rest
            (cargo, argument :: value :: configs)
      else if Text.startsWith argument.toStringLossy "--config=" then
        let (cargo, configs) := separateConfigs next rest
        (cargo, argument :: configs)
      else
        let (cargo, configs) := separateConfigs next rest
        (argument :: cargo, configs)

/-- The arguments of the command that `status` runs. -/
def statusArguments (arguments : List OsString) (config : Option OsString) :
    List OsString :=
  let (toolchain, arguments) := splitToolchain arguments
  match config with
  | none => toolchain ++ arguments
  | some config =>
      let (cargo, configs) :=
        separateConfigs (back arguments).head? (front arguments)
      toolchain ++ (cargo ++ configs ++ [configOption, config] ++
        back arguments)

def isConfig (argument : OsString) : Bool :=
  argument.toStringLossy = "--config"

def configures (argument : OsString) : Bool :=
  isConfig argument || Text.startsWith argument.toStringLossy "--config="

/-- The options that configure Cargo, each with its value. -/
def configsOf : List OsString → List (List OsString)
  | [] => []
  | argument :: rest =>
      if isConfig argument then
        match rest with
        | [] => [[argument]]
        | value :: rest => [argument, value] :: configsOf rest
      else if configures argument then
        [argument] :: configsOf rest
      else
        configsOf rest

/-- The arguments that do not configure Cargo. -/
def withoutConfigs (arguments : List OsString) : List OsString :=
  Scan.kept isConfig configures arguments

variable (takesValue : String → Bool)

/-- An argument that is no option, and no value of the option before it. -/
def isPositional (arguments : List OsString) (index : Nat) : Bool :=
  (arguments[index]?).any (fun argument =>
    !Text.startsWith argument.toStringLossy "-") &&
    !(arguments[index - 1]?).any fun argument =>
      takesValue argument.toStringLossy

/-- Where the arguments of the program begin: at the first `--`, or for `run`
at a positional argument after it. -/
def programIndex (arguments : List OsString) : Nat :=
  match operation arguments, commandIndex arguments with
  | some "run", some command =>
      ((List.range (front arguments).length).find? fun index =>
        command < index && isPositional takesValue arguments index).getD
          (front arguments).length
  | _, _ => (front arguments).length

def cargoArguments (arguments : List OsString) : List OsString :=
  arguments.take (programIndex takesValue arguments)

def programArguments (arguments : List OsString) : List OsString :=
  arguments.drop (programIndex takesValue arguments)

/-- The program gets its arguments, and Cargo what is before them: the same
toolchain, the other arguments and the configuration in their order, and last
the configuration of the patch. -/
def Delivered (arguments : List OsString) (config : OsString)
    (result : List OsString) : Prop :=
  let given := splitToolchain (cargoArguments takesValue arguments)
  ∃ cargo, result =
      given.1 ++ (cargo ++ programArguments takesValue arguments) ∧
    dashes ∉ cargo ∧ withoutConfigs cargo = withoutConfigs given.2 ∧
    configsOf cargo = configsOf given.2 ++ [[configOption, config]]

/-- With what Cargo gets, the readers find what they find with all. -/
structure KeptApart (names : List String) (name : String)
    (arguments : List OsString) (config : OsString) : Prop where
  delivered : Delivered takesValue arguments config
    (statusArguments arguments (some config))
  globals : globalOptions arguments =
    globalOptions (cargoArguments takesValue arguments)
  values : optionValues names arguments =
    optionValues names (cargoArguments takesValue arguments)
  has : hasOption arguments name =
    hasOption (cargoArguments takesValue arguments) name

def takesGlobal (argument : OsString) : Bool :=
  argument.toStr.any (· ∈ ["--config", "-C", "-Z"])

/-- The arguments of the program begin at `--`, and no option before that takes
the `--` for its value. -/
structure Separated (names : List String) (arguments : List OsString) :
    Prop where
  dashed : programIndex takesValue arguments = (front arguments).length
  complete : Scan.isPending isConfig (front arguments) = false
  globals : back arguments ≠ [] →
    Scan.isPending takesGlobal (front arguments) = false
  values : back arguments ≠ [] →
    (front arguments).getLast?.any (fun argument =>
      argument.toStr.any (· ∈ names)) = false

variable {takesValue : String → Bool} {names : List String} {name : String}
variable {arguments items rest : List OsString}
variable {argument value config : OsString} {next : Option OsString}

theorem configures_of_isConfig (argument : OsString)
    (config : isConfig argument = true) : configures argument = true := by
  rw [configures, config, Bool.true_or]

theorem configsOf_cons (free : isConfig argument = false) :
    configsOf (argument :: rest) =
      if configures argument then [argument] :: configsOf rest
      else configsOf rest := by
  rw [configsOf.eq_def]
  simp only [free, Bool.false_eq_true, if_false]

theorem configsOf_singleton (config : isConfig argument = true) :
    configsOf [argument] = [[argument]] := by
  simp [configsOf, config]

theorem configsOf_cons_cons (config : isConfig argument = true) :
    configsOf (argument :: value :: rest) =
      [argument, value] :: configsOf rest := by
  rw [configsOf.eq_def]
  simp only [config, if_true]

theorem configsOf_append {first second : List OsString}
    (done : Scan.isPending isConfig first = false) :
    configsOf (first ++ second) = configsOf first ++ configsOf second := by
  induction first using Scan.scan_induction isConfig with
  | nil => rfl
  | free argument rest free ih =>
      rw [Scan.isPending_cons free] at done
      rw [List.cons_append, configsOf_cons free, configsOf_cons free, ih done]
      split <;> rfl
  | last argument config =>
      rw [Scan.isPending_singleton config] at done
      cases done
  | pair argument value rest config ih =>
      rw [Scan.isPending_cons_cons config] at done
      rw [List.cons_append, List.cons_append, configsOf_cons_cons config,
        configsOf_cons_cons config, ih done, List.cons_append]

theorem withoutConfigs_append {first second : List OsString}
    (done : Scan.isPending isConfig first = false) :
    withoutConfigs (first ++ second) =
      withoutConfigs first ++ withoutConfigs second :=
  Scan.kept_append configures_of_isConfig done

theorem not_isConfig_of_not_configures
    (other : configures argument = false) : isConfig argument = false := by
  rw [configures, Bool.or_eq_false_iff] at other
  exact other.1

theorem withoutConfigs_cons (other : configures argument = false) :
    withoutConfigs (argument :: rest) = argument :: withoutConfigs rest := by
  rw [withoutConfigs, Scan.kept_cons (not_isConfig_of_not_configures other),
    if_neg (by simp [other])]
  rfl

/-- Other arguments, by themselves. -/
theorem withoutConfigs_withoutConfigs :
    withoutConfigs (withoutConfigs items) = withoutConfigs items :=
  Scan.kept_of_undropped configures_of_isConfig
    fun _ member => (Scan.mem_kept member).2

theorem not_isConfig_of_withoutConfigs :
    ∀ argument ∈ withoutConfigs items, isConfig argument = false := by
  intro argument member
  exact not_isConfig_of_not_configures (Scan.mem_kept member).2

theorem isPending_withoutConfigs :
    Scan.isPending isConfig (withoutConfigs items) = false :=
  Scan.isPending_of_free not_isConfig_of_withoutConfigs

theorem configsOf_withoutConfigs : configsOf (withoutConfigs items) = [] := by
  have unconfigured : ∀ others : List OsString,
      (∀ argument ∈ others, configures argument = false) →
        configsOf others = [] := by
    intro others free
    induction others with
    | nil => rfl
    | cons argument rest ih =>
        have other := free argument List.mem_cons_self
        rw [configsOf_cons (not_isConfig_of_not_configures other),
          if_neg (by simp [other])]
        exact ih fun later member => free later (List.mem_cons_of_mem _ member)
  exact unconfigured _ fun _ member => (Scan.mem_kept member).2

/-- Every argument is in one of the two parts. -/
theorem length_parts : items.length =
    (withoutConfigs items).length + (configsOf items).flatten.length := by
  unfold withoutConfigs
  induction items using Scan.scan_induction isConfig with
  | nil => rfl
  | free argument rest free ih =>
      rw [Scan.kept_cons free, configsOf_cons free, List.length_cons, ih]
      split
      · simp only [List.flatten_cons, List.length_append,
          List.length_singleton]
        omega
      · rw [List.length_cons]
        omega
  | last argument config =>
      rw [Scan.kept_singleton (configures_of_isConfig argument config),
        configsOf_singleton config]
      rfl
  | pair argument value rest config ih =>
      rw [Scan.kept_cons_cons config (configures_of_isConfig argument config),
        configsOf_cons_cons config, List.length_cons, List.length_cons, ih]
      simp only [List.flatten_cons, List.length_append, List.length_cons,
        List.length_nil]
      omega

/-- Configurations with their values, by themselves. -/
theorem flatten_configsOf (done : Scan.isPending isConfig items = false) :
    Scan.isPending isConfig (configsOf items).flatten = false ∧
      withoutConfigs (configsOf items).flatten = [] ∧
      configsOf (configsOf items).flatten = configsOf items := by
  unfold withoutConfigs
  induction items using Scan.scan_induction isConfig with
  | nil => exact ⟨rfl, rfl, rfl⟩
  | free argument rest free ih =>
      rw [Scan.isPending_cons free] at done
      obtain ⟨pending, others, configs⟩ := ih done
      rw [configsOf_cons free]
      split
      · rename_i joins
        rw [List.flatten_cons, List.singleton_append,
          Scan.isPending_cons free, Scan.kept_cons free, if_pos joins,
          configsOf_cons free, if_pos joins, configs]
        exact ⟨pending, others, rfl⟩
      · exact ⟨pending, others, configs⟩
  | last argument config =>
      rw [Scan.isPending_singleton config] at done
      cases done
  | pair argument value rest config ih =>
      rw [Scan.isPending_cons_cons config] at done
      obtain ⟨pending, others, configs⟩ := ih done
      rw [configsOf_cons_cons config, List.flatten_cons, List.cons_append,
        List.singleton_append, Scan.isPending_cons_cons config,
        Scan.kept_cons_cons config (configures_of_isConfig argument config),
        configsOf_cons_cons config, configs]
      exact ⟨pending, others, rfl⟩

theorem mem_of_configsOf (member : argument ∈ (configsOf items).flatten) :
    argument ∈ items := by
  induction items using Scan.scan_induction isConfig with
  | nil => cases member
  | free first rest free ih =>
      rw [configsOf_cons free] at member
      split at member
      · rw [List.flatten_cons, List.singleton_append,
          List.mem_cons] at member
        rcases member with rfl | later
        · exact List.mem_cons_self
        · exact List.mem_cons_of_mem _ (ih later)
      · exact List.mem_cons_of_mem _ (ih member)
  | last first config =>
      rw [configsOf_singleton config] at member
      simpa using member
  | pair first value rest config ih =>
      rw [configsOf_cons_cons config, List.flatten_cons,
        List.mem_append] at member
      rcases member with here | later
      · exact List.mem_append_left rest here
      · exact List.mem_cons_of_mem _ (List.mem_cons_of_mem _ (ih later))

theorem separateConfigs_cons (free : isConfig argument = false) :
    separateConfigs next (argument :: rest) =
      if configures argument then
        ((separateConfigs next rest).1,
          argument :: (separateConfigs next rest).2)
      else
        (argument :: (separateConfigs next rest).1,
          (separateConfigs next rest).2) := by
  have other : argument.toStringLossy ≠ "--config" := by
    simpa [isConfig] using free
  rw [separateConfigs.eq_def]
  simp only [if_neg other, configures, free, Bool.false_or]

theorem separateConfigs_singleton (config : isConfig argument = true) :
    separateConfigs next [argument] =
      ([], next.toList.flatMap fun value => [argument, value]) := by
  have same : argument.toStringLossy = "--config" := by
    simpa [isConfig] using config
  rw [separateConfigs.eq_def]
  simp only [if_pos same]

theorem separateConfigs_cons_cons (config : isConfig argument = true) :
    separateConfigs next (argument :: value :: rest) =
      ((separateConfigs next rest).1,
        argument :: value :: (separateConfigs next rest).2) := by
  have same : argument.toStringLossy = "--config" := by
    simpa [isConfig] using config
  rw [separateConfigs.eq_def]
  simp only [if_pos same]

theorem separateConfigs_fst :
    (separateConfigs next items).1 = withoutConfigs items := by
  unfold withoutConfigs
  induction items using Scan.scan_induction isConfig with
  | nil => rfl
  | free argument rest free ih =>
      rw [separateConfigs_cons free, Scan.kept_cons free, ← ih]
      split <;> rfl
  | last argument config =>
      rw [separateConfigs_singleton config,
        Scan.kept_singleton (configures_of_isConfig argument config)]
  | pair argument value rest config ih =>
      rw [separateConfigs_cons_cons config,
        Scan.kept_cons_cons config (configures_of_isConfig argument config),
        ih]

theorem separateConfigs_snd_append {first second : List OsString}
    (done : Scan.isPending isConfig first = false) :
    (separateConfigs next (first ++ second)).2 =
      (configsOf first).flatten ++ (separateConfigs next second).2 := by
  induction first using Scan.scan_induction isConfig with
  | nil => rfl
  | free argument rest free ih =>
      rw [Scan.isPending_cons free] at done
      rw [List.cons_append, separateConfigs_cons free, configsOf_cons free]
      split
      · rw [ih done, List.flatten_cons, List.append_assoc,
          List.singleton_append]
      · exact ih done
  | last argument config =>
      rw [Scan.isPending_singleton config] at done
      cases done
  | pair argument value rest config ih =>
      rw [Scan.isPending_cons_cons config] at done
      rw [List.cons_append, List.cons_append,
        separateConfigs_cons_cons config, configsOf_cons_cons config,
        ih done, List.flatten_cons, List.append_assoc]
      rfl

/-- Where no option waits for its value, the loop finds the configurations. -/
theorem separateConfigs_snd (done : Scan.isPending isConfig items = false) :
    (separateConfigs next items).2 = (configsOf items).flatten := by
  have whole := @separateConfigs_snd_append next items [] done
  simpa [separateConfigs] using whole

theorem back_eq_cons (nonempty : back arguments ≠ []) :
    ∃ rest, back arguments = dashes :: rest := by
  obtain ⟨first, rest, left⟩ := List.exists_cons_of_ne_nil nonempty
  have found := List.head?_dropWhile_not (· ≠ dashes) arguments
  unfold back at left
  rw [left] at found
  have same : first = dashes := by simpa using found
  exact ⟨rest, left.trans (by rw [same])⟩

/-! ## The toolchain -/

theorem splitToolchain_append :
    (splitToolchain arguments).1 ++ (splitToolchain arguments).2 =
      arguments := by
  cases arguments with
  | nil => rfl
  | cons first rest =>
      simp only [splitToolchain]
      split <;> rfl

/-- The first argument tells whether there is a toolchain. -/
theorem splitToolchain_append_of_ne_nil {first second : List OsString}
    (nonempty : first ≠ []) :
    splitToolchain (first ++ second) =
      ((splitToolchain first).1, (splitToolchain first).2 ++ second) := by
  cases first with
  | nil => exact absurd rfl nonempty
  | cons head rest =>
      simp only [List.cons_append, splitToolchain]
      split <;> rfl

theorem splitToolchain_cases :
    (splitToolchain arguments).1 = [] ∨ ∃ first rest text,
      arguments = first :: rest ∧ first.toStr = some text ∧
      Text.startsWith text "+" = true ∧
      splitToolchain arguments = ([first], rest) := by
  cases arguments with
  | nil => exact Or.inl rfl
  | cons first rest =>
      simp only [splitToolchain]
      split
      · rename_i starts
        obtain ⟨text, read, plus⟩ :=
          (Option.any_eq_true _ _).mp starts
        exact Or.inr ⟨first, rest, text, rfl, read, plus, rfl⟩
      · exact Or.inl rfl

/-- A toolchain is no option that takes a value. -/
theorem isConfig_of_toolchain {text : String}
    (read : argument.toStr = some text)
    (starts : Text.startsWith text "+" = true) :
    isConfig argument = false ∧ takesGlobal argument = false ∧
      argument ≠ dashes := by
  have apart : ∀ other, Text.startsWith other "+" = false → text ≠ other := by
    rintro other unnamed rfl
    rw [starts] at unnamed
    cases unnamed
  refine ⟨?_, ?_, ?_⟩
  · rw [isConfig, toStringLossy_of_toStr read, decide_eq_false_iff_not]
    exact apart "--config" (by decide)
  · rw [takesGlobal, read, Option.any_some, decide_eq_false_iff_not]
    simp only [List.mem_cons, List.not_mem_nil, or_false, not_or]
    exact ⟨apart "--config" (by decide), apart "-C" (by decide),
      apart "-Z" (by decide)⟩
  · rintro rfl
    rw [dashes, toStr_ofString] at read
    cases read
    exact apart "--" (by decide) rfl

theorem front_splitToolchain :
    (splitToolchain arguments).1 ++ front (splitToolchain arguments).2 =
      front arguments ∧
      back (splitToolchain arguments).2 = back arguments := by
  rcases @splitToolchain_cases arguments with plain | plus
  · have whole := @splitToolchain_append arguments
    rw [plain, List.nil_append] at whole ⊢
    rw [whole]
    exact ⟨rfl, rfl⟩
  · obtain ⟨first, rest, text, rfl, read, starts, split⟩ := plus
    have proper := (isConfig_of_toolchain read starts).2.2
    rw [split]
    simp [front, back, proper]

theorem splitToolchain_front :
    splitToolchain (front arguments) =
      ((splitToolchain arguments).1, front (splitToolchain arguments).2) := by
  rcases @splitToolchain_cases arguments with plain | plus
  · have whole := @splitToolchain_append arguments
    rw [plain, List.nil_append] at whole
    rw [plain, whole]
    by_cases empty : front arguments = []
    · rw [empty]
      rfl
    · have split := @splitToolchain_append_of_ne_nil (front arguments)
        (back arguments) empty
      rw [show front arguments ++ back arguments = arguments from
        List.takeWhile_append_dropWhile] at split
      have first : (splitToolchain (front arguments)).1 = [] := by
        rw [split] at plain
        exact plain
      have same := @splitToolchain_append (front arguments)
      rw [first, List.nil_append] at same
      exact Prod.ext first same
  · obtain ⟨first, rest, text, rfl, read, starts, split⟩ := plus
    have proper := (isConfig_of_toolchain read starts).2.2
    have kept : front (first :: rest) = first :: front rest := by
      simp [front, proper]
    rw [split, kept]
    simp [splitToolchain, read, starts]

theorem isPending_splitToolchain {takes : OsString → Bool}
    (apart : ∀ argument text, argument.toStr = some text →
      Text.startsWith text "+" = true → takes argument = false) :
    Scan.isPending takes (splitToolchain arguments).2 =
      Scan.isPending takes arguments := by
  rcases @splitToolchain_cases arguments with plain | plus
  · have whole := @splitToolchain_append arguments
    rw [plain, List.nil_append] at whole
    rw [whole]
  · obtain ⟨first, rest, text, rfl, read, starts, split⟩ := plus
    rw [split, Scan.isPending_cons (apart first text read starts)]

theorem isPending_front :
    Scan.isPending isConfig (front (splitToolchain arguments).2) =
      Scan.isPending isConfig (front arguments) := by
  have same := @isPending_splitToolchain (front arguments) isConfig
    fun _ _ read starts => (isConfig_of_toolchain read starts).1
  rwa [splitToolchain_front] at same

theorem statusArguments_eq :
    statusArguments arguments (some config) =
      (splitToolchain arguments).1 ++
        (withoutConfigs (front (splitToolchain arguments).2) ++
          (separateConfigs (back arguments).head?
            (front (splitToolchain arguments).2)).2 ++
          [configOption, config] ++ back arguments) := by
  rw [← front_splitToolchain.2, ← @separateConfigs_fst _
    (back (splitToolchain arguments).2).head?]
  rfl

theorem cargoArguments_of_dashed
    (dashed : programIndex takesValue arguments = (front arguments).length) :
    cargoArguments takesValue arguments = front arguments ∧
      programArguments takesValue arguments = back arguments := by
  have whole : front arguments ++ back arguments = arguments :=
    List.takeWhile_append_dropWhile
  rw [cargoArguments, programArguments, dashed]
  constructor
  · exact (congrArg (List.take _) whole).symm.trans List.take_left
  · exact (congrArg (List.drop _) whole).symm.trans List.drop_left

theorem parts_configOption :
    withoutConfigs [configOption, config] = [] ∧
      configsOf [configOption, config] = [[configOption, config]] := by
  have taking : isConfig configOption = true := by
    rw [isConfig, configOption, toStringLossy_ofString, decide_eq_true_iff]
  constructor
  · rw [withoutConfigs, Scan.kept_cons_cons taking
      (configures_of_isConfig _ taking)]
    rfl
  · rw [configsOf_cons_cons taking]
    rfl

/-- Before `--` Cargo gets what is meant for it, if no `--config` waits for
its value. -/
theorem delivered_of_dashed (proper : config ≠ dashes)
    (dashed : programIndex takesValue arguments = (front arguments).length)
    (complete : Scan.isPending isConfig (front arguments) = false) :
    Delivered takesValue arguments config
      (statusArguments arguments (some config)) := by
  obtain ⟨cargo, program⟩ := cargoArguments_of_dashed dashed
  have done := isPending_front.trans complete
  obtain ⟨pending, others, configs⟩ := flatten_configsOf done
  rw [Delivered, cargo, program, splitToolchain_front, statusArguments_eq,
    separateConfigs_snd done]
  refine ⟨withoutConfigs (front (splitToolchain arguments).2) ++
    ((configsOf (front (splitToolchain arguments).2)).flatten ++
      [configOption, config]), ?_, ?_, ?_, ?_⟩
  · simp only [List.append_assoc]
  · intro member
    rcases List.mem_append.mp member with other | member
    · exact ne_dashes_of_front (Scan.mem_kept other).1 rfl
    · rcases List.mem_append.mp member with given | added
      · exact ne_dashes_of_front (mem_of_configsOf given) rfl
      · simp only [List.mem_cons, List.not_mem_nil, or_false] at added
        rcases added with option | path
        · rw [dashes, configOption, ofString_inj] at option
          exact absurd option (by decide)
        · exact proper path.symm
  · rw [withoutConfigs_append isPending_withoutConfigs,
      withoutConfigs_append pending, others, parts_configOption.1,
      withoutConfigs_withoutConfigs, List.append_nil, List.append_nil]
  · rw [configsOf_append isPending_withoutConfigs, configsOf_withoutConfigs,
      configsOf_append pending, configs, parts_configOption.2,
      List.nil_append]

/-- An option that waits for its value gets the `--`, or is lost. -/
theorem not_delivered_of_pending
    (dashed : programIndex takesValue arguments = (front arguments).length)
    (pending : Scan.isPending isConfig (front arguments) = true) :
    ¬ Delivered takesValue arguments config
      (statusArguments arguments (some config)) := by
  obtain ⟨before, last, split, waiting, done⟩ :=
    Scan.exists_of_isPending (isPending_front.trans pending)
  obtain ⟨pendingBefore, others, configs⟩ := flatten_configsOf done
  obtain ⟨cargo, program⟩ := cargoArguments_of_dashed dashed
  rw [Delivered, cargo, program, splitToolchain_front, statusArguments_eq]
  rintro ⟨given, same, noDashes, -, configsGiven⟩
  have built := List.append_cancel_right (List.append_cancel_left
    (same.trans (List.append_assoc ..).symm |>.trans
      (List.append_assoc ..)))
  rw [split, separateConfigs_snd_append done,
    separateConfigs_singleton waiting] at built
  cases left : back arguments with
  | cons first rest =>
      refine noDashes ?_
      obtain ⟨_, starts⟩ := back_eq_cons (left ▸ List.cons_ne_nil first rest)
      rw [← built, starts]
      simp
  | nil =>
      rw [left] at built
      simp only [List.head?_nil, Option.toList_none, List.flatMap_nil,
        List.append_nil] at built
      have counted : configsOf given =
          configsOf before ++ [[configOption, config]] := by
        rw [← built, List.append_assoc,
          configsOf_append isPending_withoutConfigs,
          configsOf_withoutConfigs, configsOf_append pendingBefore, configs,
          parts_configOption.2, List.nil_append]
      rw [counted, split, configsOf_append done,
        configsOf_singleton waiting] at configsGiven
      have lengths := congrArg List.length configsGiven
      simp at lengths

/-- Where the program begins before any `--`. -/
theorem positional_of_programIndex
    (early : programIndex takesValue arguments ≠ (front arguments).length) :
    0 < programIndex takesValue arguments ∧
      programIndex takesValue arguments < (front arguments).length ∧
      isPositional takesValue arguments
        (programIndex takesValue arguments) = true := by
  unfold programIndex at early ⊢
  split at early
  · rename_i command _ found
    cases search : (List.range (front arguments).length).find? fun index =>
        command < index && isPositional takesValue arguments index with
    | none =>
        rw [search] at early
        exact absurd rfl early
    | some index =>
        have holds := List.find?_some search
        have listed := List.mem_of_find?_eq_some search
        rw [Bool.and_eq_true, decide_eq_true_eq] at holds
        rw [List.mem_range] at listed
        simp only [Option.getD_some]
        exact ⟨by omega, listed, holds.2⟩
  · exact absurd rfl early

theorem not_configures_of_plain
    (plain : Text.startsWith argument.toStringLossy "-" = false) :
    configures argument = false := by
  have apart : ∀ rest,
      Text.startsWith argument.toStringLossy ("-" ++ rest) = false := by
    intro rest
    rw [Bool.eq_false_iff] at plain ⊢
    exact fun starts => plain (Text.startsWith_of_append starts)
  rw [configures, isConfig, Bool.or_eq_false_iff, decide_eq_false_iff_not]
  refine ⟨?_, apart "-config="⟩
  intro same
  have starts := apart "-config"
  rw [same] at starts
  exact absurd starts (by decide)

/-- What comes before a positional argument waits for no value. -/
theorem not_isPending_of_isPositional {index : Nat}
    (valued : takesValue "--config" = true)
    (inside : index < (front arguments).length) (later : 0 < index)
    (positional : isPositional takesValue arguments index = true) :
    Scan.isPending isConfig ((front arguments).take index) = false := by
  rw [Bool.eq_false_iff]
  intro pending
  obtain ⟨before, last, split, waiting, -⟩ := Scan.exists_of_isPending pending
  have lengths := congrArg List.length split
  rw [List.length_take, List.length_append, List.length_singleton] at lengths
  have place : index - 1 = before.length := by omega
  have there : arguments[index - 1]? = some last := by
    have whole : front arguments ++ back arguments = arguments :=
      List.takeWhile_append_dropWhile
    have taken : ((front arguments).take index)[index - 1]? =
        (front arguments)[index - 1]? :=
      List.getElem?_take_of_lt (by omega)
    rw [split, place, List.getElem?_concat_length] at taken
    rw [← whole, List.getElem?_append_left (by omega), place]
    exact taken.symm
  rw [isPositional, there, Bool.and_eq_true, Option.any_some] at positional
  have shown : last.toStringLossy = "--config" := by
    simpa [isConfig] using waiting
  rw [shown, valued] at positional
  cases positional.2

/-- What follows a positional argument of the program is taken for Cargo's. -/
theorem not_delivered_of_positional (valued : takesValue "--config" = true)
    (early : programIndex takesValue arguments ≠ (front arguments).length) :
    ¬ Delivered takesValue arguments config
      (statusArguments arguments (some config)) := by
  obtain ⟨later, inside, positional⟩ := positional_of_programIndex early
  have done := not_isPending_of_isPositional valued inside later positional
  have whole : front arguments ++ back arguments = arguments :=
    List.takeWhile_append_dropWhile
  unfold Delivered cargoArguments programArguments
  generalize programIndex takesValue arguments = index at *
  have cargo : arguments.take index = (front arguments).take index := by
    conv_lhs => rw [← whole]
    exact List.take_append_of_le_length (by omega)
  have program : arguments.drop index =
      (front arguments).drop index ++ back arguments := by
    conv_lhs => rw [← whole]
    exact List.drop_append_of_le_length (by omega)
  obtain ⟨first, rest, dropped⟩ : ∃ first rest,
      (front arguments).drop index = first :: rest :=
    List.exists_cons_of_ne_nil (by simp; omega)
  have plain : Text.startsWith first.toStringLossy "-" = false := by
    have there : arguments[index]? = some first := by
      have at_ := @List.getElem?_drop _ (front arguments) index 0
      rw [dropped, Nat.add_zero] at at_
      rw [← whole, List.getElem?_append_left inside, ← at_]
      rfl
    rw [isPositional, there, Bool.and_eq_true, Option.any_some] at positional
    simpa using positional.1
  have other := not_configures_of_plain plain
  -- both command lines have the same toolchain
  have nonempty : (front arguments).take index ≠ [] := by
    intro empty
    have lengths := congrArg List.length empty
    rw [List.length_take, List.length_nil] at lengths
    omega
  have split := @splitToolchain_append_of_ne_nil _
    ((front arguments).drop index) nonempty
  rw [List.take_append_drop, splitToolchain_front, dropped] at split
  obtain ⟨toolchain, given⟩ := Prod.mk.inj split
  have complete := @isPending_splitToolchain
    ((front arguments).take index) isConfig
    fun _ _ read starts => (isConfig_of_toolchain read starts).1
  rw [done] at complete
  rw [cargo, program, dropped, statusArguments_eq, toolchain, given]
  rintro ⟨delivered, same, -, others, configs⟩
  have built := List.append_cancel_right (List.append_cancel_left
    (same.trans (congrArg _ (List.append_assoc ..).symm)))
  rw [withoutConfigs_append complete, withoutConfigs_cons other] at built
  have lengths := @length_parts delivered
  rw [others, configs, List.flatten_append, List.length_append] at lengths
  -- what is delivered has the positional argument in it
  have starts : withoutConfigs (splitToolchain
      ((front arguments).take index)).2 ++ [first] <+: delivered := by
    refine List.prefix_of_prefix_length_le ?_ (List.prefix_append _
      (first :: rest)) ?_
    · rw [← built]
      simp
    · simp at lengths ⊢
      omega
  obtain ⟨more, ends⟩ := starts
  rw [← ends, List.append_assoc, withoutConfigs_append
    isPending_withoutConfigs, withoutConfigs_withoutConfigs,
    List.singleton_append, withoutConfigs_cons other] at others
  have counted := congrArg List.length others
  simp at counted

/-! ## The readers -/

/-- An argument that is a global option by itself, or a toolchain. -/
def isGlobal (index : Nat) (argument : OsString) : Bool :=
  argument.toStr.any fun text =>
    Text.startsWith text "+" && index = 0 ||
      (Text.startsWith text "--config=" || joined text "-C" ||
        joined text "-Z")

theorem globalOptionsFrom_cons {index : Nat} (proper : argument ≠ dashes)
    (free : takesGlobal argument = false) :
    globalOptionsFrom index (argument :: rest) =
      if isGlobal index argument then
        argument :: globalOptionsFrom (index + 1) rest
      else globalOptionsFrom (index + 1) rest := by
  rw [globalOptionsFrom.eq_def]
  simp only [if_neg proper]
  cases read : argument.toStr with
  | none => simp [isGlobal, read]
  | some text =>
      have other : text ∉ ["--config", "-C", "-Z"] := by
        simpa [takesGlobal, read] using free
      simp only [isGlobal, read, Option.any_some, if_neg other]
      split
      · rename_i starts
        rw [starts, Bool.true_or, if_pos rfl]
      · rename_i starts
        rw [Bool.not_eq_true] at starts
        rw [starts, Bool.false_or]

theorem globalOptionsFrom_of_takes {index : Nat}
    (takes : takesGlobal argument = true) :
    globalOptionsFrom index [argument] = [] ∧
      globalOptionsFrom index (argument :: value :: rest) =
        argument :: value :: globalOptionsFrom (index + 2) rest := by
  obtain ⟨text, read, listed⟩ := (Option.any_eq_true _ _).mp takes
  rw [decide_eq_true_eq] at listed
  have plain : Text.startsWith text "+" = false ∧ text ≠ "--" := by
    simp only [List.mem_cons, List.not_mem_nil, or_false] at listed
    rcases listed with rfl | rfl | rfl <;> decide
  have proper : argument ≠ dashes := by
    rintro rfl
    rw [dashes, toStr_ofString] at read
    exact plain.2 (Option.some.inj read).symm
  constructor
  · rw [globalOptionsFrom.eq_def]
    simp [read, plain.1, listed]
  · rw [globalOptionsFrom.eq_def]
    simp [if_neg proper, read, plain.1, listed]

theorem globalOptionsFrom_back {index : Nat} :
    globalOptionsFrom index (back arguments) = [] := by
  by_cases empty : back arguments = []
  · rw [empty]
    rfl
  · obtain ⟨rest, starts⟩ := back_eq_cons empty
    rw [starts, globalOptionsFrom.eq_def]
    simp only [if_pos]

/-- The scan stops at `--`, unless an option before it takes it. -/
theorem globalOptionsFrom_append {index : Nat} {first : List OsString}
    (proper : ∀ argument ∈ first, argument ≠ dashes)
    (done : Scan.isPending takesGlobal first = false) :
    globalOptionsFrom index (first ++ back arguments) =
      globalOptionsFrom index first := by
  induction first using Scan.scan_induction takesGlobal generalizing index with
  | nil => exact globalOptionsFrom_back
  | free argument rest free ih =>
      rw [Scan.isPending_cons free] at done
      have here := proper argument List.mem_cons_self
      have later := @ih (index + 1)
        (fun other member => proper other (List.mem_cons_of_mem _ member)) done
      rw [List.cons_append, globalOptionsFrom_cons here free,
        globalOptionsFrom_cons here free, later]
  | last argument takes =>
      rw [Scan.isPending_singleton takes] at done
      cases done
  | pair argument value rest takes ih =>
      rw [Scan.isPending_cons_cons takes] at done
      have later := @ih (index + 2) (fun other member => proper other
        (List.mem_cons_of_mem _ (List.mem_cons_of_mem _ member))) done
      rw [List.cons_append, List.cons_append,
        (globalOptionsFrom_of_takes takes).2,
        (globalOptionsFrom_of_takes takes).2, later]

/-- An option that takes the `--` is found with it. -/
theorem globalOptionsFrom_lt {index : Nat} {first : List OsString}
    (proper : ∀ argument ∈ first, argument ≠ dashes)
    (pending : Scan.isPending takesGlobal first = true) :
    (globalOptionsFrom index first).length <
      (globalOptionsFrom index (first ++ value :: rest)).length := by
  induction first using Scan.scan_induction takesGlobal generalizing index with
  | nil => cases pending
  | free argument later free ih =>
      rw [Scan.isPending_cons free] at pending
      have here := proper argument List.mem_cons_self
      have longer := @ih (index + 1)
        (fun other member => proper other (List.mem_cons_of_mem _ member))
        pending
      rw [List.cons_append, globalOptionsFrom_cons here free,
        globalOptionsFrom_cons here free]
      split
      · rw [List.length_cons, List.length_cons]
        omega
      · exact longer
  | last argument takes =>
      rw [(@globalOptionsFrom_of_takes [] argument value index takes).1,
        List.singleton_append, (globalOptionsFrom_of_takes takes).2]
      simp
  | pair argument other later takes ih =>
      rw [Scan.isPending_cons_cons takes] at pending
      have longer := @ih (index + 2) (fun argument member => proper argument
        (List.mem_cons_of_mem _ (List.mem_cons_of_mem _ member))) pending
      rw [List.cons_append, List.cons_append,
        (globalOptionsFrom_of_takes takes).2,
        (globalOptionsFrom_of_takes takes).2]
      simpa using longer

/-- Only the option itself looks at the next argument. -/
theorem valueOf_of_ne {text : String} (different : text ≠ name) :
    valueOf name text next = valueOf name text none := by
  unfold valueOf
  rw [if_neg different, if_neg different]

theorem optionValues_cons (proper : argument ≠ dashes) :
    optionValues names (argument :: rest) =
      (argument.toStr.toList.flatMap fun text => names.flatMap fun name =>
        valueOf name text rest.head?) ++ optionValues names rest := by
  rw [optionValues, if_neg proper]
  cases argument.toStr <;> simp

/-- The values before `--` are found without what follows, unless the last
argument is an option that takes the `--`. -/
theorem optionValues_front {first : List OsString}
    (proper : ∀ argument ∈ first, argument ≠ dashes)
    (ended : first.getLast?.any (fun argument =>
      argument.toStr.any (· ∈ names)) = false) :
    optionValues names (first ++ back arguments) =
      optionValues names first := by
  induction first with
  | nil => exact optionValues_back
  | cons argument later ih =>
      have here := proper argument List.mem_cons_self
      have properLater : ∀ other ∈ later, other ≠ dashes :=
        fun other member => proper other (List.mem_cons_of_mem _ member)
      rw [List.cons_append, optionValues_cons here, optionValues_cons here]
      cases later with
      | nil =>
          rw [List.nil_append, optionValues_back]
          cases read : argument.toStr with
          | none => rfl
          | some text =>
              have unnamed : text ∉ names := by
                simpa [read] using ended
              have same : (names.flatMap fun name =>
                  valueOf name text (back arguments).head?) =
                  names.flatMap fun name => valueOf name text none := by
                refine List.flatMap_congr fun name member => ?_
                exact valueOf_of_ne fun same => unnamed (same ▸ member)
              simp [same, optionValues]
      | cons other later =>
          rw [ih properLater (by simpa using ended)]
          rfl

theorem length_flatMap_valueOf {text : String} :
    (names.flatMap fun name => valueOf name text (some value)).length =
      (names.flatMap fun name => valueOf name text none).length +
        names.count text := by
  induction names with
  | nil => rfl
  | cons name rest ih =>
      rw [List.flatMap_cons, List.flatMap_cons, List.length_append,
        List.length_append, ih, List.count_cons]
      by_cases same : text = name
      · subst same
        have one : (valueOf text text (some value)).length = 1 := by
          rw [valueOf, if_pos rfl]
          rfl
        have other : (valueOf text text none).length = 0 := by
          rw [valueOf, if_pos rfl]
          rfl
        rw [one, other, beq_self_eq_true, if_pos rfl]
        omega
      · rw [valueOf_of_ne same, if_neg (by simpa using Ne.symm same)]
        omega

/-- An option that takes the `--` has one value more. -/
theorem optionValues_lt {first : List OsString}
    (proper : ∀ argument ∈ first, argument ≠ dashes)
    (named : first.getLast?.any (fun argument =>
      argument.toStr.any (· ∈ names)) = true) :
    (optionValues names first).length <
      (optionValues names (first ++ dashes :: rest)).length := by
  induction first with
  | nil => cases named
  | cons argument later ih =>
      have here := proper argument List.mem_cons_self
      have properLater : ∀ other ∈ later, other ≠ dashes :=
        fun other member => proper other (List.mem_cons_of_mem _ member)
      rw [List.cons_append, optionValues_cons here, optionValues_cons here]
      cases later with
      | nil =>
          obtain ⟨text, read, listed⟩ : ∃ text,
              argument.toStr = some text ∧ text ∈ names := by
            simpa [Option.any_eq_true] using named
          have empty : optionValues names (dashes :: rest) = [] := by
            rw [optionValues, if_pos rfl]
          have counted := List.count_pos_iff.mpr listed
          rw [List.nil_append, empty]
          simp only [read, Option.toList_some, List.flatMap_cons,
            List.flatMap_nil, List.append_nil, List.head?_cons,
            List.head?_nil, length_flatMap_valueOf, optionValues]
          omega
      | cons other later =>
          have longer := ih properLater (by simpa using named)
          simp only [List.cons_append, List.head?_cons, List.length_append]
            at longer ⊢
          omega

theorem hasOption_front :
    hasOption (front arguments) name = hasOption arguments name := by
  have same : front (front arguments) = front arguments := by
    have whole := @front_append_back [] (front arguments)
      fun _ => ne_dashes_of_front
    simpa [back] using whole
  rw [hasOption, hasOption, same]

/-- The wrapper keeps the two kinds of arguments apart exactly when those of
the program begin at `--` and no option before it takes it for its value. -/
theorem statusArguments_keptApart_iff
    (valued : takesValue "--config" = true) (proper : config ≠ dashes) :
    KeptApart takesValue names name arguments config ↔
      Separated takesValue names arguments := by
  have whole : front arguments ++ back arguments = arguments :=
    List.takeWhile_append_dropWhile
  have noDashes : ∀ argument ∈ front arguments, argument ≠ dashes :=
    fun _ => ne_dashes_of_front
  constructor
  · intro kept
    have dashed : programIndex takesValue arguments =
        (front arguments).length := by
      by_contra early
      exact not_delivered_of_positional valued early kept.delivered
    have cargo := (cargoArguments_of_dashed dashed).1
    refine ⟨dashed, ?_, ?_, ?_⟩
    · rw [Bool.eq_false_iff]
      exact fun pending =>
        not_delivered_of_pending dashed pending kept.delivered
    · intro nonempty
      obtain ⟨rest, left⟩ := back_eq_cons nonempty
      rw [Bool.eq_false_iff]
      intro pending
      have longer := @globalOptionsFrom_lt rest dashes 0 _ noDashes pending
      have same := kept.globals
      rw [cargo, ← whole, front_append_back noDashes, left] at same
      rw [globalOptions, globalOptions] at same
      rw [same] at longer
      exact absurd longer (lt_irrefl _)
    · intro nonempty
      obtain ⟨rest, left⟩ := back_eq_cons nonempty
      rw [Bool.eq_false_iff]
      intro named
      have longer := @optionValues_lt names rest _ noDashes named
      have same := kept.values
      rw [cargo, ← whole, front_append_back noDashes, left] at same
      rw [same] at longer
      exact absurd longer (lt_irrefl _)
  · intro separated
    have cargo := (cargoArguments_of_dashed separated.dashed).1
    refine ⟨delivered_of_dashed proper separated.dashed separated.complete,
      ?_, ?_, ?_⟩
    · rw [cargo]
      by_cases empty : back arguments = []
      · rw [empty, List.append_nil] at whole
        rw [whole]
      · conv_lhs => rw [← whole]
        exact globalOptionsFrom_append noDashes (separated.globals empty)
    · rw [cargo]
      by_cases empty : back arguments = []
      · rw [empty, List.append_nil] at whole
        rw [whole]
      · conv_lhs => rw [← whole]
        exact optionValues_front noDashes (separated.values empty)
    · rw [cargo]
      exact hasOption_front.symm

/-- Some of the options of `cargo run` that take a value. -/
def runOptions (option : String) : Bool :=
  option ∈ ["--config", "-C", "-Z", "--color", "--bin", "--example", "-p",
    "--package", "-F", "--features", "-j", "--jobs", "--profile",
    "--target", "--target-dir", "--manifest-path"]

def patchConfig : OsString :=
  ofString "/tmp/telekio/guest/config.toml"

theorem patchConfig_proper : patchConfig ≠ dashes := by
  rw [patchConfig, dashes, Ne, ofString_inj]
  decide

def testArguments : List OsString :=
  ["+nightly", "test", "--config", "a.toml", "--release", "--", "--config",
    "b"].map ofString

theorem statusArguments_keptApart_test :
    KeptApart runOptions ["--package", "-p"] "--workspace" testArguments
      patchConfig :=
  (statusArguments_keptApart_iff rfl patchConfig_proper).mpr
    ⟨by decide +kernel, by decide +kernel, fun _ => by decide +kernel,
      fun _ => by decide +kernel⟩

def runArguments : List OsString :=
  ["run", "server", "--config", "app.toml"].map ofString

/-- The server loses an option of its own, and gets the configuration of the
patch. -/
theorem not_forall_keptApart :
    statusArguments runArguments (some patchConfig) =
        ["run", "server", "--config", "app.toml", "--config",
          "/tmp/telekio/guest/config.toml"].map ofString ∧
      programArguments runOptions runArguments =
        ["server", "--config", "app.toml"].map ofString ∧
      ¬ ∀ (takesValue : String → Bool) (names : List String) (name : String)
          (arguments : List OsString) (config : OsString),
        takesValue "--config" = true → config ≠ dashes →
        KeptApart takesValue names name arguments config := by
  refine ⟨rfl, rfl, ?_⟩
  intro claim
  have kept := claim runOptions [] "" runArguments patchConfig rfl
    patchConfig_proper
  have early : programIndex runOptions runArguments = 1 := rfl
  have dashed : (front runArguments).length = 4 := rfl
  refine not_delivered_of_positional rfl ?_ kept.delivered
  rw [early, dashed]
  decide

end Telekio.Command
