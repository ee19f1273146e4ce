import Telekio.Patching.Source

/-!
# Copying directories

A copy leaves everything else as it is, has every file of what it copies, and
works where there was nothing.
-/

namespace Telekio.Patching

open Telekio.Disk

variable {other destination : Path} {entry : Entry} {name : String}

mutual

theorem keeps_copyNode (name : String) (destination : Path)
    (outside : ¬ destination ++ [name] <+: other) : (node : Node) →
    Preserves (fun files => entryAt files other = some entry)
      (copyNode name destination node)
  | .file contents => by
      unfold copyNode
      refine .ite (.pure ()) (keeps_write_of_ne ?_)
      rintro rfl
      exact outside List.prefix_rfl
  | .directory entries => by
      unfold copyNode
      refine .ite (.pure ()) (.bind keeps_createDirAll fun _ => ?_)
      refine keeps_copyEntries _ entries fun below _ inside => outside ?_
      exact (List.prefix_append _ _).trans inside
  | .other => by
      unfold copyNode
      exact .ite (.pure ()) (.throw _)

theorem keeps_copyEntries (destination : Path) :
    (entries : List (String × Node)) →
    (∀ name ∈ entries.map Prod.fst, ¬ destination ++ [name] <+: other) →
    Preserves (fun files => entryAt files other = some entry)
      (copyEntries destination entries)
  | [], _ => .pure ()
  | (name, node) :: rest, outside => by
      unfold copyEntries
      refine .bind (keeps_copyNode name destination ?_ node) fun _ => ?_
      · exact outside name (by simp)
      · exact keeps_copyEntries destination rest
          fun name member => outside name (by simp [member])

end

section Frames

variable {region : Path → Prop} {base : Files}

mutual

theorem preserves_copyNode (name : String) (destination : Path)
    (anchored : Anchored region base destination)
    (inside : ∀ below, destination ++ [name] <+: below → region below) :
    (node : Node) →
    Preserves (AgreeOutside region base) (copyNode name destination node)
  | .file contents => by
      unfold copyNode
      exact .ite (.pure ()) (preserves_write (inside _ List.prefix_rfl))
  | .directory entries => by
      have further := anchored.snoc (inside _ List.prefix_rfl)
      unfold copyNode
      refine .ite (.pure ())
        (.bind (preserves_createDirAll further) fun _ => ?_)
      exact preserves_copyEntries _ further
        (fun under => inside _ ((List.prefix_append _ _).trans under))
        entries
  | .other => by
      unfold copyNode
      exact .ite (.pure ()) (.throw _)

theorem preserves_copyEntries (destination : Path)
    (anchored : Anchored region base destination)
    (inside : ∀ {name below}, destination ++ [name] <+: below →
      region below) :
    (entries : List (String × Node)) →
    Preserves (AgreeOutside region base) (copyEntries destination entries)
  | [] => .pure ()
  | (name, node) :: rest => by
      unfold copyEntries
      refine .bind (preserves_copyNode name destination anchored
        (fun _ => inside) node) fun _ => ?_
      exact preserves_copyEntries destination anchored inside rest

end

end Frames

/-- The contents of the file at a path. -/
def fileAt (entries : List (String × Node)) : Path → Option ByteArray
  | [] => none
  | name :: rest =>
      match entries.lookup name, rest with
      | some (.file contents), [] => some contents
      | some (.directory below), _ => fileAt below rest
      | _, _ => none

theorem fileAt_nil (path : Path) : fileAt [] path = none := by
  cases path <;> rfl

/-- Names are unique in each directory. -/
inductive Distinct : List (String × Node) → Prop where
  | nil : Distinct []
  | cons {name : String} {node : Node} {rest : List (String × Node)}
      (fresh : name ∉ rest.map Prod.fst)
      (below : ∀ entries, node = .directory entries → Distinct entries)
      (others : Distinct rest) : Distinct ((name, node) :: rest)

/-- Every file of the entries is there, below the destination. -/
def Copied (destination : Path) (entries : List (String × Node))
    (files : Files) : Prop :=
  ∀ path contents, fileAt entries path = some contents → ".git" ∉ path →
    entryAt files (destination ++ path) = some (.file contents)

/-- The same of one node. -/
def CopiedNode (target : Path) (node : Node) (files : Files) : Prop :=
  (∀ contents, node = .file contents →
    entryAt files target = some (.file contents)) ∧
  ∀ entries, node = .directory entries → Copied target entries files

theorem copied_cons {node : Node} {rest : List (String × Node)}
    {files : Files}
    (first : name ≠ ".git" → CopiedNode (destination ++ [name]) node files)
    (others : Copied destination rest files) :
    Copied destination ((name, node) :: rest) files := by
  intro path contents found ordinary
  cases path with
  | nil => cases found
  | cons start below =>
      unfold fileAt at found
      rw [List.lookup_cons] at found
      by_cases same : start = name
      · subst same
        rw [beq_self_eq_true] at found
        have here := first fun isGit => ordinary (by simp [isGit])
        dsimp only at found
        split at found
        · rename_i at_
          cases at_
          cases found
          exact here.1 contents rfl
        · rename_i below _ _ entries at_
          cases at_
          have ordinaryBelow : ".git" ∉ below :=
            fun member => ordinary (List.mem_cons_of_mem _ member)
          have there := here.2 entries rfl below contents found ordinaryBelow
          rwa [List.append_assoc, List.singleton_append] at there
        · cases found
      · rw [beq_eq_false_iff_ne.mpr same] at found
        exact others (start :: below) contents found ordinary

theorem keeps_copied {target : Path} {node : Node}
    {rest : List (String × Node)} (outside : ∀ name ∈ rest.map Prod.fst,
      ∀ below, ¬ destination ++ [name] <+: target ++ below) :
    Preserves (CopiedNode target node) (copyEntries destination rest) := by
  intro world ⟨file, directory⟩
  have files := @Preserves.forall_ _ _
    (fun contents files => node = .file contents →
      entryAt files target = some (.file contents))
    (copyEntries destination rest)
    (fun _ => .forall_ fun _ => keeps_copyEntries destination rest
      fun name member => by
        simpa using outside name member []) world file
  have directories := @Preserves.forall_ _ _
    (fun entries files => node = .directory entries →
      Copied target entries files)
    (copyEntries destination rest)
    (fun _ => .forall_ fun _ => .forall_ fun path => .forall_ fun _ =>
      .forall_ fun _ => .forall_ fun _ => keeps_copyEntries destination rest
        fun name member => outside name member path) world directory
  revert files directories
  split
  · exact fun files directories => ⟨files, directories⟩
  · exact fun files directories => ⟨files, directories⟩

theorem apart_of_ne {first second : String} (different : first ≠ second)
    (below : Path) :
    ¬ destination ++ [first] <+: destination ++ [second] ++ below := by
  rw [List.append_assoc, List.prefix_append_right_inj,
    List.singleton_append, List.cons_prefix_cons]
  exact fun same => different same.1

theorem not_prefix_of_apart {first second : String}
    (different : first ≠ second) {below : Path}
    (under : destination ++ [second] <+: below) :
    ¬ destination ++ [first] <+: below := by
  obtain ⟨rest, rfl⟩ := under
  exact apart_of_ne different rest

mutual

theorem copies_node (name : String) (destination : Path) : (node : Node) →
    (∀ entries, node = .directory entries → Distinct entries) →
    Triple (fun _ => True) (copyNode name destination node)
      (fun _ files => name ≠ ".git" →
        CopiedNode (destination ++ [name]) node files) (fun _ => True)
  | .file contents, _ => by
      unfold copyNode
      split
      · exact .pure fun _ _ proper => absurd ‹_› proper
      · refine after_write.consequence (fun _ => id) ?_ fun _ => id
        intro _ files there _
        refine ⟨?_, nofun⟩
        intro _ same
        cases same
        exact there
  | .directory entries, distinct => by
      unfold copyNode
      split
      · exact .pure fun _ _ proper => absurd ‹_› proper
      · refine .bind ?_ fun _ =>
          (copies_entries _ entries (distinct entries rfl)).consequence
            (fun _ => id) ?_ fun _ => id
        · exact after_createDirAll.consequence (fun _ => id)
            (fun _ _ _ => trivial) fun _ => id
        · intro _ files copied _
          refine ⟨nofun, ?_⟩
          intro _ same
          cases same
          exact copied
  | .other, _ => by
      unfold copyNode
      split
      · exact .pure fun _ _ proper => absurd ‹_› proper
      · exact .throw fun _ => id

theorem copies_entries (destination : Path) :
    (entries : List (String × Node)) → Distinct entries →
    Triple (fun _ => True) (copyEntries destination entries)
      (fun _ => Copied destination entries) (fun _ => True)
  | [], _ => .pure fun _ _ path _ found => by
      rw [fileAt_nil] at found
      cases found
  | (name, node) :: rest, distinct => by
      cases distinct with
      | cons fresh below others =>
          unfold copyEntries
          refine .bind (copies_node name destination node below) fun _ => ?_
          -- the others do not touch what is copied first
          have kept : Preserves (fun files => name ≠ ".git" →
              CopiedNode (destination ++ [name]) node files)
              (copyEntries destination rest) := by
            refine .forall_ fun _ => keeps_copied ?_
            intro later member under
            have different : later ≠ name := by
              rintro rfl
              exact fresh member
            exact apart_of_ne different under
          refine (kept.and (copies_entries destination rest others)).consequence
            (fun _ first => ⟨first, trivial⟩) ?_ fun _ _ => trivial
          intro _ files ⟨first, later⟩
          exact copied_cons first later

end

/-! ## When it works -/

/-- There are files and directories only. -/
inductive Regular : List (String × Node) → Prop where
  | nil : Regular []
  | cons {name : String} {node : Node} {rest : List (String × Node)}
      (known : node ≠ .other)
      (below : ∀ entries, node = .directory entries → Regular entries)
      (others : Regular rest) : Regular ((name, node) :: rest)

/-- The directory is there, and nothing under the names. -/
def Receives (files : Files) (destination : Path) (names : List String) :
    Prop :=
  Rooted files destination ∧
    ∀ name ∈ names, VacantBelow files (destination ++ [name])

/-- A directory is made, and there is nothing in it. -/
theorem succeeds_createTarget (names : List String) :
    Succeeds (fun files => Rooted files destination ∧
        VacantBelow files (destination ++ [name]))
      (Effect.createDirAll (destination ++ [name]))
      (fun _ files => Receives files (destination ++ [name]) names) := by
  have creatable : ∀ files, Rooted files destination ∧
      VacantBelow files (destination ++ [name]) →
      Creatable files (destination ++ [name]) := by
    rintro files ⟨rooted, vacant⟩ above inside
    rcases List.prefix_concat_iff.mp inside with rfl | higher
    · exact Or.inl (vacant _ List.prefix_rfl)
    · exact Or.inr (rooted above higher)
  have made := succeeds_createDirAll.consequence creatable fun _ _ => id
  have frame : ∀ base, Rooted base destination →
      Preserves (AgreeOutside (· = destination ++ [name]) base)
        (Effect.createDirAll (destination ++ [name])) :=
    fun base rooted => preserves_createDirAll (rooted.anchored.snoc rfl)
  have empty : Triple
      (fun files => Rooted files destination ∧ ∀ inner ∈ names,
        VacantBelow files (destination ++ [name] ++ [inner]))
      (Effect.createDirAll (destination ++ [name]))
      (fun _ files => ∀ inner ∈ names,
        VacantBelow files (destination ++ [name] ++ [inner]))
      (fun files => ∀ inner ∈ names,
        VacantBelow files (destination ++ [name] ++ [inner])) := by
    refine Triple.of_agree frame fun agree vacant inner member =>
      (vacant inner member).of_agree agree ?_
    rintro below under rfl
    have longer := under.length_le
    simp at longer
  refine made.of_triple (empty.consequence ?_ (fun _ _ => id) fun _ => id)
  exact fun files ⟨rooted, vacant⟩ =>
    ⟨rooted, fun inner _ => vacant.mono (List.prefix_append _ _)⟩

theorem succeeds_writeTarget {contents : ByteArray} :
    Succeeds (fun files => Rooted files destination ∧
        VacantBelow files (destination ++ [name]))
      (Effect.write (destination ++ [name]) contents)
      (fun _ files => Rooted files destination) := by
  refine (succeeds_write.consequence ?_ fun _ _ => id).of_triple
    ((keeps_rooted fun _ _ => keeps_write).consequence
      (fun files => And.left) (fun _ _ => id) fun _ => id)
    |>.consequence (fun _ => id) fun _ _ => And.right
  rintro files ⟨rooted, vacant⟩
  simp [writable, isDirectory, rooted.directory,
    vacant _ List.prefix_rfl]

/-- The names that are copied later are still free. -/
theorem vacant_copyNode {node : Node} {names : List String}
    (fresh : name ∉ names) :
    Triple (fun files => Rooted files destination ∧
        ∀ later ∈ names, VacantBelow files (destination ++ [later]))
      (copyNode name destination node)
      (fun _ files => ∀ later ∈ names,
        VacantBelow files (destination ++ [later]))
      (fun files => ∀ later ∈ names,
        VacantBelow files (destination ++ [later])) := by
  have frame : ∀ base, Rooted base destination →
      Preserves (AgreeOutside (destination ++ [name] <+: ·) base)
        (copyNode name destination node) :=
    fun base rooted =>
      preserves_copyNode name destination rooted.anchored (fun _ => id) node
  refine Triple.of_agree frame fun agree vacant later member =>
    (vacant later member).of_agree agree ?_
  intro below under
  have different : name ≠ later := by
    rintro rfl
    exact fresh member
  exact not_prefix_of_apart different under

mutual

theorem succeeds_copyNode (name : String) (destination : Path) :
    (node : Node) → node ≠ .other →
    (∀ entries, node = .directory entries → Distinct entries) →
    (∀ entries, node = .directory entries → Regular entries) →
    Succeeds (fun files => Rooted files destination ∧
        VacantBelow files (destination ++ [name]))
      (copyNode name destination node)
      (fun _ files => Rooted files destination)
  | .file contents, _, _, _ => by
      unfold copyNode
      split
      · exact .pure fun _ => And.left
      · exact succeeds_writeTarget
  | .directory entries, _, distinct, regular => by
      unfold copyNode
      split
      · exact .pure fun _ => And.left
      · refine .bind (succeeds_createTarget (entries.map Prod.fst)) fun _ => ?_
        refine (succeeds_copyEntries _ entries (distinct entries rfl)
          (regular entries rfl)).consequence (fun _ => id) ?_
        exact fun _ _ rooted => rooted.mono (List.prefix_append _ _)
  | .other, known, _, _ => absurd rfl known

theorem succeeds_copyEntries (destination : Path) :
    (entries : List (String × Node)) → Distinct entries → Regular entries →
    Succeeds
      (fun files => Receives files destination (entries.map Prod.fst))
      (copyEntries destination entries)
      (fun _ files => Rooted files destination)
  | [], _, _ => .pure fun _ => And.left
  | (name, node) :: rest, distinct, regular => by
      cases distinct with
      | cons fresh distinctBelow distinctRest =>
          cases regular with
          | cons known regularBelow regularRest =>
              unfold copyEntries
              refine .bind ?_ fun _ =>
                succeeds_copyEntries destination rest distinctRest regularRest
              have run := succeeds_copyNode name destination node known
                distinctBelow regularBelow
              refine (run.consequence ?_ fun _ _ => id).of_triple
                ((vacant_copyNode fresh).consequence ?_ (fun _ _ => id)
                  fun _ => id)
              · exact fun files receives =>
                  ⟨receives.1, receives.2 name (by simp)⟩
              · exact fun files receives => ⟨receives.1,
                  fun later member => receives.2 later (by simp [member])⟩

end

end Telekio.Patching
