import DeclaredOptions.Proofs.FileTree
import DeclaredOptions.Proofs.Project.History

/-!
Contract: what a project finds for a specifier after it has read files of a tree, and when that is the same
whichever files it has read.

Owns:
- the projects that arise by loading, and the paths that they hold;
- the path that a specifier leads to: the first candidate that is held, and only after that one of the tree;
- the trees, files and specifiers for which the files read before make no difference.

Does not own: trees that change between one load and the next.

## Why the look-up depends on what was read

The candidates of a specifier are gone through twice, once for the files that are held and once for those of the
tree. A candidate that is held comes before all others, even those that are tried earlier. So a load can only move
the result to a candidate that can be loaded and stands before the importing file. The look-up is free of its
history exactly if each of these is what a project would find that holds the importing file alone.
-/

set_option autoImplicit false

namespace DeclaredOptions

namespace Project

/-! ## Loads -/

/-- All files of a tree can be read as texts that form files. -/
def Parses (tree : FileTree) : Prop :=
  ∀ path, tree.isFile path → ∃ text, tree.text path (.cannotRead path) = .ok text ∧
    ∀ first, ∃ file, SourceFile.ofText (key path) text first = .ok file

/-- The project that has been asked to load paths of a tree, one after the other. -/
def reading (tree : FileTree) (paths : List String) : Project :=
  (empty tree true).afterAll (paths.map fun path => (tree, .load path))

/-- Some path of a file of a tree has a given normal form. -/
def Loadable (tree : FileTree) (normal : String) : Prop :=
  ∃ path, tree.isFile path ∧ key path = normal

section

variable {tree : FileTree} {project : Project} {path : String}

theorem text_of_not_isFile (noFile : tree.isFile path = false) (refusal : FileFault → Failure) :
    ∃ failure, tree.text path refusal = .error failure := by
  unfold FileTree.isFile at noFile
  unfold FileTree.text
  cases read : tree.bytes path with
  | ok bytes =>
      rw [read] at noFile
      contradiction
  | error fault => exact ⟨refusal fault, rfl⟩

theorem ends_load_held {file : SourceFile} (held : project.registered? (key path) = some file) :
    Step.Ends (load path) project (.ok file) project := by
  apply Step.ends_get_bind.mpr
  rw [held]
  exact Step.ends_pure.mpr ⟨rfl, rfl⟩

theorem ends_load_unread {failure : Failure} (fresh : project.registered? (key path) = none)
    (unread : project.tree.text path (.cannotRead path) = .error failure) :
    Step.Ends (load path) project (.error failure) project := by
  apply Step.ends_get_bind.mpr
  rw [fresh, unread]
  exact Step.ends_throw.mpr ⟨rfl, rfl⟩

theorem ends_load_formed {text : String} {file : SourceFile} (fresh : project.registered? (key path) = none)
    (read : project.tree.text path (.cannotRead path) = .ok text)
    (formed : SourceFile.ofText (key path) text project.nextId = .ok file) :
    Step.Ends (load path) project (.ok file) { project with
      files := project.files ++ [file]
      nextId := project.nextId + file.declarations.length } := by
  apply Step.ends_get_bind.mpr
  rw [fresh, read]
  dsimp only
  unfold add
  apply Step.ends_get_bind.mpr
  dsimp only
  rw [key_key, fresh, formed]
  apply Step.ends_set_bind.mpr
  exact Step.ends_pure.mpr ⟨rfl, rfl⟩

/-- A load gives a file exactly if it is held already or is there, and only then changes what is held. -/
theorem load_of_parses (parses : Parses tree) (isTree : project.tree = tree) (path : String) :
    ∃ outcome next, Step.Ends (load path) project outcome next ∧ next.tree = tree ∧
      next.readsTree = project.readsTree ∧
      (tree.isFile path → ∃ file, outcome = .ok file ∧ next.registered? (key path) = some file) ∧
      ∀ normal, (next.registered? normal).isSome ↔
        (project.registered? normal).isSome ∨ tree.isFile path ∧ key path = normal := by
  subst isTree
  cases held : project.registered? (key path) with
  | some file =>
      refine ⟨.ok file, project, ends_load_held held, rfl, rfl, fun _ => ⟨file, rfl, held⟩, fun normal => ?_⟩
      refine (or_iff_left_of_imp ?_).symm
      rintro ⟨-, rfl⟩
      rw [held, Option.isSome_some]
  | none =>
      cases there : project.tree.isFile path with
      | false =>
          obtain ⟨failure, unread⟩ := text_of_not_isFile there (.cannotRead path)
          exact ⟨.error failure, project, ends_load_unread held unread, rfl, rfl, by simp, by simp⟩
      | true =>
          obtain ⟨text, read, forms⟩ := parses path there
          obtain ⟨file, formed⟩ := forms project.nextId
          have named : file.path = key path := (SourceFile.numbered_ofText formed).1
          refine ⟨.ok file, { project with
            files := project.files ++ [file]
            nextId := project.nextId + file.declarations.length },
            ends_load_formed held read formed, rfl, rfl, ?_, ?_⟩
          · intro _
            refine ⟨file, rfl, ?_⟩
            unfold registered? at held ⊢
            rw [List.find?_append, held, Option.none_or, List.find?_singleton, if_pos (by simp [named])]
          · intro normal
            unfold registered?
            rw [List.find?_append, Option.isSome_or, Bool.or_eq_true, List.find?_isSome]
            simp [named]

/-- Loads in a row hold what was held before, and the files that are there. -/
theorem afterAll_of_parses (parses : Parses tree) (paths : List String) (isTree : project.tree = tree) :
    let final := project.afterAll (paths.map fun path => (tree, .load path))
    final.tree = tree ∧ final.readsTree = project.readsTree ∧
      ∀ normal, (final.registered? normal).isSome ↔
        (project.registered? normal).isSome ∨
          ∃ path ∈ paths, tree.isFile path ∧ key path = normal := by
  induction paths generalizing project with
  | nil => exact ⟨isTree, rfl, by simp [afterAll]⟩
  | cons path rest inductionHypothesis =>
      obtain ⟨outcome, next, ends, nextTree, nextReads, -, nextHolds⟩ :=
        @load_of_parses tree (project.withTree tree) parses rfl path
      have turned : (project.turn tree (.load path)).after = next := by
        rw [turn_of_ends (Step.ends_map.mpr ⟨_, ends, rfl⟩)]
      obtain ⟨finalTree, finalReads, finalHolds⟩ := inductionHypothesis nextTree
      rw [List.map_cons, afterAll, turned]
      refine ⟨finalTree, finalReads.trans nextReads, fun normal => ?_⟩
      have same : (project.withTree tree).registered? normal = project.registered? normal := rfl
      rw [finalHolds, nextHolds, same, or_assoc]
      simp only [List.mem_cons, or_and_right, exists_or, exists_eq_left]

/-- A project holds the files of a tree that it was asked to load, under their normal forms, and no others. -/
theorem isSome_registered?_reading (parses : Parses tree) (paths : List String) (normal : String) :
    ((reading tree paths).registered? normal).isSome ↔
      ∃ path ∈ paths, tree.isFile path ∧ key path = normal := by
  have holds := (@afterAll_of_parses tree (empty tree true) parses paths rfl).2.2 normal
  rw [reading, holds]
  exact or_iff_right (by simp [registered?, empty])

theorem tree_reading (parses : Parses tree) (paths : List String) : (reading tree paths).tree = tree := by
  unfold reading
  exact (@afterAll_of_parses tree (empty tree true) parses paths rfl).1

theorem readsTree_reading (parses : Parses tree) (paths : List String) :
    (reading tree paths).readsTree = true := by
  unfold reading
  exact (@afterAll_of_parses tree (empty tree true) parses paths rfl).2.1

end

/-! ## What a specifier leads to -/

/-- A project finds a file of a path, or none, for a specifier in the file of another path. -/
def Finds (project : Project) (importer specifier : String) (found : Option String) : Prop :=
  ∃ file? next, Step.Ends (module? importer specifier) project (.ok file?) next ∧
    file?.map (·.path) = found

theorem Finds.unique {project : Project} {importer specifier : String} {first second : Option String}
    (finds : project.Finds importer specifier first) (again : project.Finds importer specifier second) :
    first = second := by
  obtain ⟨file?, next, ends, rfl⟩ := finds
  obtain ⟨other?, last, ends', rfl⟩ := again
  cases ends.symm.trans ends'
  rfl

section

variable {tree : FileTree} {project : Project} {importer specifier : String}

theorem finds_of_held (relative : specifier.startsWith "." = true)
    {candidate : String} (first : (candidates importer specifier).find?
      (fun candidate => (project.registered? candidate).isSome) = some candidate) :
    project.Finds importer specifier (some candidate) := by
  obtain ⟨held, before, after, shape, noneBefore⟩ := List.find?_eq_some_iff_append.mp first
  obtain ⟨file, registered⟩ := Option.isSome_iff_exists.mp held
  have noneFound : before.findSome? project.registered? = none := by
    rw [List.findSome?_eq_none_iff]
    intro earlier member
    simpa using noneBefore earlier member
  refine ⟨some file, project, ?_, congrArg some (path_of_registered? registered)⟩
  unfold module?
  rw [relative]
  apply Step.ends_get_bind.mpr
  dsimp only
  rw [shape, List.findSome?_append, noneFound, List.findSome?_cons, registered]
  exact Step.ends_pure.mpr ⟨rfl, rfl⟩

/-- Where no candidate is held, a relative specifier leads to the first one that is a file of the tree. -/
theorem finds_of_not_held (parses : Parses tree) (isTree : project.tree = tree)
    (reads : project.readsTree = true) (relative : specifier.startsWith "." = true)
    (noneHeld : (candidates importer specifier).find?
      (fun candidate => (project.registered? candidate).isSome) = none) :
    project.Finds importer specifier
      (((candidates importer specifier).find? tree.isFile).map key) := by
  have noneFound : (candidates importer specifier).findSome? project.registered? = none := by
    rw [List.findSome?_eq_none_iff]
    intro candidate member
    simpa using List.find?_eq_none.mp noneHeld candidate member
  cases there : (candidates importer specifier).find? tree.isFile with
  | none =>
      refine ⟨none, project, ?_, rfl⟩
      unfold module?
      rw [relative]
      apply Step.ends_get_bind.mpr
      dsimp only
      rw [noneFound, isTree, reads, there]
      exact Step.ends_pure.mpr ⟨rfl, rfl⟩
  | some candidate =>
      obtain ⟨outcome, next, ends, -, -, gives, -⟩ := load_of_parses parses isTree candidate
      obtain ⟨file, rfl, registered⟩ := gives (List.find?_some there)
      refine ⟨some file, next, ?_, congrArg some (path_of_registered? registered)⟩
      unfold module?
      rw [relative]
      apply Step.ends_get_bind.mpr
      dsimp only
      rw [noneFound, isTree, reads, there]
      exact Step.ends_map_ok.mpr ⟨file, ends, rfl⟩

end

/-! ## Histories -/

/-- For a specifier in the file of a path, all projects that hold the file find the same, whatever they were asked
to load. -/
def HistoryFree (tree : FileTree) (importer specifier : String) : Prop :=
  ∀ first second : List String,
    ((reading tree first).registered? importer).isSome →
    ((reading tree second).registered? importer).isSome →
    ∃ found, (reading tree first).Finds importer specifier found ∧
      (reading tree second).Finds importer specifier found

section

variable {tree : FileTree} {source specifier : String}

private theorem mem_of_mem_takeWhile_ne {values before after : List String} {target value : String}
    (shape : values = before ++ target :: after) (member : value ∈ values.takeWhile (· != target)) :
    value ∈ before := by
  subst shape
  induction before with
  | nil => simp at member
  | cons first rest inductionHypothesis =>
      rw [List.cons_append, List.takeWhile_cons] at member
      split at member
      · rcases List.mem_cons.mp member with rfl | later
        · exact List.mem_cons_self
        · exact List.mem_cons_of_mem _ (inductionHypothesis later)
      · contradiction

/-- A project that holds the importing file finds what it would find if it held no other file, where that is what
every candidate before that file would bring. -/
private theorem exists_finds_alone (parses : Parses tree) (isFile : tree.isFile source)
    (relative : specifier.startsWith "." = true)
    (settled : ∀ candidate ∈ (candidates (key source) specifier).takeWhile (· != key source),
      Loadable tree candidate → (reading tree [source]).Finds (key source) specifier (some candidate))
    {paths : List String} (holds : ((reading tree paths).registered? (key source)).isSome) :
    ∃ found, (reading tree paths).Finds (key source) specifier found ∧
      (reading tree [source]).Finds (key source) specifier found := by
  have alone (normal : String) :
      ((reading tree [source]).registered? normal).isSome ↔ key source = normal := by
    simp [isSome_registered?_reading parses, isFile]
  cases first : (candidates (key source) specifier).find?
      (fun candidate => ((reading tree paths).registered? candidate).isSome) with
  | none =>
      -- The importing file is no candidate either, so that both projects look into the tree.
      have noneAlone : (candidates (key source) specifier).find?
          (fun candidate => ((reading tree [source]).registered? candidate).isSome) = none := by
        rw [List.find?_eq_none]
        intro candidate member heldAlone
        rw [← (alone candidate).mp heldAlone] at member
        exact List.find?_eq_none.mp first (key source) member holds
      refine ⟨_, finds_of_not_held parses (tree_reading parses paths) (readsTree_reading parses paths)
        relative first, ?_⟩
      exact finds_of_not_held parses (tree_reading parses [source]) (readsTree_reading parses [source])
        relative noneAlone
  | some candidate =>
      refine ⟨some candidate, finds_of_held relative first, ?_⟩
      obtain ⟨held, before, after, shape, noneBefore⟩ := List.find?_eq_some_iff_append.mp first
      have notBefore : ∀ earlier ∈ before, earlier ≠ key source := by
        intro earlier member same
        simpa [same, holds] using noneBefore earlier member
      by_cases isImporter : candidate = key source
      · -- The importing file is among its own candidates, and nothing before it is held.
        apply finds_of_held relative
        rw [List.find?_eq_some_iff_append]
        refine ⟨(alone candidate).mpr isImporter.symm, before, after, shape, fun earlier member => ?_⟩
        rw [Bool.not_eq_true', Bool.eq_false_iff]
        exact fun heldAlone => notBefore earlier member ((alone earlier).mp heldAlone).symm
      · obtain ⟨path, -, pathIsFile, isPath⟩ := (isSome_registered?_reading parses _ _).mp held
        refine settled candidate ?_ ⟨path, pathIsFile, isPath⟩
        rw [shape, List.takeWhile_append_of_pos (fun earlier member => bne_iff_ne.mpr
          (notBefore earlier member)), List.takeWhile_cons, if_pos (bne_iff_ne.mpr isImporter)]
        simp

/-- What a specifier leads to is free of what was loaded exactly if every candidate before the importing file, as
far as it can be loaded, is what a project finds that holds that file alone. -/
theorem historyFree_iff (parses : Parses tree) (isFile : tree.isFile source)
    (relative : specifier.startsWith "." = true) :
    HistoryFree tree (key source) specifier ↔
      ∀ candidate ∈ (candidates (key source) specifier).takeWhile (· != key source),
        Loadable tree candidate →
          (reading tree [source]).Finds (key source) specifier (some candidate) := by
  constructor
  · intro free candidate tried loadable
    obtain ⟨path, pathIsFile, isPath⟩ := loadable
    rw [← isPath] at tried ⊢
    -- A project that holds the candidate next to the importing file, and nothing else, finds the candidate.
    have held (normal : String) : ((reading tree [source, path]).registered? normal).isSome ↔
        key source = normal ∨ key path = normal := by
      simp [isSome_registered?_reading parses, isFile, pathIsFile]
    have heldAlone : ((reading tree [source]).registered? (key source)).isSome := by
      simp [isSome_registered?_reading parses, isFile]
    obtain ⟨found, finds, findsAlone⟩ := free [source, path] [source] ((held _).mpr (.inl rfl)) heldAlone
    have isCandidate := (List.takeWhile_sublist _).subset tried
    have isHeld := (held _).mpr (.inr rfl)
    have someHeld : ((candidates (key source) specifier).find? fun candidate =>
        ((reading tree [source, path]).registered? candidate).isSome).isSome := by
      rw [List.find?_isSome]
      exact ⟨key path, isCandidate, isHeld⟩
    obtain ⟨first, isFirst⟩ := Option.isSome_iff_exists.mp someHeld
    obtain ⟨firstHeld, before, after, shape, noneBefore⟩ := List.find?_eq_some_iff_append.mp isFirst
    have isFirstPath : key path = first := by
      apply ((held first).mp firstHeld).resolve_left
      intro isImporter
      rw [← isImporter] at shape
      simpa [isHeld] using noneBefore _ (mem_of_mem_takeWhile_ne shape tried)
    rw [isFirstPath, (finds_of_held relative isFirst).unique finds]
    exact findsAlone
  · intro settled first second holdsFirst holdsSecond
    obtain ⟨found, finds, alone⟩ := exists_finds_alone parses isFile relative settled holdsFirst
    obtain ⟨again, findsAgain, aloneAgain⟩ := exists_finds_alone parses isFile relative settled holdsSecond
    rw [alone.unique aloneAgain] at finds
    exact ⟨again, finds, findsAgain⟩

end

/-! ## Files of one name -/

theorem parses_of_empty {tree : FileTree}
    (empty : ∀ place bytes, (place, .file bytes) ∈ tree.entries → bytes = []) : Parses tree := by
  intro path isFile
  obtain ⟨bytes, read⟩ := FileTree.isFile_iff.mp isFile
  obtain ⟨place, -, found⟩ := FileTree.bytes_eq_ok_iff.mp read
  rw [empty place bytes (FileTree.mem_entries_of_at? found)] at read
  refine ⟨"", ?_, fun first => ⟨⟨key path, [], []⟩, ?_⟩⟩
  · unfold FileTree.text
    rw [read]
    rfl
  · have blank (markup : Bool) : Source.statements? markup [] = some [] := by
      cases markup <;> rfl
    unfold SourceFile.ofText Source.read
    rw [String.toList_empty, blank]
    rfl

/-- Two sources of one name, apart from their suffixes, next to a third one. -/
def siblings : FileTree :=
  ⟨[(["a.ts"], .file []), (["e.ts"], .file []), (["e.tsx"], .file [])], []⟩

theorem parses_siblings : Parses siblings := by
  apply parses_of_empty
  intro place bytes member
  simp only [siblings, List.mem_cons, Prod.mk.injEq, FileEntry.file.injEq, List.not_mem_nil,
    or_false] at member
  rcases member with ⟨-, noBytes⟩ | ⟨-, noBytes⟩ | ⟨-, noBytes⟩ <;> exact noBytes

private theorem finds_of_check {project : Project} {importer specifier : String} {found : Option String}
    (finds : ((module? importer specifier).run.run project).1.toOption.any
      (fun file? => file?.map (·.path) == found)) : project.Finds importer specifier found := by
  obtain ⟨file?, next, ends, same⟩ := Step.ends_of_check _ _ _ finds
  exact ⟨file?, next, ends, beq_iff_eq.mp same⟩

/-- What was loaded before decides which of the two a specifier without suffix leads to. -/
theorem not_historyFree_siblings :
    Parses siblings ∧ siblings.isFile "a.ts" ∧
      (reading siblings ["a.ts"]).Finds "a.ts" "./e" (some "e.ts") ∧
      (reading siblings ["a.ts", "e.tsx"]).Finds "a.ts" "./e" (some "e.tsx") ∧
      ¬HistoryFree siblings (key "a.ts") "./e" := by
  have isKey : key "a.ts" = "a.ts" := by decide +kernel
  have alone : (reading siblings ["a.ts"]).Finds "a.ts" "./e" (some "e.ts") :=
    finds_of_check (by decide +kernel)
  have after : (reading siblings ["a.ts", "e.tsx"]).Finds "a.ts" "./e" (some "e.tsx") :=
    finds_of_check (by decide +kernel)
  refine ⟨parses_siblings, by decide +kernel, alone, after, ?_⟩
  rw [isKey]
  intro free
  obtain ⟨found, finds, findsAfter⟩ :=
    free ["a.ts"] ["a.ts", "e.tsx"] (by decide +kernel) (by decide +kernel)
  have same := (alone.unique finds).trans (findsAfter.unique after)
  exact absurd same (by decide)

/-- A specifier with the suffix of its source is free of what was loaded; one without it is not. -/
theorem historyFree_iff_siblings :
    HistoryFree siblings (key "e.ts") "./e.ts" ∧ ¬HistoryFree siblings (key "a.ts") "./e" := by
  constructor
  · apply (historyFree_iff parses_siblings (by decide +kernel) (by decide +kernel)).mpr
    have noneBefore : (candidates (key "e.ts") "./e.ts").takeWhile (· != key "e.ts") = [] := by
      decide +kernel
    rw [noneBefore]
    exact fun candidate impossible => absurd impossible List.not_mem_nil
  · intro free
    have settled :=
      (historyFree_iff parses_siblings (by decide +kernel) (by decide +kernel)).mp free "e.tsx"
        (by decide +kernel) ⟨"e.tsx", by decide +kernel, by decide +kernel⟩
    have alone : (reading siblings ["a.ts"]).Finds (key "a.ts") "./e" (some "e.ts") :=
      finds_of_check (by decide +kernel)
    exact absurd (settled.unique alone) (by decide)

end Project

end DeclaredOptions
