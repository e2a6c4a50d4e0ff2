import DeclaredOptions.Project
import DeclaredOptions.Proofs.Declaration.Numbering
import DeclaredOptions.Proofs.Step
import Mathlib.Data.List.Nodup
import Mathlib.Logic.Relation

/-!
Contract: the projects that arise, and what all of them have in common.

Owns:
- the moves of a project, and the projects that they lead to from one without files;
- the invariant: numbers are given out once and names are words;
- the steps of a project, which are moves and keep the files that are registered.

Does not own: resolution.
-/

set_option autoImplicit false

namespace DeclaredOptions

namespace Project

/-! ## Moves -/

def declared (project : Project) : List Declaration := project.files.flatMap (·.declarations)

/-- What may happen to a project: a text is registered or refused, a number is taken, or the tree changes. -/
inductive Move : Project → Project → Prop where
  | adding {project next : Project} {path text : String} {outcome : Except Failure SourceFile}
      (ends : Step.Ends (add path text) project outcome next) : Move project next
  | numbering {project next : Project} {outcome : Except Failure Nat}
      (ends : Step.Ends takeId project outcome next) : Move project next
  | replanting (project : Project) (tree : FileTree) : Move project { project with tree := tree }

/-- One project leads to another by moves. -/
def Leads : Project → Project → Prop := Relation.ReflTransGen Move

/-- The projects that moves lead to from one without files. -/
def Reachable (project : Project) : Prop :=
  ∃ tree readsTree, Leads (empty tree readsTree) project

/-! ## The invariant -/

/-- What holds of a project at any time: no two files share a path and no two declarations a number, all numbers
are behind the next one, each declaration knows its file, and the names of declarations are words. -/
structure Sound (project : Project) : Prop where
  paths : (project.files.map (·.path)).Nodup
  ids : (project.declared.map (·.id)).Nodup
  positive : 0 < project.nextId
  bounds : ∀ d ∈ project.declared, 0 < d.id ∧ d.id < project.nextId
  sources : ∀ file ∈ project.files, ∀ d ∈ file.declarations, d.source = some file.path
  wellNamed : ∀ d ∈ project.declared, d.WellNamed

theorem sound_empty (tree : FileTree) (readsTree : Bool) : (empty tree readsTree).Sound where
  paths := List.nodup_nil
  ids := List.nodup_nil
  positive := Nat.one_pos
  bounds := by simp [declared, empty]
  sources := by simp [empty]
  wellNamed := by simp [declared, empty]

/-- Numbers that are used up keep a project sound. -/
private theorem sound_skip {project : Project} (sound : project.Sound) (used : Nat) :
    Sound { project with nextId := project.nextId + used } where
  paths := sound.paths
  ids := sound.ids
  positive := Nat.add_pos_left sound.positive used
  bounds d member :=
    ⟨(sound.bounds d member).1, Nat.lt_add_right used (sound.bounds d member).2⟩
  sources := sound.sources
  wellNamed := sound.wellNamed

/-- A file at a new path whose declarations are numbered from the next number on keeps a project sound. -/
private theorem sound_register {project : Project} (sound : project.Sound) {file : SourceFile}
    (newPath : project.registered? file.path = none)
    (numbered : Declaration.Numbered file.path project.nextId file.declarations) :
    Sound { project with
      files := project.files ++ [file]
      nextId := project.nextId + file.declarations.length } := by
  have newIds : ∀ d ∈ file.declarations,
      project.nextId ≤ d.id ∧ d.id < project.nextId + file.declarations.length := by
    intro d member
    have listed : d.id ∈ file.declarations.map (·.id) := List.mem_map_of_mem member
    rw [numbered.ids, List.mem_range'_1] at listed
    exact listed
  have all : declared { project with
      files := project.files ++ [file]
      nextId := project.nextId + file.declarations.length } =
      project.declared ++ file.declarations := by
    simp [declared]
  refine ⟨?_, ?_, Nat.add_pos_left sound.positive _, ?_, ?_, ?_⟩
  · rw [List.map_append, List.nodup_append]
    refine ⟨sound.paths, List.nodup_singleton _, ?_⟩
    rintro a earlier b later rfl
    obtain ⟨other, registered, rfl⟩ := List.mem_map.mp earlier
    have differs := List.find?_eq_none.mp newPath other registered
    simp [List.mem_singleton.mp later] at differs
  · rw [all, List.map_append, List.nodup_append]
    refine ⟨sound.ids, numbered.ids ▸ List.nodup_range', ?_⟩
    rintro a earlier b later rfl
    obtain ⟨d, member, rfl⟩ := List.mem_map.mp earlier
    obtain ⟨e, new, same⟩ := List.mem_map.mp later
    have old := (sound.bounds d member).2
    have fresh := (newIds e new).1
    omega
  · rw [all, List.forall_mem_append]
    refine ⟨(sound_skip sound _).bounds, fun d member => ?_⟩
    have positive := sound.positive
    have fresh := newIds d member
    exact ⟨by omega, fresh.2⟩
  · rw [List.forall_mem_append, List.forall_mem_singleton]
    exact ⟨sound.sources, numbered.source⟩
  · rw [all, List.forall_mem_append]
    exact ⟨sound.wellNamed, numbered.wellNamed⟩

/-- How registering a text ends: with a new file, with a text that is refused and the numbers it uses up, or
with a path that is taken. -/
theorem add_cases {path text : String} {project next : Project}
    {outcome : Except Failure SourceFile} (ends : Step.Ends (add path text) project outcome next) :
    (∃ file, outcome = .ok file ∧ project.registered? (key path) = none ∧
      SourceFile.ofText (key path) text project.nextId = .ok file ∧
      next = { project with
        files := project.files ++ [file]
        nextId := project.nextId + file.declarations.length }) ∨
    (∃ failure used, outcome = .error failure ∧ project.registered? (key path) = none ∧
      SourceFile.ofText (key path) text project.nextId = .error (failure, used) ∧
      next = { project with nextId := project.nextId + used }) ∨
    (outcome = .error (.duplicateSource (key path)) ∧
      (project.registered? (key path)).isSome ∧ next = project) := by
  unfold add at ends
  have rest := Step.ends_get_bind.mp ends
  dsimp only at rest
  split at rest
  · rename_i isRegistered
    obtain ⟨rfl, rfl⟩ := Step.ends_throw.mp rest
    exact .inr (.inr ⟨rfl, isRegistered, rfl⟩)
  · rename_i notRegistered
    have newPath := Option.not_isSome_iff_eq_none.mp notRegistered
    split at rest
    · rename_i file formed
      have last := Step.ends_set_bind.mp rest
      obtain ⟨rfl, rfl⟩ := Step.ends_pure.mp last
      exact .inl ⟨file, rfl, newPath, formed, rfl⟩
    · rename_i failure used refused
      have last := Step.ends_set_bind.mp rest
      obtain ⟨rfl, rfl⟩ := Step.ends_throw.mp last
      exact .inr (.inl ⟨failure, used, rfl, newPath, refused, rfl⟩)

theorem takeId_ends {project next : Project} {outcome : Except Failure Nat}
    (ends : Step.Ends takeId project outcome next) :
    outcome = .ok project.nextId ∧ next = { project with nextId := project.nextId + 1 } := by
  unfold takeId at ends
  have rest := Step.ends_get_bind.mp ends
  have last := Step.ends_set_bind.mp rest
  exact Step.ends_pure.mp last

/-- A move only adds files at the end. -/
theorem prefix_move {project next : Project} (move : Move project next) :
    project.files <+: next.files := by
  cases move with
  | adding ends =>
      rcases add_cases ends with ⟨file, -, -, -, rfl⟩ | ⟨failure, used, -, -, -, rfl⟩ | ⟨-, -, rfl⟩
      · exact List.prefix_append _ _
      · exact List.prefix_refl _
      · exact List.prefix_refl _
  | numbering ends =>
      obtain ⟨-, rfl⟩ := takeId_ends ends
      exact List.prefix_refl _
  | replanting tree => exact List.prefix_refl _

theorem sound_move {project next : Project} (sound : project.Sound) (move : Move project next) :
    next.Sound := by
  cases move with
  | adding ends =>
      rcases add_cases ends with ⟨file, -, newPath, formed, rfl⟩ | ⟨failure, used, -, -, -, rfl⟩ |
        ⟨-, -, rfl⟩
      · obtain ⟨named, numbered⟩ := SourceFile.numbered_ofText formed
        rw [← named] at numbered newPath
        exact sound_register sound newPath numbered
      · exact sound_skip sound used
      · exact sound
  | numbering ends =>
      obtain ⟨-, rfl⟩ := takeId_ends ends
      exact sound_skip sound 1
  | replanting tree =>
      exact ⟨sound.paths, sound.ids, sound.positive, sound.bounds, sound.sources, sound.wellNamed⟩

/-- All that moves lead to holds the files there were. -/
theorem prefix_leads {project next : Project} (leads : Leads project next) :
    project.files <+: next.files := by
  induction leads with
  | refl => exact List.prefix_refl _
  | tail _ move inductionHypothesis => exact inductionHypothesis.trans (prefix_move move)

theorem sound_leads {project next : Project} (sound : project.Sound) (leads : Leads project next) :
    next.Sound := by
  induction leads with
  | refl => exact sound
  | tail _ move inductionHypothesis => exact sound_move inductionHypothesis move

theorem declared_leads {project next : Project} (leads : Leads project next) {d : Declaration}
    (member : d ∈ project.declared) : d ∈ next.declared := by
  obtain ⟨file, registered, declaredThere⟩ := List.mem_flatMap.mp member
  exact List.mem_flatMap.mpr ⟨file, (prefix_leads leads).subset registered, declaredThere⟩

theorem Sound.eq_of_id {project : Project} (sound : project.Sound) {a b : Declaration}
    (first : a ∈ project.declared) (second : b ∈ project.declared) (same : a.id = b.id) : a = b :=
  List.inj_on_of_nodup_map sound.ids first second same

theorem Reachable.sound {project : Project} (reachable : project.Reachable) : project.Sound := by
  obtain ⟨tree, readsTree, leads⟩ := reachable
  exact sound_leads (sound_empty tree readsTree) leads

theorem Reachable.leads {project next : Project} (reachable : project.Reachable)
    (leads : Leads project next) : next.Reachable := by
  obtain ⟨tree, readsTree, fromEmpty⟩ := reachable
  exact ⟨tree, readsTree, fromEmpty.trans leads⟩

/-- The project of texts that are registered one after the other under their paths, with no tree to read
from. -/
def ofTexts (texts : List (String × String)) : Project :=
  texts.foldl (fun project (path, text) => ((add path text).run.run project).2)
    (empty (.empty []) false)

theorem reachable_ofTexts (texts : List (String × String)) : (ofTexts texts).Reachable := by
  have leads (rest : List (String × String)) (project : Project) :
      Leads project (rest.foldl
        (fun project (path, text) => ((add path text).run.run project).2) project) := by
    induction rest generalizing project with
    | nil => exact Relation.ReflTransGen.refl
    | cons first rest inductionHypothesis =>
        exact Relation.ReflTransGen.head (.adding rfl) (inductionHypothesis _)
  exact ⟨.empty [], false, leads texts _⟩

/-! ## Steps -/

theorem leads_refl (project : Project) : Leads project project := Relation.ReflTransGen.refl

theorem leads_trans ⦃a b c : Project⦄ (first : Leads a b) (second : Leads b c) : Leads a c :=
  Relation.ReflTransGen.trans first second

theorem registered?_mem {project : Project} {path : String} {file : SourceFile}
    (found : project.registered? path = some file) : file ∈ project.files :=
  List.mem_of_find?_eq_some found

theorem mem_declared {project : Project} {file : SourceFile} {d : Declaration}
    (registered : file ∈ project.files) (member : d ∈ file.declarations) : d ∈ project.declared :=
  List.mem_flatMap.mpr ⟨file, registered, member⟩

/-- Registering a text is a move, and gives a file of the project. -/
theorem keeps_add {before : Project → Prop} (path text : String) :
    Step.Keeps Leads before (add path text) fun file next => file ∈ next.files := by
  intro project outcome next _ ends
  refine ⟨Relation.ReflTransGen.single (.adding ends), ?_⟩
  rintro file rfl
  rcases add_cases ends with ⟨_, same, -, -, rfl⟩ | ⟨_, _, impossible, -⟩ | ⟨impossible, -⟩
  · cases same
    exact List.mem_append_right _ (List.mem_singleton_self _)
  · contradiction
  · contradiction

theorem keeps_load {before : Project → Prop} (path : String) :
    Step.Keeps Leads before (load path) fun file next => file ∈ next.files := by
  refine Step.keeps_get_bind fun project _ => ?_
  split
  · rename_i file found
    refine Step.keeps_pure leads_refl ?_
    rintro _ rfl
    exact registered?_mem found
  · split
    · exact keeps_add _ _
    · exact Step.keeps_throw leads_refl

/-- Following a specifier leads to a file of the project, if it leads anywhere. -/
theorem keeps_module? {before : Project → Prop} (path specifier : String) :
    Step.Keeps Leads before (module? path specifier)
      fun found next => ∀ file ∈ found, file ∈ next.files := by
  have nowhere {earlier : Project → Prop} : Step.Keeps Leads earlier (pure none : ProjectStep _)
      fun (found : Option SourceFile) next => ∀ file ∈ found, file ∈ next.files :=
    Step.keeps_pure leads_refl (by simp)
  unfold module?
  split
  · exact nowhere
  · refine Step.keeps_get_bind fun project _ => ?_
    dsimp only
    split
    · rename_i file found
      refine Step.keeps_pure leads_refl ?_
      rintro _ rfl _ ⟨⟩
      obtain ⟨candidate, -, registered⟩ := List.exists_of_findSome?_eq_some found
      exact registered?_mem registered
    · split
      · split
        · rename_i candidate _
          rw [map_eq_pure_bind]
          refine Step.keeps_bind leads_trans (keeps_load candidate) fun file => ?_
          refine Step.keeps_pure leads_refl ?_
          rintro next registered _ ⟨⟩
          exact registered
        · exact nowhere
      · exact nowhere

theorem importedPart?_mem {imported : String} {target : SourceFile} {d : Declaration}
    (found : importedPart? imported target = some d) : d ∈ target.declarations := by
  unfold importedPart? at found
  split at found
  · exact List.mem_of_find?_eq_some found
  · exact List.mem_of_find?_eq_some found

theorem keeps_throughImport {before : Project → Prop} (path name : String) (clause : Import) :
    Step.Keeps Leads before (throughImport path name clause)
      fun outcome next => ∀ found ∈ outcome, ∀ d ∈ found, d ∈ next.declared := by
  unfold throughImport
  extract_lets continued
  have keepsContinued (target? : Option SourceFile) :
      Step.Keeps Leads (fun next => ∀ file ∈ target?, file ∈ next.files) (continued target?)
        fun outcome next => ∀ found ∈ outcome, ∀ d ∈ found, d ∈ next.declared := by
    simp only [continued]
    split
    · rename_i target
      refine Step.keeps_pure leads_refl ?_
      rintro next registered _ ⟨⟩ d found
      exact mem_declared (registered target rfl) (List.mem_of_find?_eq_some found)
    · split
      · exact Step.keeps_pure leads_refl (by simp)
      · refine Step.keeps_bind leads_trans (keeps_module? _ _) fun target? => ?_
        split
        · refine Step.keeps_pure leads_refl ?_
          rintro _ _ _ ⟨⟩
          simp
        · rename_i target
          refine Step.keeps_pure leads_refl ?_
          rintro next registered _ ⟨⟩ d found
          exact mem_declared (registered target rfl) (importedPart?_mem found)
  split
  · exact Step.keeps_bind leads_trans (keeps_module? _ _) keepsContinued
  · exact Step.keeps_bind leads_trans (Step.keeps_pure leads_refl (by simp)) keepsContinued

theorem keeps_throughImports {before : Project → Prop} (path name : String)
    (clauses : List Import) :
    Step.Keeps Leads before (throughImports path name clauses)
      fun found next => ∀ d ∈ found, d ∈ next.declared := by
  induction clauses generalizing before with
  | nil => exact Step.keeps_pure leads_refl (by simp)
  | cons clause rest inductionHypothesis =>
      refine Step.keeps_bind leads_trans (keeps_throughImport path name clause) fun outcome => ?_
      split
      · refine Step.keeps_pure leads_refl ?_
        intro next members
        exact members _ rfl
      · exact inductionHypothesis

theorem ownType?_mem {file : SourceFile} {name : String} {d : Declaration}
    (found : file.type? name = some d) :
    d ∈ file.declarations ∧ (d.isEnum ∨ d.isInterface) ∧ d.name = some name := by
  unfold SourceFile.type? SourceFile.enum? SourceFile.interface? at found
  rcases Option.or_eq_some_iff.mp found with own | ⟨-, own⟩
  · have listed := List.mem_filter.mp (List.mem_of_find?_eq_some own)
    exact ⟨listed.1, .inl listed.2, by simpa using List.find?_some own⟩
  · have listed := List.mem_filter.mp (List.mem_of_find?_eq_some own)
    exact ⟨listed.1, .inr listed.2, by simpa using List.find?_some own⟩

/-- What a type name means in a file of a project is a declaration of the project. -/
theorem keeps_type? (file : SourceFile) (name : String) :
    Step.Keeps Leads (fun project => file ∈ project.files) (type? file name)
      fun found next => ∀ d ∈ found, d ∈ next.declared := by
  unfold type?
  split
  · rename_i own found
    refine Step.keeps_pure leads_refl ?_
    rintro project registered _ ⟨⟩
    exact mem_declared registered (ownType?_mem found).1
  · exact keeps_throughImports _ _ _

end Project

end DeclaredOptions
