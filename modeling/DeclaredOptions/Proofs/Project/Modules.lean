import DeclaredOptions.Proofs.Path.Specifier
import DeclaredOptions.Proofs.Project.Reachable

/-!
Contract: the files of a project under their paths, and the modules that specifiers lead to.

Owns:
- the paths that files are registered under, which are in normal form, and the texts that form them;
- the look-up of a module, which takes the first path that is registered;
- the specifier of a source, which leads from a module back to it.

Does not own: files that are read from the tree on the way.
-/

set_option autoImplicit false

namespace DeclaredOptions

namespace Project

/-! ## Paths of files -/

@[simp] theorem key_key (path : String) : key (key path) = key path := by
  have bare : '\\' ∉ (key path).toList :=
    Path.backslash_not_mem_normalize (Path.backslash_not_mem_withSlashes path)
  rw [key, Path.withSlashes_of_not_mem bare, key, Path.normalize_normalize]

theorem key_of_not_mem {path : String} (bare : '\\' ∉ path.toList) :
    key path = Path.normalize path := by
  rw [key, Path.withSlashes_of_not_mem bare]

theorem backslash_not_mem_of_key {path : String} (isKey : key path = path) :
    '\\' ∉ path.toList := by
  rw [← isKey]
  exact Path.backslash_not_mem_normalize (Path.backslash_not_mem_withSlashes path)

/-- Every file stands under a path in normal form, and is formed by a text under that path. -/
def Formed (project : Project) : Prop :=
  ∀ file ∈ project.files, key file.path = file.path ∧
    ∃ text first, SourceFile.ofText file.path text first = .ok file

theorem formed_move {project next : Project} (formed : project.Formed) (move : Move project next) :
    next.Formed := by
  cases move with
  | adding ends =>
      rcases add_cases ends with ⟨file, -, -, read, rfl⟩ | ⟨failure, used, -, -, -, rfl⟩ | ⟨-, -, rfl⟩
      · refine List.forall_mem_append.mpr ⟨formed, List.forall_mem_singleton.mpr ?_⟩
        obtain ⟨named, -⟩ := SourceFile.numbered_ofText read
        rw [← named] at read
        exact ⟨by rw [named, key_key], _, _, read⟩
      · exact formed
      · exact formed
  | numbering ends =>
      obtain ⟨-, rfl⟩ := takeId_ends ends
      exact formed
  | replanting tree => exact formed

theorem Reachable.formed {project : Project} (reachable : project.Reachable) : project.Formed := by
  obtain ⟨tree, readsTree, leads⟩ := reachable
  induction leads with
  | refl => exact fun file impossible => nomatch impossible
  | tail _ move inductionHypothesis => exact formed_move inductionHypothesis move

theorem path_of_registered? {project : Project} {path : String} {file : SourceFile}
    (found : project.registered? path = some file) : file.path = path := by
  unfold registered? at found
  simpa using List.find?_some found

theorem Reachable.key_of_registered? {project : Project} (reachable : project.Reachable)
    {path : String} {file : SourceFile} (found : project.registered? path = some file) :
    key path = path := by
  rw [← path_of_registered? found]
  exact (reachable.formed file (registered?_mem found)).1

/-! ## Modules -/

private theorem findSome?_of_takeWhile {α β : Type} [BEq α] [LawfulBEq α] {f : α → Option β}
    {values : List α} {target : α} {result : β} (member : target ∈ values)
    (before : ∀ value ∈ values.takeWhile (· != target), f value = none)
    (found : f target = some result) : values.findSome? f = some result := by
  induction values with
  | nil => contradiction
  | cons value rest inductionHypothesis =>
      by_cases isTarget : value = target
      · subst isTarget
        rw [List.findSome?_cons, found]
      · have goesOn : (value != target) = true := bne_iff_ne.mpr isTarget
        rw [List.takeWhile_cons, if_pos goesOn, List.forall_mem_cons] at before
        have inRest := (List.mem_cons.mp member).resolve_left (Ne.symm isTarget)
        rw [List.findSome?_cons, before.1]
        exact inductionHypothesis inRest before.2

/-- A source is among the paths that are tried for it without its suffix. -/
theorem mem_endings (source : String) :
    source ∈ moduleEndings.map (Path.withoutSourceSuffix source ++ ·) := by
  rw [List.mem_map]
  rcases Path.withoutSourceSuffix_eq_or source with same | ⟨suffix, isSuffix, whole⟩
  · exact ⟨"", by decide, by rw [same, String.append_empty]⟩
  · have allTried : ∀ suffix ∈ Path.sourceSuffixes, suffix ∈ moduleEndings := by decide
    exact ⟨suffix, allTried suffix isSuffix, whole.symm⟩

/-- A relative specifier leads to a registered file if no path that is tried before is registered. -/
theorem ends_module? {project : Project} {path specifier source : String} {file : SourceFile}
    (relative : specifier.startsWith "." = true) (registered : project.registered? source = some file)
    (tried : source ∈ candidates path specifier)
    (notBefore : ∀ earlier ∈ (candidates path specifier).takeWhile (· != source),
      project.registered? earlier = none) :
    Step.Ends (module? path specifier) project (.ok (some file)) project := by
  have found := findSome?_of_takeWhile tried notBefore registered
  unfold module?
  rw [relative]
  refine Step.ends_get_bind.mpr ?_
  dsimp only
  rw [found]
  exact Step.ends_pure.mpr ⟨rfl, rfl⟩

/-- The specifier of a source leads from the directory of a module to the source without its suffix, and from a
file at that module, in every project that holds the source and no file at a path that is tried before, to the
file of the source. -/
theorem module?_specifier (working : List String) {module source : String}
    (inside : Path.Inside module) (insideSource : Path.Inside source)
    (named : Path.withoutSourceSuffix (Path.lastComponent source) ∉ ["", ".", ".."]) :
    ∃ way, Path.specifier working module source = .ok way ∧
      Path.normalize (Path.joinTo (Path.directory module) way) = Path.withoutSourceSuffix source ∧
      ∀ (project : Project) (file : SourceFile), project.Reachable → key module = module →
        project.registered? source = some file →
        (∀ earlier ∈ (moduleEndings.map (Path.withoutSourceSuffix source ++ ·)).takeWhile
          (· != source), project.registered? earlier = none) →
        Step.Ends (module? module way) project (.ok (some file)) project := by
  obtain ⟨way, isWay, relative, chars, leads⟩ :=
    Path.exists_specifier_of_inside working inside insideSource named
  refine ⟨way, isWay, leads, ?_⟩
  intro project file reachable isModule registered notBefore
  have bareModule := backslash_not_mem_of_key isModule
  have bareSource := backslash_not_mem_of_key (reachable.key_of_registered? registered)
  have bare : '\\' ∉ (Path.joinTo (Path.directory module) way).toList := by
    intro member
    rcases Path.mem_joinTo member with isSlash | inDirectory | inWay
    · exact absurd isSlash (by decide)
    · exact bareModule (Path.mem_of_mem_directory inDirectory)
    · rcases chars _ inWay with isSlash | isDot | inSource
      · exact absurd isSlash (by decide)
      · exact absurd isDot (by decide)
      · exact bareSource inSource
  have base : moduleBase module way = Path.withoutSourceSuffix source := by
    rw [moduleBase, key_of_not_mem bare, leads]
  have tried : candidates module way =
      moduleEndings.map (Path.withoutSourceSuffix source ++ ·) := by
    rw [candidates, base]
  rw [← tried] at notBefore
  exact ends_module? relative registered (tried ▸ mem_endings source) notBefore

/-- A project with two sources of one name, of which only one is the source of the name in its directory. -/
@[irreducible] def hueProject : Project :=
  .ofTexts [("hue.ts", "export enum Hue{Red}"), ("lib/hue.d.ts", "export enum Hue{Blue}")]

theorem reachable_hueProject : hueProject.Reachable := by
  unfold hueProject
  exact reachable_ofTexts _

/-- The specifier of a source one directory up leads back to it. -/
theorem module?_specifier_hue :
    Path.specifier ["home"] "lib/out/paint.command.ts" "lib/hue.d.ts" = .ok "../hue" ∧
      ∃ file, hueProject.registered? "lib/hue.d.ts" = some file ∧
        Step.Ends (module? "lib/out/paint.command.ts" "../hue") hueProject (.ok (some file))
          hueProject := by
  have isWay : Path.specifier ["home"] "lib/out/paint.command.ts" "lib/hue.d.ts" = .ok "../hue" := by
    decide +kernel
  have holds : (hueProject.registered? "lib/hue.d.ts").isSome := by decide +kernel
  obtain ⟨file, registered⟩ := Option.isSome_iff_exists.mp holds
  obtain ⟨way, same, -, leads⟩ :=
    @module?_specifier ["home"] "lib/out/paint.command.ts" "lib/hue.d.ts"
      ⟨by decide +kernel, by decide +kernel, by decide +kernel⟩
      ⟨by decide +kernel, by decide +kernel, by decide +kernel⟩ (by decide +kernel)
  obtain rfl : way = "../hue" := Except.ok.inj (same.symm.trans isWay)
  refine ⟨isWay, file, registered, ?_⟩
  refine leads hueProject file reachable_hueProject (by decide +kernel) registered ?_
  decide +kernel

end Project

end DeclaredOptions
