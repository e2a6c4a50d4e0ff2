import DeclaredOptions.Proofs.Path.Ending
import DeclaredOptions.Proofs.Project.Modules

/-!
Contract: the module that a specifier leads to in a project that reads no tree.

Owns:
- the paths that are tried for a module, and the first of them that holds a file;
- the agreement of the texts that are looked up with those paths in normal form;
- the index files that are never found, next to a file at the top of a project.

Does not own: modules that are read from the tree.
-/

set_option autoImplicit false

namespace DeclaredOptions

namespace Project

/-! ## The paths that are tried -/

/-- The paths that a module may have, in the order they are tried: the base, sources and index files. -/
def tried (base : String) : List String :=
  [base, base ++ ".ts", base ++ ".tsx", base ++ ".d.ts", base ++ "/index.ts", base ++ "/index.tsx"]

/-- What is found is the file registered under the first of several paths that one is registered under, where
paths are compared in normal form; nothing is found if there is no such path. -/
inductive IsFirst (project : Project) (paths : List String) : Option SourceFile → Prop where
  | found {before after : List String} {path : String} {file : SourceFile}
      (split : paths = before ++ path :: after) (registered : project.file? path = some file)
      (notBefore : ∀ earlier ∈ before, project.file? earlier = none) : IsFirst project paths (some file)
  | missing (nowhere : ∀ path ∈ paths, project.file? path = none) : IsFirst project paths none

theorem isFirst_iff {project : Project} {paths : List String} {found : Option SourceFile} :
    project.IsFirst paths found ↔ found = paths.findSome? project.file? := by
  constructor
  · intro isFirst
    symm
    cases isFirst with
    | found split registered notBefore =>
        exact List.findSome?_eq_some_iff.mpr ⟨_, _, _, split, registered, notBefore⟩
    | missing nowhere => exact List.findSome?_eq_none_iff.mpr nowhere
  · intro isFound
    symm at isFound
    cases found with
    | none => exact .missing (List.findSome?_eq_none_iff.mp isFound)
    | some file =>
        obtain ⟨before, path, after, split, registered, notBefore⟩ :=
          List.findSome?_eq_some_iff.mp isFound
        exact .found split registered notBefore

theorem candidates_eq (path specifier : String) :
    candidates path specifier = tried (moduleBase path specifier) := by
  simp [candidates, moduleEndings, tried]

/-! ## Paths as they are looked up -/

section

variable {base : String}

/-- An ending holds no backslash, so only the normal form of the whole path counts. -/
private theorem key_append (isKey : key base = base) {ending : String}
    (isEnding : ending ∈ Path.sourceEndings ++ Path.indexEndings) :
    key (base ++ ending) = Path.normalize (base ++ ending) := by
  have bare : ∀ ending ∈ Path.sourceEndings ++ Path.indexEndings, '\\' ∉ ending.toList := by decide
  apply key_of_not_mem
  rw [String.toList_append, List.mem_append, not_or]
  exact ⟨backslash_not_mem_of_key isKey, bare ending isEnding⟩

theorem normalize_of_key (isKey : key base = base) : Path.normalize base = base := by
  rw [← key_of_not_mem (backslash_not_mem_of_key isKey), isKey]

theorem key_append_source (isKey : key base = base) {ending : String}
    (isEnding : ending ∈ Path.sourceEndings) : key (base ++ ending) = base ++ ending := by
  rw [key_append isKey (List.mem_append_left _ isEnding)]
  exact Path.normalize_append_source (normalize_of_key isKey) isEnding

theorem key_append_index (isKey : key base = base) (there : base ∉ [".", "//"]) {ending : String}
    (isEnding : ending ∈ Path.indexEndings) : key (base ++ ending) = base ++ ending := by
  rw [key_append isKey (List.mem_append_right _ isEnding)]
  exact Path.normalize_append_index (normalize_of_key isKey) there isEnding

theorem key_append_index_ne (isKey : key base = base) (alone : base ∈ [".", "//"]) {ending : String}
    (isEnding : ending ∈ Path.indexEndings) : key (base ++ ending) ≠ base ++ ending := by
  rw [key_append isKey (List.mem_append_right _ isEnding)]
  exact Path.normalize_append_index_ne alone isEnding

end

/-! ## Look-ups -/

section

variable {project : Project} {base : String}

theorem registered?_of_key {path : String} (isKey : key path = path) :
    project.registered? path = project.file? path := by
  rw [file?, isKey]

theorem take_tried : (tried base).take 4 = base :: Path.sourceEndings.map (base ++ ·) := rfl

theorem drop_tried : (tried base).drop 4 = Path.indexEndings.map (base ++ ·) := rfl

/-- The base and the sources are looked up as they are registered. -/
theorem findSome?_take (isKey : key base = base) :
    ((tried base).take 4).findSome? project.registered? =
      ((tried base).take 4).findSome? project.file? := by
  rw [take_tried]
  refine Path.findSome?_congr (List.forall_mem_cons.mpr ⟨registered?_of_key isKey, ?_⟩)
  exact List.forall_mem_map.mpr fun ending isEnding =>
    registered?_of_key (key_append_source isKey isEnding)

/-- Below any directory but the place itself, and a root of two slashes, index files are looked up as they are
registered, and elsewhere they are not. -/
theorem findSome?_drop (formed : project.Formed) (isKey : key base = base) :
    ((tried base).drop 4).findSome? project.registered? =
      if base ∈ [".", "//"] then none else ((tried base).drop 4).findSome? project.file? := by
  rw [drop_tried]
  split
  · rename_i alone
    refine List.findSome?_eq_none_iff.mpr (List.forall_mem_map.mpr fun ending isEnding => ?_)
    cases registered : project.registered? (base ++ ending) with
    | none => rfl
    | some file =>
        have isPath := path_of_registered? registered
        have normal := (formed file (registered?_mem registered)).1
        rw [isPath] at normal
        exact absurd normal (key_append_index_ne isKey alone isEnding)
  · rename_i there
    refine Path.findSome?_congr (List.forall_mem_map.mpr fun ending isEnding => ?_)
    exact registered?_of_key (key_append_index isKey there isEnding)

end

/-! ## Modules -/

/-- The paths where a module can be found: behind the place itself and behind a root of two slashes, index files
are looked up as no path is registered. -/
def findable (base : String) : List String :=
  if base ∈ [".", "//"] then (tried base).take 4 else tried base

theorem findSome?_tried {project : Project} (formed : project.Formed) {base : String}
    (isKey : key base = base) :
    (tried base).findSome? project.registered? = (findable base).findSome? project.file? := by
  have whole := List.take_append_drop 4 (tried base)
  rw [← whole, List.findSome?_append, findSome?_take isKey, findSome?_drop formed isKey, findable]
  split
  · exact Option.or_none
  · conv_rhs => rw [← whole, List.findSome?_append]

/-- In a project that reads no tree, a relative specifier leads to the file under the first path that is
registered, of those where a module can be found; any other specifier leads nowhere. -/
theorem module?_of_inMemory {project : Project} (reachable : project.Reachable)
    (inMemory : project.readsTree = false) (path specifier : String) :
    ∃ found, Step.Ends (module? path specifier) project (.ok found) project ∧
      (specifier.startsWith "." = false → found = none) ∧
      (specifier.startsWith "." = true →
        moduleBase path specifier ∉ [".", "//"] →
          project.IsFirst (tried (moduleBase path specifier)) found) ∧
      (specifier.startsWith "." = true →
        moduleBase path specifier ∈ [".", "//"] →
          project.IsFirst ((tried (moduleBase path specifier)).take 4) found) := by
  have isKey : key (moduleBase path specifier) = moduleBase path specifier := by
    rw [moduleBase, key_key]
  generalize based : moduleBase path specifier = base at isKey ⊢
  cases relative : specifier.startsWith "." with
  | false =>
      refine ⟨none, ?_, fun _ => rfl, fun impossible => absurd impossible Bool.false_ne_true,
        fun impossible => absurd impossible Bool.false_ne_true⟩
      unfold module?
      rw [relative]
      exact Step.ends_pure.mpr ⟨rfl, rfl⟩
  | true =>
      refine ⟨(findable base).findSome? project.file?, ?_,
        fun impossible => absurd impossible.symm Bool.false_ne_true, fun _ there => ?_, fun _ alone => ?_⟩
      · unfold module?
        rw [relative]
        refine Step.ends_get_bind.mpr ?_
        dsimp only
        rw [candidates_eq, based, findSome?_tried reachable.formed isKey, inMemory]
        split
        · rename_i file found
          exact Step.ends_pure.mpr ⟨by rw [found], rfl⟩
        · rename_i nothing
          exact Step.ends_pure.mpr ⟨by rw [nothing], rfl⟩
      · rw [isFirst_iff, findable, if_neg there]
      · rw [isFirst_iff, findable, if_pos alone]

/-- A project with an index file at its top and one below a directory, and a file next to either. -/
@[irreducible] def indexProject : Project :=
  .ofTexts [("main.ts", ""), ("index.ts", ""), ("lib/paint.ts", ""), ("lib/index.ts", "")]

theorem reachable_indexProject : indexProject.Reachable := by
  unfold indexProject
  exact reachable_ofTexts _

/-- Next to a file below a directory, the index file is found. -/
theorem module?_of_inMemory_lib :
    ∃ file, indexProject.file? "lib/index.ts" = some file ∧
      Step.Ends (module? "lib/paint.ts" ".") indexProject (.ok (some file)) indexProject := by
  have holds : (indexProject.file? "lib/index.ts").isSome := by decide +kernel
  obtain ⟨file, registered⟩ := Option.isSome_iff_exists.mp holds
  obtain ⟨found, ends, -, first, -⟩ :=
    module?_of_inMemory reachable_indexProject (by decide +kernel) "lib/paint.ts" "."
  have based : moduleBase "lib/paint.ts" "." = "lib" := by decide +kernel
  have split : tried "lib" = (tried "lib").take 4 ++ "lib/index.ts" :: ["lib/index.tsx"] := by
    decide
  have notBefore : ∀ path ∈ (tried "lib").take 4, indexProject.file? path = none := by decide +kernel
  have isFirst := first (by decide +kernel) (by decide +kernel)
  rw [based] at isFirst
  have same : found = some file :=
    (isFirst_iff.mp isFirst).trans (isFirst_iff.mp (.found split registered notBefore)).symm
  exact ⟨file, registered, same ▸ ends⟩

/-- Next to a file at the top, the index file is registered under a path that is tried, and is not found. -/
theorem not_isFirst_top :
    (indexProject.file? "main.ts").isSome ∧ moduleBase "main.ts" "." = "." ∧
      Step.Ends (module? "main.ts" ".") indexProject (.ok none) indexProject ∧
      ¬indexProject.IsFirst (tried (moduleBase "main.ts" ".")) none := by
  have based : moduleBase "main.ts" "." = "." := by decide +kernel
  have isCandidate : "./index.ts" ∈ tried "." := by decide
  have nothing : (candidates "main.ts" ".").findSome? indexProject.registered? = none := by
    decide +kernel
  refine ⟨by decide +kernel, based, ?_, ?_⟩
  · unfold module?
    rw [show ".".startsWith "." = true by decide +kernel]
    refine Step.ends_get_bind.mpr ?_
    dsimp only
    rw [nothing, show indexProject.readsTree = false by decide +kernel]
    exact Step.ends_pure.mpr ⟨rfl, rfl⟩
  · rw [based]
    intro isFirst
    cases isFirst with
    | missing nowhere =>
        have noFile := nowhere _ isCandidate
        have holds : (indexProject.file? "./index.ts").isSome := by decide +kernel
        rw [noFile] at holds
        contradiction

end Project

end DeclaredOptions
