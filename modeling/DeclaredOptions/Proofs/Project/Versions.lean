import DeclaredOptions.Proofs.Project.ImportOrder

/-!
Contract: versions of a file that differ in the order and the grouping of their imports, in a project that reads no
tree.

Owns:
- projects that are the same but for lines and imports, which stay so whatever calls are made;
- the same meaning of every type name in two such versions of a file.

Does not own: what a name means in one version.
-/

set_option autoImplicit false

namespace DeclaredOptions

open Source

namespace Project

/-! ## Versions of a project -/

variable {path text text' : String}

section

variable {project other next next' : Project}

/-- Two projects that read no tree have the same files, but for lines and imports, and go on alike. -/
structure Versions (project other : Project) : Prop where
  files : project.files.map SourceFile.outline = other.files.map SourceFile.outline
  nextId : project.nextId = other.nextId
  tree : project.tree = other.tree
  inMemory : project.readsTree = false
  otherInMemory : other.readsTree = false

theorem Versions.outline (versions : Versions project other) : project.outline = other.outline := by
  unfold Project.outline
  rw [versions.files, versions.nextId, versions.tree, versions.inMemory, versions.otherInMemory]

theorem versions_refl (inMemory : project.readsTree = false) : Versions project project :=
  ⟨rfl, rfl, rfl, inMemory, inMemory⟩

theorem Versions.registered?_eq_none_iff (versions : Versions project other) (path : String) :
    project.registered? path = none ↔ other.registered? path = none := by
  have same := registered?_outline project path
  rw [versions.outline, registered?_outline] at same
  rw [← Option.map_eq_none_iff (f := SourceFile.outline), ← same, Option.map_eq_none_iff]

/-- Files of one outline that are registered in versions of a project leave versions of a project. -/
theorem Versions.register (versions : Versions project other) {file version : SourceFile}
    (same : file.outline = version.outline) :
    Versions
      { project with
        files := project.files ++ [file]
        nextId := project.nextId + file.declarations.length }
      { other with
        files := other.files ++ [version]
        nextId := other.nextId + version.declarations.length } where
  files := by
    rw [List.map_append, List.map_append, versions.files, List.map_singleton, List.map_singleton, same]
  nextId := by
    have lengths := congrArg (fun file : SourceFile => file.declarations.length) same
    simp only [SourceFile.outline, List.length_map] at lengths
    rw [versions.nextId, lengths]
  tree := versions.tree
  inMemory := versions.inMemory
  otherInMemory := versions.otherInMemory

/-- Numbers that are used up in both leave versions of a project. -/
theorem Versions.skip (versions : Versions project other) (used : Nat) :
    Versions { project with nextId := project.nextId + used } { other with nextId := other.nextId + used } where
  files := versions.files
  nextId := by rw [versions.nextId]
  tree := versions.tree
  inMemory := versions.inMemory
  otherInMemory := versions.otherInMemory

theorem Versions.withTree (versions : Versions project other) (tree : FileTree) :
    Versions (project.withTree tree) (other.withTree tree) :=
  ⟨versions.files, versions.nextId, rfl, versions.inMemory, versions.otherInMemory⟩

theorem Versions.add (versions : Versions project other)
    {outcome outcome' : Except Failure SourceFile}
    (ends : Step.Ends (Project.add path text) project outcome next)
    (ends' : Step.Ends (Project.add path text) other outcome' next') : Versions next next' := by
  have free := versions.registered?_eq_none_iff (key path)
  rcases add_cases ends with ⟨file, -, isNew, formed, rfl⟩ | ⟨failure, used, -, isNew, refused, rfl⟩ |
    ⟨-, taken, rfl⟩
  · have formedToo := formed
    rw [versions.nextId] at formedToo
    rcases add_cases ends' with ⟨version, -, -, again, rfl⟩ | ⟨_, _, -, -, again, -⟩ | ⟨-, taken, -⟩
    · cases formedToo.symm.trans again
      exact versions.register rfl
    · cases formedToo.symm.trans again
    · rw [free.mp isNew] at taken
      contradiction
  · rw [versions.nextId] at refused
    rcases add_cases ends' with ⟨_, -, -, again, -⟩ | ⟨_, _, -, -, again, rfl⟩ | ⟨-, taken, -⟩
    · cases refused.symm.trans again
    · cases refused.symm.trans again
      exact versions.skip used
    · rw [free.mp isNew] at taken
      contradiction
  · rcases add_cases ends' with ⟨_, -, isNew, -⟩ | ⟨_, _, -, isNew, -⟩ | ⟨-, -, rfl⟩
    · rw [free.mpr isNew] at taken
      contradiction
    · rw [free.mpr isNew] at taken
      contradiction
    · exact versions

theorem Versions.load (versions : Versions project other)
    {outcome outcome' : Except Failure SourceFile}
    (ends : Step.Ends (Project.load path) project outcome next)
    (ends' : Step.Ends (Project.load path) other outcome' next') : Versions next next' := by
  have free := versions.registered?_eq_none_iff (key path)
  have looked := Step.ends_get_bind.mp ends
  have looked' := Step.ends_get_bind.mp ends'
  rw [← versions.tree] at looked'
  cases held : project.registered? (key path) with
  | some file =>
      obtain ⟨version, heldToo⟩ := Option.ne_none_iff_exists'.mp (mt free.mpr (by simp [held]))
      rw [held] at looked
      rw [heldToo] at looked'
      obtain ⟨-, rfl⟩ := Step.ends_pure.mp looked
      obtain ⟨-, rfl⟩ := Step.ends_pure.mp looked'
      exact versions
  | none =>
      rw [held] at looked
      rw [free.mp held] at looked'
      dsimp only at looked looked'
      split at looked
      · rename_i text read
        rw [read] at looked'
        exact versions.add looked looked'
      · rename_i failure unread
        rw [unread] at looked'
        obtain ⟨-, rfl⟩ := Step.ends_throw.mp looked
        obtain ⟨-, rfl⟩ := Step.ends_throw.mp looked'
        exact versions

theorem Versions.turn (versions : Versions project other) (tree : FileTree) (call : Call) :
    Versions (project.turn tree call).after (other.turn tree call).after := by
  have start := versions.withTree tree
  obtain ⟨outcome, next, ends⟩ := Step.ends_exists call.step (project.withTree tree)
  obtain ⟨outcome', next', ends'⟩ := Step.ends_exists call.step (other.withTree tree)
  rw [turn_of_ends ends, turn_of_ends ends']
  cases call with
  | add path text =>
      obtain ⟨_, added, -⟩ := Step.ends_map.mp ends
      obtain ⟨_, added', -⟩ := Step.ends_map.mp ends'
      exact start.add added added'
  | load path =>
      obtain ⟨_, loaded, -⟩ := Step.ends_map.mp ends
      obtain ⟨_, loaded', -⟩ := Step.ends_map.mp ends'
      exact start.load loaded loaded'
  | module path specifier =>
      obtain ⟨_, looked, -⟩ := Step.ends_map.mp ends
      obtain ⟨_, looked', -⟩ := Step.ends_map.mp ends'
      obtain ⟨-, rfl⟩ := Step.ends_unique (ends_module?_inMemory start.inMemory _ _) looked
      obtain ⟨-, rfl⟩ := Step.ends_unique (ends_module?_inMemory start.otherInMemory _ _) looked'
      exact start
  | type file name =>
      obtain ⟨_, looked, -⟩ := Step.ends_map.mp ends
      obtain ⟨_, looked', -⟩ := Step.ends_map.mp ends'
      obtain ⟨_, found⟩ := exists_type? start.inMemory file name
      obtain ⟨_, found'⟩ := exists_type? start.otherInMemory file name
      obtain ⟨-, rfl⟩ := Step.ends_unique found looked
      obtain ⟨-, rfl⟩ := Step.ends_unique found' looked'
      exact start
  | number =>
      obtain ⟨_, taken, -⟩ := Step.ends_map.mp ends
      obtain ⟨_, taken', -⟩ := Step.ends_map.mp ends'
      obtain ⟨-, rfl⟩ := takeId_ends taken
      obtain ⟨-, rfl⟩ := takeId_ends taken'
      exact start.skip 1

theorem Versions.afterAll (versions : Versions project other) (calls : List (FileTree × Call)) :
    Versions (project.afterAll calls) (other.afterAll calls) := by
  induction calls generalizing project other with
  | nil => exact versions
  | cons call rest inductionHypothesis => exact inductionHypothesis (versions.turn call.1 call.2)

end

/-! ## Versions of a file -/

section

variable {statements statements' : List Statement} {file : SourceFile}

/-- Of two texts whose statements differ in their imports only, both are files or none is, and the files have one
outline. -/
theorem exists_version {first : Nat} (ran : Source.read path text = .ok statements)
    (ran' : Source.read path text' = .ok statements') (rearranged : Rearranged statements statements')
    (formed : SourceFile.ofText path text first = .ok file) :
    ∃ version, SourceFile.ofText path text' first = .ok version ∧ file.outline = version.outline := by
  obtain ⟨version, formed'⟩ :=
    (SourceFile.exists_ofText_iff_of_rearranged ran ran' rearranged).mp ⟨file, formed⟩
  have same := SourceFile.declarations_unplaced_congr ran ran' rearranged formed formed'
  obtain ⟨isPath, numbered⟩ := SourceFile.numbered_ofText formed
  obtain ⟨isPath', numbered'⟩ := SourceFile.numbered_ofText formed'
  -- All declarations of either file have one source, so nothing but lines is lost.
  have placed {declarations : List Declaration} (sources : ∀ d ∈ declarations, d.source = some path) :
      declarations.map Declaration.unlined =
        (declarations.map Declaration.unplaced).map fun d => { d with source := some path } := by
    rw [List.map_map]
    refine List.map_congr_left fun d member => ?_
    rw [Declaration.unlined, sources d member]
    rfl
  refine ⟨version, formed', ?_⟩
  unfold SourceFile.outline
  rw [isPath, isPath', placed numbered.source, placed numbered'.source, same]

theorem imports_of_ofText {first : Nat} (ran : Source.read path text = .ok statements)
    (formed : SourceFile.ofText path text first = .ok file) : file.imports = importsOf statements := by
  rw [((SourceFile.ofText_eq_ok_iff ran file).mp formed).2]

/-- Two versions of a file of a project that reads no tree have the same imports in another order or in other
statements, where no local name is bound twice. Where one is registered so can be the other, and whatever calls
are made before and after, every type name means the same declaration in both, or nothing, but for the lines where it
stands. -/
theorem type?_of_regrouped {start next : Project} (inMemory : start.readsTree = false)
    (ran : Source.read (key path) text = .ok statements)
    (ran' : Source.read (key path) text' = .ok statements') (regrouped : Regrouped statements statements')
    (added : Step.Ends (add path text) start (.ok file) next) :
    ∃ version next', Step.Ends (add path text') start (.ok version) next' ∧
      ∀ (calls : List (FileTree × Call)) (name : String), ∃ found found',
        Step.Ends (type? file name) (next.afterAll calls) (.ok found) (next.afterAll calls) ∧
        Step.Ends (type? version name) (next'.afterAll calls) (.ok found') (next'.afterAll calls) ∧
        found.map Declaration.unlined = found'.map Declaration.unlined := by
  obtain ⟨_, same, isNew, formed, rfl⟩ | ⟨_, _, impossible, -⟩ | ⟨impossible, -⟩ := add_cases added
  · cases same
    obtain ⟨version, formed', outline⟩ := exists_version ran ran' regrouped.toRearranged formed
    have added' : Step.Ends (add path text') start (.ok version) { start with
        files := start.files ++ [version]
        nextId := start.nextId + version.declarations.length } := by
      refine Step.ends_get_bind.mpr ?_
      dsimp only
      rw [isNew, formed']
      exact Step.ends_set_bind.mpr (Step.ends_pure.mpr ⟨rfl, rfl⟩)
    refine ⟨version, _, added', fun calls name => ?_⟩
    have versions := ((versions_refl inMemory).register outline).afterAll calls
    have imports := imports_of_ofText ran formed
    have imports' := imports_of_ofText ran' formed'
    have perm : (piecesOf file.imports).Perm (piecesOf version.imports) := by
      rw [imports, imports']
      exact regrouped.pieces
    have once : ((piecesOf file.imports).map (·.name)).Nodup := by
      rw [imports]
      exact regrouped.once
    have once' := (perm.map (·.name)).nodup_iff.mp once
    exact ⟨_, _, ends_type?_inMemory versions.inMemory once name,
      ends_type?_inMemory versions.otherInMemory once' name,
      meaning_congr outline versions.outline perm once name⟩
  · contradiction
  · contradiction

/-- A project of one file, which exports an enum under another name and an enum by default. -/
@[irreducible] def toneProject : Project :=
  .ofTexts [("hue.ts", "enum Tone\x7bRed\x7dexport\x7bTone as Hue\x7d\nexport default enum Size\x7bS\x7d")]

def joinedText : String :=
  "import Scale,\x7bHue as Shade\x7dfrom'./hue'\nimport*as all from'./hue'\nenum Own\x7bA\x7d
function fit()\x7b\x7d"

def apartText : String :=
  "enum Own\x7bA\x7d\nimport*as all from'./hue'\nimport\x7bHue as Shade\x7dfrom'./hue'
function fit()\x7b\x7d\nimport Scale from'./hue'"

/-- Names of a file, each with the name of what it means there. -/
def shadeMeanings : List (String × Option String) :=
  [("Shade", some "Tone"), ("Scale", some "Size"), ("all", none), ("Own", some "Own")]

/-- Whether a file is registered that has two imports and where each name means what is listed for it. -/
def meansAll (meanings : List (String × Option String)) (run : Except Failure SourceFile × Project) : Bool :=
  run.1.toOption.any fun file => file.imports.length == 2 && meanings.all fun meaning =>
    ((type? file meaning.1).run.run run.2).1.toOption.any fun found => found.bind (·.name) == meaning.2

/-- Whether two texts are statements of the same forms, exports and pieces, and no name is bound twice. -/
def regroups (path text text' : String) : Bool :=
  (Source.read path text).toOption.any fun statements =>
    (Source.read path text').toOption.any fun statements' =>
      SourceFile.sameEnumAndFunction statements statements' &&
        decide (statements.flatMap Declaration.exportPairs = statements'.flatMap Declaration.exportPairs) &&
        decide ((piecesOf (importsOf statements)).Perm (piecesOf (importsOf statements'))) &&
        decide ((piecesOf (importsOf statements)).map (·.name)).Nodup

theorem exists_regrouped (checked : regroups path text text' = true) :
    ∃ statements statements', Source.read path text = .ok statements ∧
      Source.read path text' = .ok statements' ∧ Regrouped statements statements' := by
  unfold regroups at checked
  cases ran : Source.read path text with
  | error failure => simp [ran, Except.toOption] at checked
  | ok statements =>
      cases ran' : Source.read path text' with
      | error failure => simp [ran', Except.toOption] at checked
      | ok statements' =>
          simp only [ran, ran', Except.toOption, Option.any_some, Bool.and_eq_true,
            decide_eq_true_eq] at checked
          obtain ⟨⟨⟨forms, exports⟩, pieces⟩, once⟩ := checked
          exact ⟨statements, statements', rfl, rfl,
            ⟨SourceFile.forms_of_sameEnumAndFunction forms, exports⟩, pieces, once⟩

/-- Two imports of a file and three of its other version bind the same names, and each name means the same enum. -/
theorem type?_of_regrouped_shade :
    ∃ file version next next', Step.Ends (add "fit.ts" joinedText) toneProject (.ok file) next ∧
      Step.Ends (add "fit.ts" apartText) toneProject (.ok version) next' ∧ file.imports.length = 2 ∧
      ∀ meaning ∈ shadeMeanings, ∃ found found',
        Step.Ends (type? file meaning.1) next (.ok found) next ∧
        Step.Ends (type? version meaning.1) next' (.ok found') next' ∧
        found.map Declaration.unlined = found'.map Declaration.unlined ∧
        found.bind (·.name) = meaning.2 := by
  have runs : meansAll shadeMeanings ((add "fit.ts" joinedText).run.run toneProject) = true := by
    decide +kernel
  have isKey : key "fit.ts" = "fit.ts" := by decide +kernel
  obtain ⟨statements, statements', ran, ran', regrouped⟩ :=
    @exists_regrouped "fit.ts" joinedText apartText (by decide +kernel)
  obtain ⟨outcome, next, added⟩ := Step.ends_exists (add "fit.ts" joinedText) toneProject
  have isRun : (add "fit.ts" joinedText).run.run toneProject = (outcome, next) := added
  rw [isRun] at runs
  cases outcome with
  | error failure => exact absurd runs Bool.false_ne_true
  | ok file =>
      simp only [meansAll, Except.toOption, Option.any_some, Bool.and_eq_true, beq_iff_eq,
        List.all_eq_true] at runs
      obtain ⟨version, next', added', sameMeaning⟩ :=
        @type?_of_regrouped "fit.ts" joinedText apartText statements statements' file toneProject next
          (by decide +kernel) (by rw [isKey, ran]) (by rw [isKey, ran']) regrouped added
      refine ⟨file, version, next, next', added, added', runs.1, fun meaning isMeaning => ?_⟩
      obtain ⟨found, found', looked, looked', same⟩ := sameMeaning [] meaning.1
      have means := runs.2 meaning isMeaning
      have isLook : (type? file meaning.1).run.run next = (.ok found, next) := looked
      rw [isLook] at means
      exact ⟨found, found', looked, looked', same, by simpa [Except.toOption] using means⟩

end

end Project

end DeclaredOptions
