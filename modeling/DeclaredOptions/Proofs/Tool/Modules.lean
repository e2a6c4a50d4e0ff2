import DeclaredOptions.Proofs.Declaration.Shown
import DeclaredOptions.Proofs.FileTree
import DeclaredOptions.Proofs.Path.Joined
import DeclaredOptions.Proofs.Project.Loads
import DeclaredOptions.Proofs.Tool.Steps

/-!
Contract: the modules of a file's commands, and where they are written.

Owns:
- the names of commands, which are those that the exported functions are shown by;
- the paths of modules, which differ exactly where the names do;
- what is written: the module of each command that no later one shares its name with is there at the end.

Does not own: the texts of modules.

## Why the last one of a name is there

Modules are written one after the other. Each is written at the place that its name gives in the directory, and what
is made or written after it touches no other place. So a module is lost exactly where a later command has its name.
-/

set_option autoImplicit false

namespace DeclaredOptions

/-- The file at a path holds a text: it has its bytes, or others that read as it. -/
def FileTree.HoldsText (tree : FileTree) (path text : String) : Prop :=
  ∃ bytes, tree.bytes path = .ok bytes ∧ (bytes = text.toUTF8.toList ∨ textOf bytes = .ok text)

/-! ## Names of commands -/

namespace Resolve

variable {start final : Session}

theorem name_of_commandSchema {file : Option SourceFile} {config : Config} {d : Declaration}
    {paired : Option PairedOptions} {schema : CommandSchema}
    (ends : Step.Ends (commandSchema file config d paired) start (.ok schema) final) :
    schema.name = d.displayName := by
  unfold commandSchema at ends
  obtain ⟨⟨positionals, own⟩, _, -, rest⟩ := Step.ends_bind_ok.mp ends
  obtain ⟨⟨options, table⟩, _, -, rest⟩ := Step.ends_bind_ok.mp rest
  obtain ⟨_, _, -, rest⟩ := Step.ends_bind_ok.mp rest
  obtain ⟨_, _, -, rest⟩ := Step.ends_bind_ok.mp rest
  have same := (Step.ends_pure.mp rest).1
  rw [Except.ok.inj same]

/-- A file has one command for each exported function, and it is named as the function is shown. -/
theorem names_of_commandSchemas {file : SourceFile} {config : Config} {schemas : List CommandSchema}
    (ends : Step.Ends (commandSchemas file config) start (.ok schemas) final) :
    schemas.map (·.name) = (exportedFunctions file).map (·.displayName) := by
  apply map_eq_map_of_forall₂
  refine (Step.forall₂_of_ends_mapM ends).imp ?_
  rintro d schema ⟨before, after, built⟩
  exact name_of_commandSchema built

end Resolve

/-! ## Paths of modules -/

namespace Tool

theorem isName_moduleFile {name : String} (bare : '/' ∉ name.toList) : Path.IsName (name ++ Emit.moduleEnding) := by
  have long : 3 ≤ (name ++ Emit.moduleEnding).length := by
    rw [String.length_append]
    exact Nat.le_add_left_of_le (by decide)
  have differs (part : String) (short : part.length < 3) : name ++ Emit.moduleEnding ≠ part := by
    intro same
    rw [same] at long
    omega
  refine ⟨differs _ (by decide), differs _ (by decide), differs _ (by decide), ?_⟩
  rw [String.toList_append, List.mem_append, not_or]
  exact ⟨bare, by decide⟩

namespace Work

variable {schema other : CommandSchema}

theorem exists_components_modulePath (directory : String) (bare : '/' ∉ schema.name.toList) :
    ∃ upper, Path.components (modulePath directory schema) = upper ++ [schema.name ++ Emit.moduleEnding] := by
  have isName := isName_moduleFile bare
  obtain ⟨upper, parts⟩ := Path.exists_components_joinTo (Path.withSlashes directory) isName
  exact Path.exists_components_normalize parts isName

theorem modulePath_inj (directory : String) (bare : '/' ∉ schema.name.toList) (alsoBare : '/' ∉ other.name.toList) :
    modulePath directory schema = modulePath directory other ↔ schema.name = other.name := by
  constructor
  · intro samePath
    obtain ⟨upper, parts⟩ := exists_components_modulePath directory bare
    obtain ⟨more, otherParts⟩ := exists_components_modulePath directory alsoBare
    rw [samePath, otherParts] at parts
    have sameFile := (List.append_inj' parts rfl).2
    exact (String.append_left_inj _).mp (List.singleton_inj.mp sameFile).symm
  · intro sameName
    rw [modulePath, modulePath, sameName]

theorem nodup_modulePath_iff {schemas : List CommandSchema} (directory : String)
    (bare : ∀ schema ∈ schemas, '/' ∉ schema.name.toList) :
    (schemas.map (modulePath directory)).Nodup ↔ (schemas.map (·.name)).Nodup := by
  unfold List.Nodup
  rw [List.pairwise_map, List.pairwise_map]
  refine List.Pairwise.iff_of_mem fun {schema other} member alsoMember => ?_
  exact not_congr (modulePath_inj directory (bare schema member) (bare other alsoMember))

theorem getLast?_placeOf_modulePath (working : List String) (directory : String) (bare : '/' ∉ schema.name.toList) :
    (FileTree.placeOf working (modulePath directory schema)).getLast? =
      some (schema.name ++ Emit.moduleEnding) := by
  obtain ⟨upper, parts⟩ := exists_components_modulePath directory bare
  have isName := isName_moduleFile bare
  unfold FileTree.placeOf
  rw [parts, List.foldl_append, List.foldl_cons, List.foldl_nil, FileTree.placeStep,
    if_neg (by simp [isName.nonempty, isName.notHere]), if_neg (by simp [isName.notUpper]),
    List.getLast?_concat]

theorem placeOf_modulePath_ne (working : List String) (directory : String) (bare : '/' ∉ schema.name.toList)
    (alsoBare : '/' ∉ other.name.toList) (differ : schema.name ≠ other.name) :
    FileTree.placeOf working (modulePath directory schema) ≠
      FileTree.placeOf working (modulePath directory other) := by
  intro samePlace
  have sameLast := congrArg List.getLast? samePlace
  rw [getLast?_placeOf_modulePath working directory bare,
    getLast?_placeOf_modulePath working directory alsoBare] at sameLast
  exact differ ((String.append_left_inj _).mp (Option.some.inj sameLast))

/-! ## Writing -/

variable {start final : Workplace}

/-- The part of a writing that is reached when the text is not there yet. -/
theorem ends_put_ok {path text : String}
    (ends : Ends (match start.tree.write path text.toUTF8.toList with
      | .ok tree => set { start with tree := tree }
      | .error fault => throw (.failure (.cannotWrite path fault)) : Work Unit) start (.ok ()) final) :
    FileTree.Extends (· = FileTree.placeOf start.tree.working path) start.tree final.tree ∧
      final.tree.HoldsText path text := by
  cases wrote : start.tree.write path text.toUTF8.toList with
  | error fault =>
      rw [wrote] at ends
      cases ends
  | ok tree =>
      rw [wrote] at ends
      cases ends
      obtain ⟨changes, isThere⟩ := FileTree.extends_of_write wrote
      exact ⟨changes, _, isThere, .inl rfl⟩

/-- Once a text is written, or was there already, its path holds it, and no other place has changed. -/
theorem ends_write_ok {path text : String} (ends : Ends (write path text) start (.ok ()) final) :
    FileTree.Extends (· = FileTree.placeOf start.tree.working path) start.tree final.tree ∧
      final.tree.HoldsText path text := by
  unfold write at ends
  have looked := ends_get_bind.mp ends
  dsimp only at looked
  split at looked
  · rename_i isFile
    obtain ⟨content, middle, read, rest⟩ := ends_bind_ok.mp looked
    obtain ⟨reads, rfl⟩ := ends_ofExcept_ok.mp read
    obtain ⟨isThere, next, compared, rest⟩ := ends_bind_ok.mp rest
    obtain ⟨isSame, rfl⟩ := ends_pure.mp compared
    cases isSame
    split at rest
    · exact ends_put_ok rest
    · rename_i same
      rw [(ends_pure.mp rest).2]
      obtain ⟨bytes, isThere, asText⟩ := FileTree.text_eq_ok_iff.mp reads
      have sameText : content = text := by simpa using same
      exact ⟨.refl _ _, bytes, isThere, .inr (sameText ▸ asText)⟩
  · obtain ⟨isThere, next, compared, rest⟩ := ends_bind_ok.mp looked
    obtain ⟨isSame, rfl⟩ := ends_pure.mp compared
    cases isSame
    exact ends_put_ok rest

theorem ends_makeDirectories_ok {path : String} (ends : Ends (makeDirectories path) start (.ok ()) final) :
    FileTree.Extends (fun _ => False) start.tree final.tree := by
  have changes := FileTree.extends_makeDirectories start.tree path
  unfold makeDirectories at ends
  have looked := ends_get_bind.mp ends
  generalize start.tree.makeDirectories path = result at changes looked
  obtain ⟨made, fault⟩ := result
  cases fault with
  | none =>
      cases looked
      exact changes
  | some found => cases looked

theorem keepsTree_print (text : String) : KeepsTree (print text) := keepsTree_onConsole _

/-- Once a module is written, its path holds its text, and no other place has changed. -/
theorem ends_writeModule_ok {config : Config} {directory : String}
    (ends : Ends (writeModule config directory schema) start (.ok ()) final) :
    FileTree.Extends (· = FileTree.placeOf start.tree.working (modulePath directory schema)) start.tree final.tree ∧
      ∃ text, Emit.moduleText start.tree.working config.emit schema (modulePath directory schema) = .ok text ∧
        final.tree.HoldsText (modulePath directory schema) text := by
  unfold writeModule at ends
  obtain ⟨text, first, made, rest⟩ := ends_bind_ok.mp ends
  obtain ⟨isText, rfl⟩ := ends_ofExcept_ok.mp (ends_get_bind.mp made)
  obtain ⟨_, below, directories, rest⟩ := ends_bind_ok.mp rest
  obtain ⟨_, placed, wrote, shown⟩ := ends_bind_ok.mp rest
  have opened := ends_makeDirectories_ok directories
  obtain ⟨changes, holds⟩ := ends_write_ok wrote
  have kept : final.tree = placed.tree := keepsTree_print _ shown
  rw [opened.working] at changes
  rw [kept]
  exact ⟨(opened.mono fun _ impossible => impossible.elim).trans changes, text, isText, holds⟩

section

variable {config : Config} {directory : String} {schemas earlier later : List CommandSchema}

theorem extends_of_rounds (rounds : Rounds (writeModule config directory) start schemas final) :
    FileTree.Extends
      (fun place => ∃ schema ∈ schemas, place = FileTree.placeOf start.tree.working (modulePath directory schema))
      start.tree final.tree := by
  induction rounds with
  | nil place => exact .refl _ _
  | @cons schema rest start middle final first _ inductionHypothesis =>
      have changes := (ends_writeModule_ok first).1
      rw [changes.working] at inductionHypothesis
      refine FileTree.Extends.trans (changes.mono fun place isPlace => ?_)
        (inductionHypothesis.mono fun place isLater => ?_)
      · exact ⟨schema, List.mem_cons_self, isPlace⟩
      · obtain ⟨other, inRest, isPlace⟩ := isLater
        exact ⟨other, List.mem_cons_of_mem _ inRest, isPlace⟩

/-- A module that no later one shares its name with is there after all of them are written. -/
theorem holdsText_of_rounds (rounds : Rounds (writeModule config directory) start (earlier ++ schema :: later) final)
    (bare : ∀ each ∈ earlier ++ schema :: later, '/' ∉ each.name.toList)
    (lastOfName : ∀ other ∈ later, other.name ≠ schema.name) :
    ∃ text, Emit.moduleText start.tree.working config.emit schema (modulePath directory schema) = .ok text ∧
      final.tree.HoldsText (modulePath directory schema) text := by
  induction earlier generalizing start with
  | nil =>
      rw [List.nil_append] at rounds bare
      cases rounds with
      | @cons _ _ _ middle _ first others =>
          obtain ⟨changes, text, isText, bytes, isThere, reads⟩ := ends_writeModule_ok first
          rw [List.forall_mem_cons] at bare
          -- The module is there now, and those after it are written elsewhere.
          have untouched : ¬∃ other ∈ later, FileTree.placeOf middle.tree.working (modulePath directory schema) =
              FileTree.placeOf middle.tree.working (modulePath directory other) := by
            rintro ⟨other, isLater, samePlace⟩
            apply placeOf_modulePath_ne _ directory bare.1 (bare.2 other isLater) _ samePlace
            exact Ne.symm (lastOfName other isLater)
          have stillThere := (extends_of_rounds others).bytes_eq_ok untouched isThere
          exact ⟨text, isText, bytes, stillThere, reads⟩
  | cons early rest inductionHypothesis =>
      rw [List.cons_append] at rounds bare
      cases rounds with
      | cons first others =>
          rw [List.forall_mem_cons] at bare
          have changes := (ends_writeModule_ok first).1
          rw [← changes.working]
          exact inductionHypothesis others bare.2

/-! ## Runs -/

theorem ends_of_load_ok {project after : Project} {path : String} {file : SourceFile}
    (ends : Ends (load project path) start (.ok (file, after)) final) :
    Step.Ends (Project.load path) project (.ok file) after ∧ final = start := by
  unfold load at ends
  generalize ran : (Project.load path).run.run project = result at ends
  obtain ⟨outcome, next⟩ := result
  obtain ⟨value, middle, isValue, rest⟩ := ends_bind_ok.mp ends
  obtain ⟨rfl, rfl⟩ := ends_ofExcept_ok.mp isValue
  obtain ⟨same, rfl⟩ := ends_pure.mp rest
  cases same
  exact ⟨ran, rfl⟩

theorem ends_of_schemas_ok {project after : Project} {file : SourceFile}
    (ends : Ends (Work.schemas config project file) start (.ok (schemas, after)) final) :
    ∃ session, Step.Ends (Resolve.commandSchemas file config) ⟨project, []⟩ (.ok schemas) session := by
  unfold Work.schemas at ends
  generalize ran : (Resolve.commandSchemas file config).run.run ⟨project, []⟩ = result at ends
  obtain ⟨outcome, session⟩ := result
  obtain ⟨_, warned, -, rest⟩ := ends_bind_ok.mp ends
  obtain ⟨value, middle, isValue, rest⟩ := ends_bind_ok.mp rest
  obtain ⟨rfl, rfl⟩ := ends_ofExcept_ok.mp isValue
  cases (ends_pure.mp rest).1
  exact ⟨session, ran⟩

/-- A run that writes modules to a directory makes the commands of its file and writes them one after the other. -/
theorem rounds_of_ends_emit {path : String} (ends : Ends (emit config path (some directory)) start (.ok ()) final) :
    ∃ file project schemas session first last,
      Step.Ends (Project.load path) (.empty start.tree true) (.ok file) project ∧
      Step.Ends (Resolve.commandSchemas file config) ⟨project, []⟩ (.ok schemas) session ∧
      Rounds (writeModule config directory) first schemas last ∧
      first.tree = start.tree ∧ final.tree = last.tree := by
  unfold emit at ends
  obtain ⟨empty, _, isEmpty, fromEmpty⟩ := ends_bind_ok.mp ends
  cases isEmpty
  obtain ⟨⟨file, project⟩, loaded, loading, fromFile⟩ := ends_bind_ok.mp fromEmpty
  obtain ⟨isFile, sameAsStart⟩ := ends_of_load_ok loading
  rw [sameAsStart] at fromFile
  obtain ⟨⟨schemas, after⟩, built, building, fromSchemas⟩ := ends_bind_ok.mp fromFile
  obtain ⟨session, areSchemas⟩ := ends_of_schemas_ok building
  have kept := keepsTree_schemas _ _ _ building
  dsimp only at fromSchemas
  refine ⟨file, project, schemas, session, ?_⟩
  split at fromSchemas
  · -- Without a command there is a warning, and no round.
    rename_i none
    rw [List.isEmpty_iff.mp none] at areSchemas ⊢
    have warned := keepsTree_onConsole _ fromSchemas
    exact ⟨final, final, isFile, areSchemas, .nil final, warned.trans kept, rfl⟩
  · obtain ⟨_, announced, printed, indenting⟩ := ends_bind_ok.mp fromSchemas
    obtain ⟨_, indented, moved, writing⟩ := ends_bind_ok.mp indenting
    obtain ⟨_, last, written, unindenting⟩ := ends_bind_ok.mp writing
    cases moved
    cases unindenting
    exact ⟨_, last, isFile, areSchemas, rounds_of_ends_forIn written, (keepsTree_print _ printed).trans kept, rfl⟩

end

end Work

/-! ## Commands and their modules -/

section

variable {path text : String} {first : Nat} {file : SourceFile} {config : Config} {start session : Session}
  {schemas : List CommandSchema}

theorem slash_not_mem_name (formed : SourceFile.ofText path text first = .ok file)
    (built : Step.Ends (Resolve.commandSchemas file config) start (.ok schemas) session) :
    ∀ schema ∈ schemas, '/' ∉ schema.name.toList := by
  intro schema member
  have isName : schema.name ∈ (Resolve.exportedFunctions file).map (·.displayName) := by
    rw [← Resolve.names_of_commandSchemas built]
    exact List.mem_map_of_mem member
  obtain ⟨d, exported, shown⟩ := List.mem_map.mp isName
  rw [← shown]
  exact SourceFile.slash_not_mem_displayName formed (SourceFile.mem_exportedFunctions.mp exported).1

/-- A file has one command for each exported function. Their names, and with them the paths of their modules, all
differ exactly if none of the functions clashes with one that has no name. A run that writes the modules to a
directory leaves that of the last command of each name there. -/
theorem modules_of_commandSchemas (formed : SourceFile.ofText path text first = .ok file)
    (built : Step.Ends (Resolve.commandSchemas file config) start (.ok schemas) session) :
    schemas.map (·.name) = (Resolve.exportedFunctions file).map (·.displayName) ∧
    (Resolve.exportedFunctions file).Perm (file.functions.filter (·.exportKind != .none)) ∧
    ((schemas.map (·.name)).Nodup ↔ file.Unclashing) ∧
    ∀ directory, ((schemas.map (Work.modulePath directory)).Nodup ↔ file.Unclashing) ∧
      ∀ source place final project, start = ⟨project, []⟩ →
        Step.Ends (Project.load source) (.empty place.tree true) (.ok file) project →
        Work.Ends (Work.emit config source (some directory)) place (.ok ()) final →
        ∀ earlier schema later, schemas = earlier ++ schema :: later →
          (∀ other ∈ later, other.name ≠ schema.name) →
          ∃ text,
            Emit.moduleText place.tree.working config.emit schema (Work.modulePath directory schema) = .ok text ∧
            final.tree.HoldsText (Work.modulePath directory schema) text := by
  have names := Resolve.names_of_commandSchemas built
  have bare := slash_not_mem_name formed built
  have apart : (schemas.map (·.name)).Nodup ↔ file.Unclashing := by
    rw [names]
    exact SourceFile.nodup_displayName_iff formed
  refine ⟨names, SourceFile.exportedFunctions_perm file, apart, fun directory => ⟨?_, ?_⟩⟩
  · exact (Work.nodup_modulePath_iff directory bare).trans apart
  · intro source place final project isStart loaded emitted earlier schema later isSplit lastOfName
    obtain ⟨file', project', schemas', session', opened, closed, loaded', built', rounds, sameTree, endTree⟩ :=
      Work.rounds_of_ends_emit emitted
    -- The run loads the same file and makes the same commands.
    obtain ⟨sameFile, rfl⟩ := Prod.mk.inj (loaded'.symm.trans loaded)
    cases Except.ok.inj sameFile
    rw [isStart] at built
    have sameSchemas := (Prod.mk.inj (built'.symm.trans built)).1
    cases Except.ok.inj sameSchemas
    rw [isSplit] at rounds bare
    rw [endTree, ← sameTree]
    exact Work.holdsText_of_rounds rounds bare lastOfName

end

def treeOf (path text : String) : FileTree :=
  ⟨[([path], .file (text.toList.map fun c => c.toNat.toUInt8))], []⟩

/-- A project of one file of a tree. -/
def projectOf (tree : FileTree) (file : SourceFile) : Project :=
  ⟨[file], 1 + file.declarations.length, tree, true⟩

private theorem exists_commands {path text : String} {names : List String}
    (passes : (SourceFile.ofText path text 1).toOption.any fun file =>
      ((Resolve.commandSchemas file .usual).run.run ⟨projectOf (treeOf path text) file, []⟩).1.toOption.any
        fun schemas => schemas.map (·.name) == names) :
    ∃ file schemas session, SourceFile.ofText path text 1 = .ok file ∧
      Step.Ends (Resolve.commandSchemas file .usual) ⟨projectOf (treeOf path text) file, []⟩ (.ok schemas)
        session ∧
      schemas.map (·.name) = names := by
  cases formed : SourceFile.ofText path text 1 with
  | error refusal =>
      rw [formed] at passes
      contradiction
  | ok file =>
      rw [formed] at passes
      obtain ⟨schemas, session, built, named⟩ := Step.ends_of_check _ _ _ passes
      exact ⟨file, schemas, session, rfl, built, beq_iff_eq.mp named⟩

/-- A function without a name, and one with a name that is not the stem of the file. -/
def toneText : String := "export default function(){}
export function note(pitch:number){}"

/-- Both commands of the file have names of their own, and both modules are there after they are written. -/
theorem modules_of_commandSchemas_tone :
    ∃ file schemas session final,
      SourceFile.ofText "tone.ts" toneText 1 = .ok file ∧
      Step.Ends (Resolve.commandSchemas file .usual) ⟨projectOf (treeOf "tone.ts" toneText) file, []⟩ (.ok schemas)
        session ∧
      schemas.map (·.name) = ["tone", "note"] ∧ file.Unclashing ∧
      Work.Ends (Work.emit .usual "tone.ts" (some "out")) ⟨.blank, treeOf "tone.ts" toneText⟩ (.ok ()) final ∧
      ∀ earlier schema later, schemas = earlier ++ schema :: later →
        ∃ text, final.tree.HoldsText (Work.modulePath "out" schema) text := by
  obtain ⟨file, schemas, session, formed, built, names⟩ :=
    @exists_commands "tone.ts" toneText ["tone", "note"] (by decide +kernel)
  obtain ⟨outcome, final, emitted⟩ := Work.ends_exists (Work.emit .usual "tone.ts" (some "out"))
    ⟨.blank, treeOf "tone.ts" toneText⟩
  have succeeds : ((Work.emit .usual "tone.ts" (some "out")).run.run
      ⟨.blank, treeOf "tone.ts" toneText⟩).1.isOk := by decide +kernel
  have ran : (Work.emit .usual "tone.ts" (some "out")).run.run ⟨.blank, treeOf "tone.ts" toneText⟩ =
    (outcome, final) := emitted
  rw [ran] at succeeds
  cases outcome with
  | error mishap => cases succeeds
  | ok _ =>
      have normal : SourceFile.ofText (Project.key "tone.ts") toneText 1 = .ok file := by
        have same : Project.key "tone.ts" = "tone.ts" := by decide +kernel
        rw [same, formed]
      have read : (treeOf "tone.ts" toneText).text "tone.ts" (.cannotRead "tone.ts") = .ok toneText := by
        decide +kernel
      have loaded : Step.Ends (Project.load "tone.ts") (.empty (treeOf "tone.ts" toneText) true) (.ok file)
          (projectOf (treeOf "tone.ts" toneText) file) :=
        Project.ends_load_formed rfl read normal
      obtain ⟨-, -, apart, written⟩ := modules_of_commandSchemas formed built
      have distinct : (schemas.map (·.name)).Nodup := by
        rw [names]
        decide
      refine ⟨file, schemas, session, final, formed, built, names, apart.mp distinct, emitted, ?_⟩
      intro earlier schema later isSplit
      rw [isSplit, List.map_append, List.map_cons, List.nodup_append, List.nodup_cons] at distinct
      have lastOfName : ∀ other ∈ later, other.name ≠ schema.name := by
        intro other isLater sameName
        exact distinct.2.1.1 (sameName ▸ List.mem_map_of_mem isLater)
      obtain ⟨text, -, holds⟩ :=
        (written "out").2 "tone.ts" _ final _ rfl loaded emitted earlier schema later isSplit lastOfName
      exact ⟨text, holds⟩

/-- A function without a name in a file whose stem is the name of another. -/
def clashText : String := "export default function(){}
export function a(){}"

/-- Two functions are exported, and both commands have one name. The module of the first is written over by that of
the second: the run ends well, with a single new file. -/
theorem modules_clash :
    (∃ file schemas session, SourceFile.ofText "a.ts" clashText 1 = .ok file ∧
      Step.Ends (Resolve.commandSchemas file .usual) ⟨projectOf (treeOf "a.ts" clashText) file, []⟩ (.ok schemas)
        session ∧
      schemas.map (·.name) = ["a", "a"]) ∧
    (run (treeOf "a.ts" clashText) ["emit", "-o", "out", "a.ts"]).1.code = 0 ∧
    ((treeOf "a.ts" clashText).changedFiles
      (run (treeOf "a.ts" clashText) ["emit", "-o", "out", "a.ts"]).2).map (·.1) = ["out/a.command.ts"] := by
  refine ⟨?_, by decide +kernel⟩
  exact exists_commands (by decide +kernel)

end Tool

end DeclaredOptions
