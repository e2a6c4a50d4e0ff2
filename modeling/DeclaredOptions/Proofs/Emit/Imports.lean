import DeclaredOptions.Emit.Module
import DeclaredOptions.Proofs.FirstOccurrence
import DeclaredOptions.Proofs.Path.RelativeSpecifier
import DeclaredOptions.Proofs.Schema.Symbols
import Mathlib.Data.List.Flatten

/-!
Contract: the import statements of a command's module, and what they bind.

Owns:
- the bindings of a statement, and of all statements of a module;
- one statement for each file, which binds each symbol of the file once, under its own name.

Does not own: the other bindings of a module, and the paths that specifiers are written from.
-/

set_option autoImplicit false

namespace DeclaredOptions

/-! ## Bindings -/

/-- What an import binds: the file it comes from, the name it is exported by there unless it is the default,
and the name it is bound to. -/
structure ImportBinding where
  source : String
  exported : Option String
  name : String
  deriving DecidableEq, Repr

/-- The bindings of a statement: the default one, then the named ones. -/
def ImportStatement.bindings (statement : ImportStatement) : List ImportBinding :=
  statement.default?.toList.map (⟨statement.source, none, ·⟩) ++
    statement.named.map fun item => ⟨statement.source, some item.exported, item.name⟩

/-- The binding that a symbol takes: by default if its declaration is the default export of its file, and else
under the name that its declaration is exported by. -/
def Reference.binding (ref : Reference) : ImportBinding :=
  ⟨ref.source, if ref.declaration.exportKind = .asDefault then none else ref.declaration.exportedName,
    ref.name⟩

/-- The binding that an import statement gives to a symbol. -/
def Reference.imported (ref : Reference) : ImportBinding :=
  ⟨ref.source, if ref.isDefault then none else some (NamedImport.ofReference ref).exported, ref.name⟩

/-- A statement for the symbols of one file binds the first default one and all named ones. -/
theorem ImportStatement.bindings_ofReferences {source : String} {refs : List Reference}
    (fromSource : ∀ ref ∈ refs, ref.source = source) :
    (ofReferences source refs).bindings =
      ((refs.filter (·.isDefault)).head?.toList ++ refs.filter (!·.isDefault)).map
        Reference.imported := by
  unfold bindings ofReferences
  rw [List.map_append, List.head?_filter]
  congr 1
  · cases found : refs.find? (·.isDefault) with
    | none => rfl
    | some ref =>
        have isDefault : ref.isDefault = true := List.find?_some found
        have sameSource := fromSource ref (List.mem_of_find?_eq_some found)
        simp [Reference.imported, isDefault, sameSource]
  · rw [List.map_map]
    refine List.map_congr_left fun ref member => ?_
    obtain ⟨isRef, notDefault⟩ := List.mem_filter.mp member
    have named : ref.isDefault = false := by simpa using notDefault
    simp [Reference.imported, named, fromSource ref isRef, NamedImport.ofReference]

/-! ## Groups -/

/-- Values grouped by a key are the values again. -/
private theorem perm_flatMap_filter {α β : Type} [DecidableEq β] (key : α → β) {keys : List β}
    (nodup : keys.Nodup) {values : List α} (covered : ∀ value ∈ values, key value ∈ keys) :
    (keys.flatMap fun k => values.filter (key · == k)).Perm values := by
  induction keys generalizing values with
  | nil =>
      cases values with
      | nil => exact .nil
      | cons value rest => exact absurd (covered value List.mem_cons_self) List.not_mem_nil
  | cons k rest inductionHypothesis =>
      obtain ⟨absent, nodupRest⟩ := List.nodup_cons.mp nodup
      let others := values.filter fun value => !(key value == k)
      have othersCovered : ∀ value ∈ others, key value ∈ rest := by
        intro value member
        obtain ⟨isValue, other⟩ := List.mem_filter.mp member
        refine (List.mem_cons.mp (covered value isValue)).resolve_left ?_
        simpa using other
      have sameGroups : (rest.flatMap fun k' => values.filter (key · == k')) =
          rest.flatMap fun k' => others.filter (key · == k') := by
        refine List.flatMap_congr fun k' member => ?_
        rw [List.filter_filter]
        refine List.filter_congr fun value _ => ?_
        by_cases isKey : key value = k'
        · have notFirst : k' ≠ k := fun same => absent (same ▸ member)
          simp [isKey, notFirst]
        · simp [isKey]
      rw [List.flatMap_cons, sameGroups]
      exact ((inductionHypothesis nodupRest othersCovered).append_left _).trans
        (List.filter_append_perm _ _)

namespace Emit

/-- References to different declarations are left as they are. -/
theorem distinct_of_nodup {refs : List Reference} (ids : (refs.map (·.id)).Nodup) :
    distinct refs = refs := by
  have grow (kept rest : List Reference) (ids : ((kept ++ rest).map (·.id)).Nodup) :
      rest.foldl (fun kept ref => if kept.any (·.same ref) then kept else kept ++ [ref]) kept =
        kept ++ rest := by
    induction rest generalizing kept with
    | nil => rw [List.append_nil, List.foldl_nil]
    | cons ref rest inductionHypothesis =>
        have fresh : kept.any (·.same ref) = false := by
          rw [List.any_eq_false]
          intro other member isSame
          have sameId : other.id = ref.id := by simpa [Reference.same] using isSame
          rw [List.map_append, List.map_cons] at ids
          have disjoint := (List.nodup_append.mp ids).2.2 other.id (List.mem_map_of_mem member)
          exact disjoint ref.id List.mem_cons_self sameId
        rw [List.append_cons] at ids ⊢
        rw [List.foldl_cons, fresh]
        exact inductionHypothesis (kept ++ [ref]) ids
  exact grow [] refs ids

variable (schema : CommandSchema)

/-- No file has two default exports among the symbols of a command. -/
def DefaultsApart : Prop := (((symbols schema).filter (·.isDefault)).map (·.source)).Nodup

instance : Decidable (DefaultsApart schema) :=
  inferInstanceAs (Decidable (((symbols schema).filter (·.isDefault)).map (·.source)).Nodup)

def symbolsIn (source : String) : List Reference := (symbols schema).filter (·.source == source)

/-- The symbols that import statements bind, file by file: the first default one, and all named ones. -/
def boundSymbols : List Reference :=
  ((symbols schema).map (·.source)).eraseDups.flatMap fun source =>
    ((symbolsIn schema source).filter (·.isDefault)).head?.toList ++
      (symbolsIn schema source).filter (!·.isDefault)

/-- There is one statement for each file, in the order in which files come first. -/
theorem sources_importStatements :
    (importStatements schema).map (·.source) = ((symbols schema).map (·.source)).eraseDups := by
  unfold importStatements groupReferences
  rw [List.map_map, List.map_map]
  exact List.map_id _

variable {schema}

theorem bindings_importStatements (ids : ((symbols schema).map (·.id)).Nodup) :
    (importStatements schema).flatMap (·.bindings) =
      (boundSymbols schema).map Reference.imported := by
  unfold importStatements groupReferences boundSymbols
  rw [List.map_map, List.flatMap_map, List.map_flatMap]
  refine List.flatMap_congr fun source _ => ?_
  have idsInFile : ((symbolsIn schema source).map (·.id)).Nodup :=
    ids.sublist (List.filter_sublist.map _)
  change (ImportStatement.ofReferences source (distinct (symbolsIn schema source))).bindings = _
  rw [distinct_of_nodup idsInFile]
  refine ImportStatement.bindings_ofReferences fun ref member => ?_
  simpa using (List.mem_filter.mp member).2

private theorem perm_symbolsIn :
    (((symbols schema).map (·.source)).eraseDups.flatMap (symbolsIn schema)).Perm
      (symbols schema) :=
  perm_flatMap_filter Reference.source (FirstOccurrence.nodup_eraseDups _) fun _ member =>
    List.mem_eraseDups.mpr (List.mem_map_of_mem member)

/-- Only symbols are bound, and none twice. -/
theorem boundSymbols_subperm : (boundSymbols schema).Subperm (symbols schema) := by
  have kept : (boundSymbols schema).Sublist
      (((symbols schema).map (·.source)).eraseDups.flatMap fun source =>
        (symbolsIn schema source).filter (·.isDefault) ++
          (symbolsIn schema source).filter (!·.isDefault)) := by
    refine List.Sublist.flatMap_right _ fun source _ => List.Sublist.append_right ?_ _
    cases (symbolsIn schema source).filter (·.isDefault) with
    | nil => exact List.Sublist.refl _
    | cons first rest => exact (List.nil_sublist rest).cons_cons first
  have all := (List.Perm.flatMap_left ((symbols schema).map (·.source)).eraseDups
    fun source _ => List.filter_append_perm (·.isDefault) (symbolsIn schema source)).trans
      perm_symbolsIn
  exact kept.subperm.trans all.subperm

private theorem head?_toList_of_nodup {refs : List Reference} {source : String}
    (fromSource : ∀ ref ∈ refs, ref.source = source) (once : (refs.map (·.source)).Nodup) :
    refs.head?.toList = refs := by
  cases refs with
  | nil => rfl
  | cons first rest =>
      cases rest with
      | nil => rfl
      | cons second more =>
          have same : first.source = second.source :=
            (fromSource first (by simp)).trans (fromSource second (by simp)).symm
          simp [same] at once

theorem boundSymbols_perm
    (oneDefault : DefaultsApart schema) :
    (boundSymbols schema).Perm (symbols schema) := by
  refine List.Perm.trans (List.Perm.flatMap_left _ fun source _ => ?_) perm_symbolsIn
  have once : (((symbolsIn schema source).filter (·.isDefault)).map (·.source)).Nodup := by
    unfold symbolsIn
    rw [List.filter_comm]
    exact oneDefault.sublist (List.filter_sublist.map _)
  have fromSource : ∀ ref ∈ (symbolsIn schema source).filter (·.isDefault),
      ref.source = source := by
    intro ref member
    simpa using (List.mem_filter.mp (List.mem_filter.mp member).1).2
  rw [head?_toList_of_nodup fromSource once]
  exact List.filter_append_perm _ _

theorem mem_boundSymbols_of_command {command : Reference} (isCommand : schema.command = some command) :
    command ∈ boundSymbols schema := by
  have symbolsEq : symbols schema = command :: schema.references.toList := by
    unfold symbols
    rw [isCommand]
    rfl
  refine List.mem_flatMap.mpr ⟨command.source, ?_, ?_⟩
  · rw [List.mem_eraseDups, symbolsEq]
    exact List.mem_cons_self
  · have first : symbolsIn schema command.source =
        command :: schema.references.toList.filter (·.source == command.source) := by
      unfold symbolsIn
      rw [symbolsEq, List.filter_cons, if_pos (beq_self_eq_true _)]
    rw [first, List.mem_append]
    by_cases isDefault : command.isDefault
    · rw [List.filter_cons_of_pos isDefault]
      exact .inl List.mem_cons_self
    · exact .inr (List.mem_filter.mpr ⟨List.mem_cons_self, by simpa using isDefault⟩)

/-! ## Texts -/

variable (working : List String) (quote : QuoteMark) (path : String)

theorem imports_eq_error
    (nameless : ∃ ref ∈ symbols schema, ref.source ∈ "" :: Path.sourceSuffixes) :
    imports working quote schema path = .error .emptyPath := by
  have sources := sources_importStatements schema
  refine mapM_eq_error (fun statement _ => ?_) ?_
  · unfold ImportStatement.text
    by_cases named : statement.source ∈ "" :: Path.sourceSuffixes
    · rw [Path.specifier_eq_error named]
      exact .inl rfl
    · rw [Path.specifier_eq_ok named]
      exact .inr ⟨_, rfl⟩
  · obtain ⟨ref, member, noName⟩ := nameless
    have inSources : ref.source ∈ (importStatements schema).map (·.source) := by
      rw [sources, List.mem_eraseDups]
      exact List.mem_map_of_mem member
    obtain ⟨statement, isStatement, same⟩ := List.mem_map.mp inSources
    refine ⟨statement, isStatement, ?_⟩
    unfold ImportStatement.text
    rw [same, Path.specifier_eq_error noName]
    rfl

theorem exists_imports
    (named : ∀ ref ∈ symbols schema, ref.source ∉ "" :: Path.sourceSuffixes) :
    ∃ texts, imports working quote schema path = .ok texts := by
  refine exists_mapM_eq_ok fun statement isStatement => ?_
  have inSources : statement.source ∈ (importStatements schema).map (·.source) :=
    List.mem_map_of_mem isStatement
  rw [sources_importStatements, List.mem_eraseDups] at inSources
  obtain ⟨ref, member, same⟩ := List.mem_map.mp inSources
  unfold ImportStatement.text
  rw [Path.specifier_eq_ok (same ▸ named ref member)]
  exact ⟨_, rfl⟩

end Emit

/-! ## Symbols of a command -/

/-- A symbol is imported as its declaration is exported, if the declaration has the symbol's name or is the
default export of its file. -/
theorem imported_toDeclaration {d : Declaration} {name : String}
    (known : d.name = some name ∨ d.exportKind = .asDefault) :
    (Reference.toDeclaration d name).imported = (Reference.toDeclaration d name).binding := by
  unfold Reference.imported Reference.binding
  rw [Reference.toDeclaration_isDefault, Reference.toDeclaration_declaration]
  by_cases isDefault : d.exportKind = .asDefault
  · simp [isDefault]
  · have named := known.resolve_right isDefault
    have item : NamedImport.ofReference (Reference.toDeclaration d name) =
        ⟨(present d.exportName).getD name, name⟩ := by
      simp [NamedImport.ofReference, Reference.toDeclaration, isDefault]
    simp only [beq_iff_eq, isDefault, if_false, item]
    unfold Declaration.exportedName
    rw [named]
    cases present d.exportName <;> rfl

namespace CommandSchema

/-- A command's module imports once: there is one statement for each file of a symbol, the command's file
first, and together the statements bind each symbol once, under a name of its own, from the file that declares
it, and as its declaration is exported. -/
structure ImportsOnce (schema : CommandSchema) (project : Project) (d : Declaration) : Prop where
  sources : ((Emit.importStatements schema).map (·.source)).Nodup
  covers : ∀ source, source ∈ (Emit.importStatements schema).map (·.source) ↔
    ∃ ref ∈ Emit.symbols schema, ref.source = source
  commandFirst : ((Emit.importStatements schema).map (·.source)).head? =
    some (Reference.toCommand d).source
  bindings : ((Emit.importStatements schema).flatMap (·.bindings)).Perm
    ((Emit.symbols schema).map (·.binding))
  names : ((Emit.symbols schema).map (·.name)).Nodup
  kinds : ∀ ref ∈ Emit.symbols schema,
    ref.binding.exported = none ↔ ref.declaration.exportKind = .asDefault
  files : ∀ ref ∈ Emit.symbols schema, ∃ file ∈ project.files, ref.declaration ∈ file.declarations ∧
    ∀ other ∈ project.files, other.path = ref.source ↔ other = file

variable {schema : CommandSchema} {project : Project} {file : SourceFile} {d : Declaration}
  {paired : Option PairedOptions}

theorem HasSymbols.symbols_eq (hasSymbols : schema.HasSymbols project d) :
    Emit.symbols schema = .toCommand d :: schema.references.toList := by
  unfold Emit.symbols
  rw [hasSymbols.command]
  rfl

theorem HasSymbols.nodup_ids (hasSymbols : schema.HasSymbols project d) :
    ((Emit.symbols schema).map (·.id)).Nodup := by
  rw [hasSymbols.symbols_eq]
  exact hasSymbols.ids

theorem HasSymbols.nodup_names (hasSymbols : schema.HasSymbols project d) :
    ((Emit.symbols schema).map (·.name)).Nodup := by
  rw [hasSymbols.symbols_eq]
  exact hasSymbols.names

/-- The symbols of a command of a file are declarations of the project, under their names unless they are
default exports. -/
private theorem HasSymbols.declared (hasSymbols : schema.HasSymbols project d) (sound : project.Sound)
    (offers : project.Offers (some file) d paired) :
    ∀ ref ∈ Emit.symbols schema, ∃ e ∈ project.declared, ∃ name,
      ref = .toDeclaration e name ∧ (e.name = some name ∨ e.exportKind = .asDefault) := by
  rw [hasSymbols.symbols_eq, List.forall_mem_cons]
  constructor
  · have isDeclared := Project.mem_declared offers.placed.1 offers.placed.2
    have wellNamed := sound.wellNamed d isDeclared
    refine ⟨d, isDeclared, d.bindingName, rfl, ?_⟩
    rcases wellNamed.named with isNamed | ⟨-, isDefault⟩
    · obtain ⟨name, named⟩ := Option.isSome_iff_exists.mp isNamed
      rw [wellNamed.bindingName_eq named]
      exact .inl named
    · exact .inr isDefault
  · intro ref member
    obtain ⟨e, isDeclared, isEnum, rfl⟩ := hasSymbols.enums ref member
    obtain ⟨name, named, -⟩ := (sound.wellNamed e isDeclared).enum isEnum
    refine ⟨e, isDeclared, e.name.getD "", rfl, .inl ?_⟩
    rw [named]
    rfl

/-- A command's module imports once, where no file has two default exports among the symbols. -/
private theorem HasSymbols.importsOnce (hasSymbols : schema.HasSymbols project d)
    (sound : project.Sound) (offers : project.Offers (some file) d paired)
    (oneDefault : Emit.DefaultsApart schema) :
    schema.ImportsOnce project d := by
  have declared := hasSymbols.declared sound offers
  have faithful : ∀ ref ∈ Emit.symbols schema, ref.imported = ref.binding := by
    intro ref member
    obtain ⟨e, -, name, rfl, known⟩ := declared ref member
    exact imported_toDeclaration known
  have sources := Emit.sources_importStatements schema
  refine ⟨?_, fun source => ?_, ?_, ?_, hasSymbols.nodup_names, ?_, ?_⟩
  · rw [sources]
    exact FirstOccurrence.nodup_eraseDups _
  · rw [sources, List.mem_eraseDups, List.mem_map]
  · rw [sources, hasSymbols.symbols_eq, List.map_cons, List.eraseDups_cons, List.head?_cons]
  · rw [Emit.bindings_importStatements hasSymbols.nodup_ids, ← List.map_congr_left faithful]
    exact (Emit.boundSymbols_perm oneDefault).map _
  · intro ref member
    obtain ⟨e, -, name, isRef, -⟩ := declared ref member
    rw [← faithful ref member, isRef]
    simp [Reference.imported]
  · intro ref member
    obtain ⟨e, isDeclared, name, rfl, -⟩ := declared ref member
    obtain ⟨source, registered, inSource⟩ := List.mem_flatMap.mp isDeclared
    have isSource : (Reference.toDeclaration e name).source = source.path := by
      simp [sound.sources source registered e inSource]
    refine ⟨source, registered, by simpa using inSource, fun other isRegistered => ?_⟩
    rw [isSource]
    exact ⟨List.inj_on_of_nodup_map sound.paths isRegistered registered, congrArg SourceFile.path⟩

end CommandSchema

/-- The module of a command of a file imports once, where no file has two default exports among the command's
symbols. Its import statements have texts exactly if no symbol comes from a source whose name is empty but for
the suffix. -/
theorem Emit.importsOnce_of_commandSchema {start final : Session} {file : SourceFile}
    {config : Config} {d : Declaration} {paired : Option PairedOptions} {schema : CommandSchema}
    (reachable : start.project.Reachable) (offers : start.project.Offers (some file) d paired)
    (ends : Step.Ends (Resolve.commandSchema (some file) config d paired) start (.ok schema) final)
    (oneDefault : DefaultsApart schema) (working : List String) (quote : QuoteMark)
    (path : String) :
    schema.ImportsOnce final.project d ∧
      ((∃ ref ∈ symbols schema, ref.source ∈ "" :: Path.sourceSuffixes) →
        imports working quote schema path = .error .emptyPath) ∧
      ((∀ ref ∈ symbols schema, ref.source ∉ "" :: Path.sourceSuffixes) →
        ∃ texts, imports working quote schema path = .ok texts ∧
          List.Forall₂ (fun statement text => statement.text working quote path = .ok text)
            (importStatements schema) texts) := by
  obtain ⟨reachableFinal, offersStill, hasSymbols, -⟩ :=
    Resolve.ends_commandSchema_of_reachable reachable offers ends
  refine ⟨hasSymbols.importsOnce reachableFinal.sound offersStill oneDefault,
    imports_eq_error working quote path, fun named => ?_⟩
  obtain ⟨texts, written⟩ := exists_imports working quote path named
  exact ⟨texts, written, mapM_eq_ok_iff.mp written⟩

/-- A project of two files, of which one declares a command, and the other the enums of its members: a default
export, and one that is exported under an alias. -/
@[irreducible] def sizeProject : Project :=
  .ofTexts [("size.ts", "enum Size{S}export default Size
enum Tone{Red}export{Tone as Hue}"),
    ("fit.ts", "import Size,{Hue}from'./size'
interface Options{hue?:Hue}
export default function fit(size:Size){}")]

theorem reachable_sizeProject : sizeProject.Reachable := by
  unfold sizeProject
  exact Project.reachable_ofTexts _

/-- The imports of a command with enums that are exported in two ways. -/
theorem Emit.importsOnce_of_commandSchema_size :
    ∃ file d paired schema final,
      sizeProject.Reachable ∧ sizeProject.Offers (some file) d paired ∧
      Step.Ends (Resolve.commandSchema (some file) .usual d paired) ⟨sizeProject, []⟩ (.ok schema)
        final ∧
      DefaultsApart schema ∧
      imports [] .single schema "out/fit.command.ts" =
        .ok ["import fit from '../fit'", "import Size, \x7b Hue as Tone \x7d from '../size'"] ∧
      schema.ImportsOnce final.project d := by
  obtain ⟨file, d, paired, schema, final, offers, ends, shape⟩ :=
    Resolve.exists_commandSchema sizeProject .usual "fit.ts" "fit"
      (fun schema => decide (DefaultsApart schema) &&
        (imports [] .single schema "out/fit.command.ts").toOption ==
          some ["import fit from '../fit'", "import Size, \x7b Hue as Tone \x7d from '../size'"])
      (by decide +kernel)
  rw [Bool.and_eq_true, decide_eq_true_eq, beq_iff_eq] at shape
  obtain ⟨oneDefault, written⟩ := shape
  have once := (@importsOnce_of_commandSchema ⟨sizeProject, []⟩ final file .usual d paired schema
    reachable_sizeProject offers ends oneDefault [] .single "out/fit.command.ts").1
  refine ⟨file, d, paired, schema, final, reachable_sizeProject, offers, ends, oneDefault, ?_, once⟩
  cases outcome : imports [] .single schema "out/fit.command.ts" with
  | error failure =>
      rw [outcome] at written
      contradiction
  | ok texts =>
      rw [outcome] at written
      exact congrArg Except.ok (Option.some.inj written)

/-- A project whose only file has no name before its suffix. -/
@[irreducible] def namelessProject : Project := .ofTexts [(".ts", "export function f(){}")]

/-- A command whose symbols are told apart, and which has no import statements all the same: no specifier leads to
its file. -/
theorem Emit.imports_eq_error_nameless :
    ∃ file d paired schema final,
      namelessProject.Reachable ∧ namelessProject.Offers (some file) d paired ∧
      Step.Ends (Resolve.commandSchema (some file) .usual d paired) ⟨namelessProject, []⟩
        (.ok schema) final ∧
      DefaultsApart schema ∧
      ∀ working quote path, imports working quote schema path = .error .emptyPath := by
  obtain ⟨file, d, paired, schema, final, offers, ends, shape⟩ :=
    Resolve.exists_commandSchema namelessProject .usual ".ts" "f"
      (fun schema => decide (DefaultsApart schema) &&
        (symbols schema).any (·.source ∈ "" :: Path.sourceSuffixes)) (by decide +kernel)
  rw [Bool.and_eq_true, decide_eq_true_eq, List.any_eq_true] at shape
  obtain ⟨oneDefault, ref, member, nameless⟩ := shape
  have reachable : namelessProject.Reachable := by
    unfold namelessProject
    exact Project.reachable_ofTexts _
  refine ⟨file, d, paired, schema, final, reachable, offers, ends, oneDefault, ?_⟩
  intro working quote path
  exact imports_eq_error working quote path ⟨ref, member, of_decide_eq_true nameless⟩

end DeclaredOptions
