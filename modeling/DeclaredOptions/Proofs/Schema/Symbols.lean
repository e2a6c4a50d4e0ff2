import DeclaredOptions.Proofs.Schema.Assembly

/-!
Contract: the symbols that a command's schema mentions, and the table that holds them.

Owns:
- the commands of a project, and the project that resolution leads to;
- references of a schema, one for each enum that a member's type resolved to, of which none is the command;
- the names of symbols, each of which stands for one declaration;
- the paths of a schema, each of which begins with the name of one reference.

Does not own: how symbols are imported.
-/

set_option autoImplicit false

namespace DeclaredOptions

/-! ## Commands of a project -/

namespace Project

/-- Where a function may stand: in a file of the project, or outside of all files, where it has no source and
the number zero. -/
def Places (project : Project) (file : Option SourceFile) (d : Declaration) : Prop :=
  match file with
  | some file => file ∈ project.files ∧ d ∈ file.declarations
  | none => d.source = none ∧ d.id = 0

/-- A function that a command may be built from, with an options interface of the project or none. -/
structure Offers (project : Project) (file : Option SourceFile) (d : Declaration)
    (paired : Option PairedOptions) : Prop where
  isFunction : d.isFunction
  placed : project.Places file d
  pairedFile : ∀ options ∈ paired, ∀ source ∈ options.file, source ∈ project.files

variable {project next : Project} {file : Option SourceFile} {d : Declaration}
  {paired : Option PairedOptions}

theorem Offers.leads (offers : project.Offers file d paired) (leads : Leads project next) :
    next.Offers file d paired where
  isFunction := offers.isFunction
  placed := by
    have placed := offers.placed
    cases file with
    | none => exact placed
    | some file => exact ⟨(prefix_leads leads).subset placed.1, placed.2⟩
  pairedFile options isPaired source isSource :=
    (prefix_leads leads).subset (offers.pairedFile options isPaired source isSource)

/-- A function that a command may be built from shares its number with no enum. -/
theorem Offers.id_ne (sound : project.Sound) (offers : project.Offers file d paired)
    {e : Declaration} (declared : e ∈ project.declared) (isEnum : e.isEnum) : e.id ≠ d.id := by
  intro sameId
  have placed := offers.placed
  cases file with
  | none =>
      have zero : d.id = 0 := placed.2
      have positive := (sound.bounds e declared).1
      omega
  | some file =>
      have same := sound.eq_of_id declared (mem_declared placed.1 placed.2) sameId
      have noFunction := Declaration.isFunction_of_isEnum isEnum
      rw [same, offers.isFunction] at noFunction
      contradiction

end Project

/-! ## Symbols -/

/-- What the symbols of a command's schema have in common: each reference is to an enum of the project, no two
symbols are of one declaration, and no two have one name. -/
structure CommandSchema.HasSymbols (schema : CommandSchema) (project : Project) (d : Declaration) :
    Prop where
  command : schema.command = some (.toCommand d)
  enums : ∀ ref ∈ schema.references.toList, ∃ e ∈ project.declared, e.isEnum ∧ ref = .toEnum e
  ids : ((.toCommand d :: schema.references.toList).map (·.id)).Nodup
  names : ((.toCommand d :: schema.references.toList).map (·.name)).Nodup

namespace Resolve

variable {start final : Session} {file : Option SourceFile} {config : Config} {d : Declaration}
  {paired : Option PairedOptions}

/-- The members of a command that a project offers are seen from files of the project. -/
theorem scope_of_commandMembers {project : Project} (offers : project.Offers file d paired) :
    ∀ member ∈ commandMembers file d paired, ∀ source ∈ member.scope, source ∈ project.files := by
  unfold commandMembers
  rw [List.forall_mem_append, List.forall_mem_map]
  constructor
  · rintro parameter - source isSource
    cases isSource
    exact offers.placed.1
  · cases paired with
    | none => simp
    | some paired =>
        intro member isMember source isSource
        obtain ⟨property, -, rfl⟩ := List.mem_map.mp isMember
        exact offers.pairedFile paired rfl source isSource

/-- The types of a command's members come from the project, and resolving them leads it on. -/
theorem memberTypes_resolved {types : List (Descriptor × Option Reference)}
    (offers : start.project.Offers file d paired)
    (ends : Step.Ends (memberTypes file d paired) start (.ok types) final) :
    Leads start final ∧ ∀ type ∈ types, Resolved final.project type.1 type.2 := by
  have keeps : Step.Keeps Leads (fun session => ∀ member ∈ commandMembers file d paired,
      ∀ source ∈ member.scope, source ∈ session.project.files) (memberTypes file d paired)
      fun types session => ∀ type ∈ types, Resolved session.project type.1 type.2 :=
    Step.keeps_mapM leads_refl leads_trans
      (fun member _ => keeps_typeOf member.scope member.context member.name member.type)
      (fun member _ _ led all source isSource =>
        (Project.prefix_leads led).subset (all source isSource))
      (fun type _ _ led resolved => resolved.leads led)
  obtain ⟨led, resolved⟩ := keeps (scope_of_commandMembers offers) ends
  exact ⟨led, resolved types rfl⟩

/-- References of types are equal if their declarations have one number. -/
private theorem references_determined {project : Project} (sound : project.Sound)
    {types : List (Descriptor × Option Reference)}
    (resolved : ∀ type ∈ types, Resolved project type.1 type.2) :
    ∀ a b, some a ∈ types.map (·.2) → some b ∈ types.map (·.2) → a.id = b.id → a = b := by
  intro a b first second sameId
  obtain ⟨type, typeMember, isFirst⟩ := List.mem_map.mp first
  obtain ⟨other, otherMember, isSecond⟩ := List.mem_map.mp second
  obtain ⟨d, declared, -, rfl⟩ := (resolved type typeMember).reference_eq isFirst
  obtain ⟨e, declaredToo, -, rfl⟩ := (resolved other otherMember).reference_eq isSecond
  have sameNumber : d.id = e.id := by simpa [Reference.id, Reference.toEnum] using sameId
  rw [sound.eq_of_id declared declaredToo sameNumber]

/-- A command's schema, and the types of its members: the project is led on, the types come from it, the
options go with them, the table holds exactly their references, and the symbols are told apart. -/
theorem ends_commandSchema_of_reachable {schema : CommandSchema}
    (reachable : start.project.Reachable) (offers : start.project.Offers file d paired)
    (ends : Step.Ends (commandSchema file config d paired) start (.ok schema) final) :
    final.project.Reachable ∧ final.project.Offers file d paired ∧
      schema.HasSymbols final.project d ∧
      ∃ types, Step.Ends (memberTypes file d paired) start (.ok types) final ∧
        (∀ type ∈ types, Resolved final.project type.1 type.2) ∧
        List.Forall₂ (fun option type => option.GoesWith type.1)
          (schema.positionals ++ schema.options) types ∧
        ∀ ref, ref ∈ schema.references.toList ↔ some ref ∈ types.map (·.2) := by
  obtain ⟨types, typed, goWith, gathers, command, unambiguous⟩ := ends_commandSchema ends
  obtain ⟨led, resolved⟩ := memberTypes_resolved offers typed
  have sound := (reachable.leads led).sound
  have offersStill := offers.leads led
  have holds (ref : Reference) :
      ref ∈ schema.references.toList ↔ some ref ∈ types.map (·.2) :=
    gathers.mem_iff (references_determined sound resolved)
  have enums : ∀ ref ∈ schema.references.toList,
      ∃ e ∈ final.project.declared, e.isEnum ∧ ref = .toEnum e := by
    intro ref member
    obtain ⟨type, typeMember, isRef⟩ := List.mem_map.mp ((holds ref).mp member)
    exact (resolved type typeMember).reference_eq isRef
  have ids : ((.toCommand d :: schema.references.toList).map (·.id)).Nodup := by
    refine List.nodup_cons.mpr ⟨fun twice => ?_, (gathers.indexed ReferenceTable.indexed_empty).nodup⟩
    obtain ⟨ref, member, sameId⟩ := List.mem_map.mp twice
    obtain ⟨e, declared, isEnum, rfl⟩ := enums ref member
    refine offersStill.id_ne sound declared isEnum ?_
    simpa [Reference.id, Reference.toEnum, Reference.toCommand] using sameId
  have names : ((.toCommand d :: schema.references.toList).map (·.name)).Nodup := by
    refine List.Nodup.map_on ?_ ids.of_map
    intro a first b second sameName
    exact List.inj_on_of_nodup_map ids first second (unambiguous a first b second sameName)
  exact ⟨reachable.leads led, offersStill, ⟨command, enums, ids, names⟩,
    types, typed, resolved, goWith, holds⟩

end Resolve

/-! ## Paths -/

/-- Of symbols with different names, one alone has the name that a path begins with, if any has. -/
theorem filter_name_eq {refs : List Reference} (names : (refs.map (·.name)).Nodup) {ref : Reference}
    (member : ref ∈ refs) {parts : List String} (head : parts.head? = some ref.name) :
    refs.filter (fun other => parts.head? == some other.name) = [ref] := by
  induction refs with
  | nil => contradiction
  | cons first rest inductionHypothesis =>
      obtain ⟨absent, namesRest⟩ := List.nodup_cons.mp names
      rcases List.mem_cons.mp member with rfl | inRest
      · have noOther : rest.filter (fun other => parts.head? == some other.name) = [] := by
          rw [List.filter_eq_nil_iff]
          intro other otherMember isName
          rw [head, beq_iff_eq, Option.some.injEq] at isName
          exact absent (List.mem_map.mpr ⟨other, otherMember, isName.symm⟩)
        rw [List.filter_cons_of_pos (by simp [head]), noOther]
      · have different : ¬((parts.head? == some first.name) = true) := by
          intro isName
          rw [head, beq_iff_eq, Option.some.injEq] at isName
          exact absent (List.mem_map.mpr ⟨ref, inRest, isName⟩)
        rw [List.filter_cons, if_neg different]
        exact inductionHypothesis namesRest inRest

/-- Every path among the choices of a command's options and among their defaults begins with the name of
exactly one reference of the schema, which is to the enum that the type of the option's member resolved to.
The schema holds one reference for each enum that a member's type resolved to and no others, and none has the
name of the command. -/
theorem Resolve.paths_of_commandSchema {start final : Session} {file : Option SourceFile}
    {config : Config} {d : Declaration} {paired : Option PairedOptions} {schema : CommandSchema}
    (reachable : start.project.Reachable) (offers : start.project.Offers file d paired)
    (ends : Step.Ends (commandSchema file config d paired) start (.ok schema) final) :
    ∃ types, Step.Ends (memberTypes file d paired) start (.ok types) final ∧
      List.Forall₂
        (fun option type => ∀ parts ∈ option.paths,
          ∃ e ∈ final.project.declared, e.isEnum ∧ type.2 = some (.toEnum e) ∧
            schema.references.toList.filter (fun ref => parts.head? == some ref.name) =
              [.toEnum e])
        (schema.positionals ++ schema.options) types ∧
      (schema.references.toList.map (·.id)).Nodup ∧
      (∀ ref, ref ∈ schema.references.toList ↔ ∃ type ∈ types, type.2 = some ref) ∧
      schema.command = some (.toCommand d) ∧
      ∀ ref ∈ schema.references.toList, ref.name ≠ (Reference.toCommand d).name := by
  obtain ⟨reachableFinal, -, symbols, types, typed, resolved, goWith, holds⟩ :=
    ends_commandSchema_of_reachable reachable offers ends
  have names := List.nodup_cons.mp symbols.names
  have holdsType (ref : Reference) :
      ref ∈ schema.references.toList ↔ ∃ type ∈ types, type.2 = some ref := by
    rw [holds, List.mem_map]
  refine ⟨types, typed, ?_, (List.nodup_cons.mp symbols.ids).2, holdsType, symbols.command, ?_⟩
  · rw [List.forall₂_iff_get] at goWith ⊢
    refine ⟨goWith.1, fun index isOption isType parts occurs => ?_⟩
    have listed := goWith.2 index isOption isType parts occurs
    have typeMember := List.get_mem types ⟨index, isType⟩
    have fromProject := resolved _ typeMember
    obtain ⟨ref, isRef, head⟩ := fromProject.head_paths reachableFinal.sound parts listed
    obtain ⟨e, declared, isEnum, rfl⟩ := fromProject.reference_eq isRef
    refine ⟨e, declared, isEnum, isRef, filter_name_eq names.2 ?_ head⟩
    exact (holdsType _).mpr ⟨_, typeMember, isRef⟩
  · intro ref member sameName
    exact names.1 (List.mem_map.mpr ⟨ref, member, sameName⟩)

/-! ## A command at work -/

/-- The function of a name in the file at a path, with the options interface that goes with it. -/
def Project.command? (project : Project) (config : Config) (path name : String) :
    Option (SourceFile × Declaration × Option PairedOptions) := do
  let file ← project.registered? path
  let d ← file.functions.find? fun d => d.name == some name
  pure (file, d, (pairedOptions? (some file) d config).map (⟨some file, ·⟩))

theorem Project.offers_of_command? {project : Project} {config : Config} {path name : String}
    {file : SourceFile} {d : Declaration} {paired : Option PairedOptions}
    (found : project.command? config path name = some (file, d, paired)) :
    project.Offers (some file) d paired := by
  obtain ⟨_, isFile, rest⟩ := Option.bind_eq_some_iff.mp found
  obtain ⟨_, isFunction, same⟩ := Option.bind_eq_some_iff.mp rest
  cases same
  have registered := registered?_mem isFile
  have inFunctions := List.mem_of_find?_eq_some isFunction
  obtain ⟨declared, function⟩ := List.mem_filter.mp inFunctions
  refine ⟨function, ⟨registered, declared⟩, fun options isPaired source isSource => ?_⟩
  obtain ⟨_, -, rfl⟩ := Option.map_eq_some_iff.mp isPaired
  cases isSource
  exact registered

/-- A command whose schema passes a check is one that the project offers, and its schema ends well. -/
theorem Resolve.exists_commandSchema (project : Project) (config : Config) (path name : String)
    (check : CommandSchema → Bool)
    (passes : (project.command? config path name).any fun (file, d, paired) =>
      ((commandSchema (some file) config d paired).run.run ⟨project, []⟩).1.toOption.any check) :
    ∃ file d paired schema final, project.Offers (some file) d paired ∧
      Step.Ends (commandSchema (some file) config d paired) ⟨project, []⟩ (.ok schema) final ∧
      check schema := by
  obtain ⟨⟨file, d, paired⟩, found, builds⟩ := (Option.any_eq_true ..).mp passes
  obtain ⟨schema, final, ends, holds⟩ := Step.ends_of_check _ _ check builds
  exact ⟨file, d, paired, schema, final, Project.offers_of_command? found, ends, holds⟩

/-- A project of two files, of which one declares a command with an enum of the other as the type of both its
parameter and its option. -/
@[irreducible] def paintProject : Project :=
  .ofTexts [("hue.ts", "export enum Hue{Red,Blue}"),
    ("paint.ts", "import{Hue}from'./hue'
interface Options{/** @default Hue.Blue */trim?:Hue}
export function paint(hue:Hue){}")]

theorem reachable_paintProject : paintProject.Reachable := by
  unfold paintProject
  exact Project.reachable_ofTexts _

/-- The schema of a command whose parameter and option share an enum of another file. -/
theorem Resolve.paths_of_commandSchema_paint :
    ∃ file d paired schema final,
      paintProject.Reachable ∧ paintProject.Offers (some file) d paired ∧
      Step.Ends (commandSchema (some file) .usual d paired) ⟨paintProject, []⟩ (.ok schema) final ∧
      (schema.positionals ++ schema.options).map (·.paths) =
        [[["Hue", "Red"], ["Hue", "Blue"]], [["Hue", "Red"], ["Hue", "Blue"], ["Hue", "Blue"]]] ∧
      schema.references.toList.map (·.name) = ["Hue"] ∧
      ∀ ref ∈ schema.references.toList, ref.name ≠ (Reference.toCommand d).name := by
  obtain ⟨file, d, paired, schema, final, offers, ends, shape⟩ :=
    exists_commandSchema paintProject .usual "paint.ts" "paint"
      (fun schema => (schema.positionals ++ schema.options).map (·.paths) ==
          [[["Hue", "Red"], ["Hue", "Blue"]], [["Hue", "Red"], ["Hue", "Blue"], ["Hue", "Blue"]]] &&
        schema.references.toList.map (·.name) == ["Hue"]) (by decide +kernel)
  obtain ⟨-, -, -, -, -, -, names⟩ :=
    @paths_of_commandSchema ⟨paintProject, []⟩ final (some file) .usual d paired schema
      reachable_paintProject offers ends
  rw [Bool.and_eq_true, beq_iff_eq, beq_iff_eq] at shape
  exact ⟨file, d, paired, schema, final, reachable_paintProject, offers, ends, shape.1, shape.2, names⟩

end DeclaredOptions
