import DeclaredOptions.Proofs.Project.ImportedNames
import DeclaredOptions.Proofs.Schema.Symbols

/-!
Contract: declarations that are not exported are seen in their own file alone.

Owns:
- the warnings that steps of resolution add to a session, whether they fail or not;
- the members that a warning may come from;
- look-up across files, which brings in exported declarations only.

Does not own: the wording of warnings, and where they are shown.

A warning is left where a reference is made to an enum without an export. No import brings in such an enum, so that
the enum is one that the member's own file declares.
-/

set_option autoImplicit false

namespace DeclaredOptions

/-- A warning is about an enum that the type of a member names, and that the member's own file declares without an
export. -/
def DeclaredMember.NamesUnexported (member : DeclaredMember) (warning : UnexportedEnum) : Prop :=
  ∃ file ∈ member.scope, ∃ d ∈ file.declarations, ∃ name,
    member.type.map TypeExpr.withoutNullish = some (.ref name []) ∧ d.name = some name ∧ d.isEnum ∧
    d.exportKind = .none ∧ warning = ⟨name, d.source.getD ""⟩

/-- A declaration that a look-up finds without an export is declared in the file that looks. -/
theorem Project.own_of_unexported {start final : Project} {file : SourceFile} {name : String}
    {d : Declaration} (looked : Step.Ends (type? file name) start (.ok (some d)) final)
    (unexported : d.exportKind = .none) : file.type? name = some d := by
  cases own : file.type? name with
  | some e =>
      unfold type? at looked
      rw [own] at looked
      have same := (Step.ends_pure.mp looked).1
      exact (Except.ok.inj same).symm
  | none =>
      have through := ends_throughImports_of_type? own looked
      obtain ⟨clause, -, exported, target, -, -, found⟩ := throughImports_cases through
      exact absurd unexported (exported_of_importedPart? found).1

namespace Resolve

/-! ## Warnings that are added -/

/-- One session comes after another with more warnings, all of an allowed kind. -/
def Adds (allowed : UnexportedEnum → Prop) (start final : Session) : Prop :=
  ∃ added, final.warnings = start.warnings ++ added ∧ ∀ warning ∈ added, allowed warning

variable {allowed : UnexportedEnum → Prop}

theorem adds_of_same {start final : Session} (same : final.warnings = start.warnings) :
    Adds allowed start final := ⟨[], by simp [same], by simp⟩

theorem adds_refl (session : Session) : Adds allowed session session := adds_of_same rfl

theorem adds_trans ⦃a b c : Session⦄ (first : Adds allowed a b) (second : Adds allowed b c) :
    Adds allowed a c := by
  obtain ⟨added, grows, all⟩ := first
  obtain ⟨more, growsOn, allMore⟩ := second
  refine ⟨added ++ more, ?_, List.forall_mem_append.mpr ⟨all, allMore⟩⟩
  rw [growsOn, grows, List.append_assoc]

theorem Adds.mono {other : UnexportedEnum → Prop} {start final : Session}
    (adds : Adds allowed start final) (wider : ∀ warning, allowed warning → other warning) :
    Adds other start final := by
  obtain ⟨added, grows, all⟩ := adds
  exact ⟨added, grows, fun warning member => wider warning (all warning member)⟩

/-- Whether a step fails or not, it adds allowed warnings only. -/
def WarnsOnly {α : Type} (allowed : UnexportedEnum → Prop) (step : Resolve α) : Prop :=
  Step.Keeps (Adds allowed) (fun _ => True) step fun _ _ => True

section

variable {α β : Type}

theorem warnsOnly_pure {value : α} : WarnsOnly allowed (pure value : Resolve α) :=
  Step.keeps_pure adds_refl fun _ _ => trivial

theorem warnsOnly_throw {failure : Failure} : WarnsOnly allowed (throw failure : Resolve α) :=
  Step.keeps_throw adds_refl

theorem warnsOnly_bind {step : Resolve α} {next : α → Resolve β} (first : WarnsOnly allowed step)
    (second : ∀ value, WarnsOnly allowed (next value)) : WarnsOnly allowed (step >>= next) :=
  Step.keeps_bind adds_trans first second

theorem WarnsOnly.mono {step : Resolve α} {other : UnexportedEnum → Prop}
    (warns : WarnsOnly allowed step) (wider : ∀ warning, allowed warning → other warning) :
    WarnsOnly other step := by
  intro start outcome final starts ends
  obtain ⟨adds, holds⟩ := warns starts ends
  exact ⟨adds.mono wider, holds⟩

theorem warnsOnly_map {step : Resolve α} {f : α → β} (inner : WarnsOnly allowed step) :
    WarnsOnly allowed (f <$> step) := by
  rw [map_eq_pure_bind]
  exact warnsOnly_bind inner fun _ => warnsOnly_pure

theorem warnsOnly_ofTag (result : Except TagRefusal α) : WarnsOnly allowed (ofTag result) := by
  cases result with
  | ok value => exact warnsOnly_pure
  | error refusal => exact warnsOnly_throw

theorem warnsOnly_ofExcept (result : Except Failure α) : WarnsOnly allowed (ofExcept result) := by
  cases result with
  | ok value => exact warnsOnly_pure
  | error failure => exact warnsOnly_throw

end

/-! ## Members -/

/-- A reference to an enum leaves a warning at most, which is about this enum. -/
theorem warnsOnly_enumReference {d : Declaration}
    (isAllowed : d.exportKind = .none → allowed ⟨d.name.getD "", d.source.getD ""⟩) :
    WarnsOnly allowed (enumReference d) := by
  intro start outcome final _ ends
  obtain ⟨-, rfl⟩ := ends_enumReference.mp ends
  refine ⟨⟨_, rfl, ?_⟩, fun _ _ => trivial⟩
  intro warning member
  obtain ⟨unexported, isWarning⟩ := List.mem_ite_nil_right.mp member
  rw [List.mem_singleton.mp isWarning]
  exact isAllowed unexported

theorem warnsOnly_enumChoice {d : Declaration}
    (isAllowed : d.exportKind = .none → allowed ⟨d.name.getD "", d.source.getD ""⟩) :
    WarnsOnly allowed (enumChoice d) := by
  apply warnsOnly_bind (warnsOnly_ofTag _)
  intro members
  apply warnsOnly_bind (warnsOnly_ofExcept _)
  intro values
  apply warnsOnly_bind (warnsOnly_enumReference isAllowed)
  intro ref
  exact warnsOnly_pure

/-- The enum that a type names leaves no warning, and is one of the file that looks if it is not exported. -/
theorem keeps_enum?_own (scope : Option SourceFile) (type : TypeExpr) :
    Step.Keeps (Adds allowed) (fun _ => True) (enum? scope type) fun found _ =>
      ∀ d ∈ found, d.isEnum ∧ (d.exportKind = .none →
        ∃ file ∈ scope, ∃ name, type = .ref name [] ∧ file.type? name = some d) := by
  have nothing : Step.Keeps (Adds allowed) (fun _ => True) (pure none : Resolve _)
      fun (found : Option Declaration) _ => ∀ d ∈ found, d.isEnum ∧ (d.exportKind = .none →
        ∃ file ∈ scope, ∃ name, type = .ref name [] ∧ file.type? name = some d) := by
    apply Step.keeps_pure adds_refl
    simp
  unfold enum?
  split
  · rename_i file name
    split
    · exact nothing
    · intro start outcome final _ ends
      rcases Step.ends_bind.mp ends with ⟨failure, failed, rfl⟩ | ⟨found, middle, looked, rest⟩
      · exact ⟨adds_of_same (ends_onProject failed).2, fun _ impossible => nomatch impossible⟩
      · obtain ⟨looked, same⟩ := ends_onProject looked
        obtain ⟨rfl, rfl⟩ := Step.ends_pure.mp rest
        refine ⟨adds_of_same same, ?_⟩
        rintro _ ⟨⟩ d kept
        obtain ⟨member, isEnum⟩ := Option.mem_filter_iff.mp kept
        refine ⟨isEnum, fun unexported => ⟨file, rfl, name, rfl, ?_⟩⟩
        rw [Option.mem_def.mp member] at looked
        exact Project.own_of_unexported looked unexported
  · exact nothing

/-- The resolution of a member's type warns of nothing but enums of the member's own file. -/
theorem warnsOnly_resolve (member : DeclaredMember) :
    WarnsOnly member.NamesUnexported member.resolve := by
  unfold DeclaredMember.resolve typeOf
  split
  · exact warnsOnly_pure
  · rename_i type isType
    apply Step.keeps_ite
    · intro _
      exact warnsOnly_pure
    intro _
    split
    · exact warnsOnly_pure
    · split
      · exact warnsOnly_pure
      · exact warnsOnly_throw
    · apply Step.keeps_bind adds_trans (keeps_enum?_own member.scope type)
      intro found
      cases found with
      | none => exact Step.keeps_throw adds_refl
      | some d =>
          intro start outcome final isOwn ends
          have isAllowed (unexported : d.exportKind = .none) :
              member.NamesUnexported ⟨d.name.getD "", d.source.getD ""⟩ := by
            obtain ⟨file, inScope, name, rfl, own⟩ := (isOwn d rfl).2 unexported
            obtain ⟨declared, -, named⟩ := Project.ownType?_mem own
            rw [named]
            exact ⟨file, inScope, d, declared, name, isType, named, (isOwn d rfl).1, unexported, rfl⟩
          have ending (choice : Descriptor × Reference) :
              WarnsOnly member.NamesUnexported (pure (choice.1, some choice.2)) := warnsOnly_pure
          exact warnsOnly_bind (warnsOnly_enumChoice isAllowed) ending trivial ends

/-! ## Commands -/

theorem warnsOnly_positional {scope : MemberScope} {parameter : Parameter}
    (covers : ∀ warning, (DeclaredMember.ofParameter scope.file parameter).NamesUnexported warning →
      allowed warning) : WarnsOnly allowed (positional scope parameter) := by
  apply warnsOnly_bind ((warnsOnly_resolve (.ofParameter scope.file parameter)).mono covers)
  intro type
  apply warnsOnly_bind (warnsOnly_ofExcept _)
  intro schema
  exact warnsOnly_pure

theorem warnsOnly_option {file : Option SourceFile} {demandTags : List Data} {property : Property}
    (covers : ∀ warning, (DeclaredMember.ofProperty file property).NamesUnexported warning →
      allowed warning) : WarnsOnly allowed (option file demandTags property) := by
  have names : WarnsOnly allowed (otherNameOf property.doc) := by
    unfold otherNameOf
    split
    · exact warnsOnly_pure
    · exact warnsOnly_map (warnsOnly_ofTag _)
  have defaults (descriptor : Descriptor) : WarnsOnly allowed (defaultOf property.doc descriptor) := by
    unfold defaultOf
    split
    · exact warnsOnly_pure
    · exact warnsOnly_bind (warnsOnly_ofTag _) fun _ => warnsOnly_map (warnsOnly_ofExcept _)
  apply warnsOnly_bind ((warnsOnly_resolve (.ofProperty file property)).mono covers)
  intro type
  apply warnsOnly_bind names
  intro otherName
  apply warnsOnly_bind (defaults type.1)
  intro default
  apply warnsOnly_bind (warnsOnly_ofExcept _)
  intro demanded
  apply warnsOnly_bind (warnsOnly_ofExcept _)
  intro schema
  exact warnsOnly_pure

theorem warnsOnly_collect {α : Type} {one : α → Resolve (OptionSchema × Option Reference)}
    {values : List α} (each : ∀ value ∈ values, WarnsOnly allowed (one value))
    (table : ReferenceTable) : WarnsOnly allowed (collect one table values) := by
  induction values generalizing table with
  | nil => exact warnsOnly_pure
  | cons value rest inductionHypothesis =>
      rw [List.forall_mem_cons] at each
      apply warnsOnly_bind each.1
      intro built
      apply warnsOnly_bind (warnsOnly_ofExcept _)
      intro next
      apply warnsOnly_bind (inductionHypothesis each.2 next)
      intro more
      exact warnsOnly_pure

/-- Building a command warns of nothing but enums that one of its members names in the member's own file. -/
theorem warnsOnly_commandSchema (file : Option SourceFile) (config : Config) (d : Declaration)
    (paired : Option PairedOptions) :
    WarnsOnly (fun warning => ∃ member ∈ commandMembers file d paired, member.NamesUnexported warning)
      (commandSchema file config d paired) := by
  have own : ∀ parameter ∈ d.parameters,
      WarnsOnly (fun warning => ∃ member ∈ commandMembers file d paired,
        member.NamesUnexported warning) (positional ⟨file, some d⟩ parameter) := by
    intro parameter member
    apply warnsOnly_positional
    intro warning names
    refine ⟨_, List.mem_append_left _ (List.mem_map_of_mem member), names⟩
  have more (table : ReferenceTable) :
      WarnsOnly (fun warning => ∃ member ∈ commandMembers file d paired,
        member.NamesUnexported warning) (pairedSchema config table paired) := by
    cases paired with
    | none => exact warnsOnly_pure
    | some paired =>
        apply warnsOnly_bind
        · apply warnsOnly_bind (warnsOnly_collect _ _) fun _ => warnsOnly_pure
          intro property member
          apply warnsOnly_option
          intro warning names
          exact ⟨_, List.mem_append_right _ (List.mem_map_of_mem member), names⟩
        · intro schema
          exact warnsOnly_bind (warnsOnly_ofExcept _) fun _ => warnsOnly_pure
  apply warnsOnly_bind (warnsOnly_collect own _)
  intro positionals
  apply warnsOnly_bind (more _)
  intro options
  apply warnsOnly_bind (warnsOnly_ofExcept _)
  intro _
  apply warnsOnly_bind (warnsOnly_ofExcept _)
  intro _
  exact warnsOnly_pure

/-! ## Projects that arise -/

/-- A warning about an enum that the file of a member declares, under the path of this file. -/
def IsOwn (member : DeclaredMember) (warning : UnexportedEnum) : Prop :=
  member.NamesUnexported warning ∧ ∃ file ∈ member.scope, warning.path = file.path

theorem isOwn_of_namesUnexported {project : Project} (reachable : project.Reachable)
    {member : DeclaredMember} (registered : ∀ file ∈ member.scope, file ∈ project.files)
    {warning : UnexportedEnum} (names : member.NamesUnexported warning) : IsOwn member warning := by
  refine ⟨names, ?_⟩
  obtain ⟨file, inScope, d, declared, name, -, -, -, -, rfl⟩ := names
  have source := reachable.sound.sources file (registered file inScope) d declared
  exact ⟨file, inScope, by rw [source]; rfl⟩

/-- In a project that arises, a name means a declaration that another file exports, unless it means an enum or
interface that the file itself declares under it: an import of the file binds the name, its specifier leads to the
file of the declaration, and the declaration is exported. So the resolution of a member, and of all members of a
command, warns of nothing but enums that the file of the member that names them declares, whether it fails or
not. -/
theorem exported_unless_own {start : Session} (reachable : start.project.Reachable) :
    (∀ file name d next, Step.Ends (Project.type? file name) start.project (.ok (some d)) next →
      ¬(d ∈ file.declarations ∧ (d.isEnum ∨ d.isInterface) ∧ d.name = some name) →
      d.exportKind ≠ .none ∧
        ∃ clause ∈ file.imports, ∃ exported target, clause.binds? name = some exported ∧
          Step.Ends (Project.module? file.path clause.module) start.project (.ok (some target)) next ∧
          target ∈ next.files ∧ d ∈ target.declarations ∧ d.source = some target.path) ∧
    (∀ member outcome final, (∀ file ∈ member.scope, file ∈ start.project.files) →
      Step.Ends member.resolve start outcome final → Adds (IsOwn member) start final) ∧
    ∀ file config d paired outcome final, start.project.Offers file d paired →
      Step.Ends (commandSchema file config d paired) start outcome final →
      Adds (fun warning => ∃ member ∈ commandMembers file d paired, IsOwn member warning)
        start final := by
  refine ⟨?_, ?_, ?_⟩
  · intro file name d next looked notOwn
    have foreign : file.type? name = none := by
      cases own : file.type? name with
      | none => rfl
      | some e =>
          unfold Project.type? at looked
          rw [own] at looked
          cases (Step.ends_pure.mp looked).1
          exact absurd (Project.ownType?_mem own) notOwn
    have through := Project.ends_throughImports_of_type? foreign looked
    obtain ⟨clause, member, exported, target, binds, leads, found⟩ :=
      Project.throughImports_cases through
    obtain ⟨registered, sources⟩ := Project.target_of_module? reachable leads
    have declared := Project.importedPart?_mem found
    exact ⟨(Project.exported_of_importedPart? found).1, clause, member, exported, target, binds, leads,
      registered, declared, sources d declared⟩
  · intro member outcome final registered ends
    apply (warnsOnly_resolve member trivial ends).1.mono
    intro warning names
    exact isOwn_of_namesUnexported reachable registered names
  · intro file config d paired outcome final offers ends
    apply (warnsOnly_commandSchema file config d paired trivial ends).1.mono
    rintro warning ⟨member, isMember, names⟩
    have registered := scope_of_commandMembers offers member isMember
    exact ⟨member, isMember, isOwn_of_namesUnexported reachable registered names⟩

/-- A project of two files: one uses an enum of the other under a name of its own, and an enum that it declares
itself and does not export. -/
@[irreducible] def shadeProject : Project :=
  .ofTexts [("hue.ts", "export enum Hue{Red}"),
    ("shade.ts", "import{Hue as Shade}from'./hue'
enum Tone{Low}
export function tune(shade:Shade,tone:Tone){}")]

theorem reachable_shadeProject : shadeProject.Reachable := by
  unfold shadeProject
  exact Project.reachable_ofTexts _

/-- The command of the second file warns of an enum of this file, and the name it has for the other enum means
an exported one of the first file. -/
theorem exported_unless_own_shade :
    shadeProject.Reachable ∧ ∃ file d paired outcome final,
      shadeProject.Offers (some file) d paired ∧
      Step.Ends (commandSchema (some file) .usual d paired) ⟨shadeProject, []⟩ outcome final ∧
      final.warnings = [⟨"Tone", "shade.ts"⟩] ∧
      (∃ member ∈ commandMembers (some file) d paired, IsOwn member ⟨"Tone", "shade.ts"⟩) ∧
      ∃ e next, Step.Ends (Project.type? file "Shade") shadeProject (.ok (some e)) next ∧
        e.name = some "Hue" ∧ e.exportKind ≠ .none := by
  have runs : (shadeProject.command? .usual "shade.ts" "tune").any fun command =>
      ((commandSchema (some command.1) .usual command.2.1 command.2.2).run.run ⟨shadeProject, []⟩).2.warnings ==
          [⟨"Tone", "shade.ts"⟩] &&
        ((Project.type? command.1 "Shade").run.run shadeProject).1.toOption.any fun found =>
          found.any fun e => e.name == some "Hue" := by
    decide +kernel
  obtain ⟨⟨file, d, paired⟩, isCommand, holds⟩ := (Option.any_eq_true ..).mp runs
  obtain ⟨warned, looksUp⟩ := (Bool.and_eq_true ..).mp holds
  have offers := Project.offers_of_command? isCommand
  obtain ⟨outcome, final, ends⟩ :=
    Step.ends_exists (commandSchema (some file) .usual d paired) ⟨shadeProject, []⟩
  have ran : (commandSchema (some file) .usual d paired).run.run ⟨shadeProject, []⟩ =
    (outcome, final) := ends
  rw [ran, beq_iff_eq] at warned
  obtain ⟨found, next, looked, isHue⟩ := Step.ends_of_check _ _ _ looksUp
  obtain ⟨e, rfl, named⟩ := (Option.any_eq_true ..).mp isHue
  rw [beq_iff_eq] at named
  obtain ⟨lookUp, -, command⟩ :=
    @exported_unless_own ⟨shadeProject, []⟩ reachable_shadeProject
  obtain ⟨added, grows, own⟩ := command (some file) .usual d paired outcome final offers ends
  refine ⟨reachable_shadeProject, file, d, paired, outcome, final, offers, ends, warned, ?_, e, next,
    looked, named, ?_⟩
  · apply own
    rw [← List.nil_append added, ← grows, warned]
    exact List.mem_singleton_self _
  · apply (lookUp file "Shade" e next looked ?_).1
    intro isOwn
    rw [named] at isOwn
    exact absurd isOwn.2.2 (by decide)

end Resolve

end DeclaredOptions
