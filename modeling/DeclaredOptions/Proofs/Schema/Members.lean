import DeclaredOptions.Proofs.Reference.Table
import DeclaredOptions.Proofs.Schema.Resolution
import DeclaredOptions.Schema.Assembly

/-!
Contract: what the schemas of members take over from the types of the members.

Owns:
- the paths of a schema, which are among those of the type's descriptor;
- members in a row: their schemas come from their types, resolved one after the other, and their
  references are added to one table.

Does not own: descriptions, other names, demands, and the order of names.
-/

set_option autoImplicit false

namespace DeclaredOptions

/-! ## Paths -/

/-- The parts of a literal that is a path. -/
def Literal.path? : Literal → Option (List String)
  | .path parts => some parts
  | _ => none

/-- The paths that stand among the choices of an option, or as its default. -/
def OptionSchema.paths (schema : OptionSchema) : List (List String) :=
  (schema.choices.getD [] ++ schema.default.toList).filterMap Literal.path?

/-- An option goes with a descriptor if the descriptor lists its paths. -/
def OptionSchema.GoesWith (schema : OptionSchema) (descriptor : Descriptor) : Prop :=
  ∀ parts ∈ schema.paths, parts ∈ descriptor.paths

theorem OptionSchema.checked_eq {schema accepted : OptionSchema}
    (passes : schema.checked = .ok accepted) : accepted = schema := by
  unfold checked at passes
  split at passes
  · contradiction
  · split at passes
    · contradiction
    · exact (Except.ok.inj passes).symm

theorem OptionSchema.choices_ofDescriptor (name : String) (descriptor : Descriptor) :
    ((ofDescriptor name descriptor).choices.getD []).filterMap Literal.path? =
      descriptor.paths := by
  cases descriptor with
  | choice members values => simp [ofDescriptor, Descriptor.paths, List.filterMap_map,
      Function.comp_def, Literal.path?]
  | _ => rfl

private theorem refuseDefault_ne (text reason : String) (literal : Literal) :
    Literal.refuseDefault text reason ≠ .ok literal := by
  simp [Literal.refuseDefault]

theorem Literal.eq_of_fitting {literal fitted : Literal} {descriptor : Descriptor} {text : String}
    (fits : literal.fitting descriptor text = .ok fitted) : fitted = literal := by
  unfold fitting at fits
  split at fits
  · split at fits
    · split at fits
      · exact (Except.ok.inj fits).symm
      · exact absurd fits (refuseDefault_ne _ _ _)
    · exact (Except.ok.inj fits).symm
    · exact (Except.ok.inj fits).symm
    · rename_i values _ _
      cases among : literal.isAmong values with
      | error failure =>
          rw [among] at fits
          contradiction
      | ok isAmong =>
          rw [among] at fits
          cases isAmong with
          | true => exact (Except.ok.inj fits).symm
          | false => exact absurd fits (refuseDefault_ne _ _ _)
  all_goals
    split at fits
    · exact (Except.ok.inj fits).symm
    · exact absurd fits (refuseDefault_ne _ _ _)

/-- A path that fits a descriptor is listed by it. -/
theorem Literal.path_of_fitting {parts : List String} {fitted : Literal} {descriptor : Descriptor}
    {text : String} (fits : (Literal.path parts).fitting descriptor text = .ok fitted) :
    parts ∈ descriptor.paths := by
  cases descriptor with
  | choice members values =>
      simp only [fitting] at fits
      split at fits
      · rename_i contained
        exact List.contains_iff_mem.mp contained
      · exact absurd fits (refuseDefault_ne _ _ _)
  | scalar s => cases s <;> exact absurd fits (refuseDefault_ne _ _ _)
  | list s => cases s <;> exact absurd fits (refuseDefault_ne _ _ _)

/-! ## Single members -/

/-- A parameter or property as resolution sees it: the file it is seen from, and its declared type. -/
structure DeclaredMember where
  scope : Option SourceFile
  context : MemberContext
  name : String
  type : Option TypeExpr

def DeclaredMember.ofParameter (file : Option SourceFile) (parameter : Parameter) : DeclaredMember :=
  ⟨file, .positional, parameter.name, parameter.type⟩

def DeclaredMember.ofProperty (file : Option SourceFile) (property : Property) : DeclaredMember :=
  ⟨file, .option, property.name, property.type⟩

def DeclaredMember.resolve (member : DeclaredMember) : Resolve (Descriptor × Option Reference) :=
  Resolve.typeOf member.scope member.context member.name member.type

namespace Resolve

variable {start final : Session} {schema : OptionSchema} {ref? : Option Reference}

/-- A step that gives an option for a member resolves the type of the member, and nothing after that
changes the session; the option goes with the descriptor. -/
def Describes (step : Resolve (OptionSchema × Option Reference)) (member : DeclaredMember) : Prop :=
  ∀ ⦃start schema ref? final⦄, Step.Ends step start (.ok (schema, ref?)) final →
    ∃ descriptor, Step.Ends member.resolve start (.ok (descriptor, ref?)) final ∧
      schema.GoesWith descriptor

theorem describes_positional (scope : MemberScope) (parameter : Parameter) :
    Describes (positional scope parameter) (.ofParameter scope.file parameter) := by
  intro start schema ref? final ends
  unfold positional at ends
  obtain ⟨⟨descriptor, found⟩, middle, typed, rest⟩ := Step.ends_bind_ok.mp ends
  dsimp only at rest
  obtain ⟨accepted, last, checks, ending⟩ := Step.ends_bind_ok.mp rest
  obtain ⟨passes, rfl⟩ := ends_ofExcept_ok.mp checks
  obtain ⟨same, rfl⟩ := Step.ends_pure.mp ending
  cases same
  refine ⟨descriptor, typed, ?_⟩
  rw [OptionSchema.checked_eq passes]
  intro parts occurs
  have noDefault : (OptionSchema.ofDescriptor parameter.name descriptor).default = none := by
    cases descriptor <;> rfl
  rw [← OptionSchema.choices_ofDescriptor parameter.name descriptor]
  simpa [OptionSchema.paths, noDefault] using occurs

private theorem ends_otherNameOf {block : Option DocBlock} {name : Option Literal}
    (ends : Step.Ends (otherNameOf block) start (.ok name) final) : final = start := by
  unfold otherNameOf at ends
  split at ends
  · exact (Step.ends_pure.mp ends).2
  · obtain ⟨literal, given, -⟩ := Step.ends_map_ok.mp ends
    exact (ends_ofTag_ok.mp given).2

private theorem ends_defaultOf {block : Option DocBlock} {descriptor : Descriptor}
    {default : Option Literal}
    (ends : Step.Ends (defaultOf block descriptor) start (.ok default) final) :
    final = start ∧ ∀ parts, default = some (.path parts) → parts ∈ descriptor.paths := by
  unfold defaultOf at ends
  split at ends
  · obtain ⟨same, rfl⟩ := Step.ends_pure.mp ends
    cases same
    exact ⟨rfl, fun _ impossible => nomatch impossible⟩
  · obtain ⟨literal, middle, read, rest⟩ := Step.ends_bind_ok.mp ends
    obtain ⟨-, rfl⟩ := ends_ofTag_ok.mp read
    obtain ⟨fitted, fitting, rfl⟩ := Step.ends_map_ok.mp rest
    obtain ⟨fits, rfl⟩ := ends_ofExcept_ok.mp fitting
    refine ⟨rfl, fun parts isPath => ?_⟩
    rw [Literal.eq_of_fitting fits] at isPath
    cases Option.some.inj isPath
    exact Literal.path_of_fitting fits

theorem describes_option (file : Option SourceFile) (demandTags : List Data) (property : Property) :
    Describes (option file demandTags property) (.ofProperty file property) := by
  intro start schema ref? final ends
  unfold option at ends
  obtain ⟨⟨descriptor, found⟩, middle, typed, afterType⟩ := Step.ends_bind_ok.mp ends
  obtain ⟨otherName, _, named, afterName⟩ := Step.ends_bind_ok.mp afterType
  obtain rfl := ends_otherNameOf named
  obtain ⟨default, _, defaulted, afterDefault⟩ := Step.ends_bind_ok.mp afterName
  obtain ⟨rfl, listed⟩ := ends_defaultOf defaulted
  obtain ⟨demanded, _, demands, afterDemand⟩ := Step.ends_bind_ok.mp afterDefault
  obtain ⟨-, rfl⟩ := ends_ofExcept_ok.mp demands
  obtain ⟨accepted, _, checks, ending⟩ := Step.ends_bind_ok.mp afterDemand
  obtain ⟨passes, rfl⟩ := ends_ofExcept_ok.mp checks
  obtain ⟨same, rfl⟩ := Step.ends_pure.mp ending
  cases same
  refine ⟨descriptor, typed, ?_⟩
  rw [OptionSchema.checked_eq passes]
  intro parts occurs
  unfold OptionSchema.paths at occurs
  rw [List.filterMap_append, List.mem_append] at occurs
  rcases occurs with chosen | defaultPath
  · rw [← OptionSchema.choices_ofDescriptor property.name descriptor]
    exact chosen
  · obtain ⟨literal, isDefault, isPath⟩ := List.mem_filterMap.mp defaultPath
    cases literal with
    | path own =>
        cases isPath
        exact listed parts (Option.mem_toList.mp isDefault)
    | _ => contradiction

/-! ## Members in a row -/

/-- The options of members come from their types, resolved one after the other, and a table gathers the
references of the types. -/
theorem ends_collect {α : Type} {one : α → Resolve (OptionSchema × Option Reference)}
    {toMember : α → DeclaredMember} (described : ∀ value, Describes (one value) (toMember value))
    {values : List α} {table result : ReferenceTable} {schemas : List OptionSchema}
    (ends : Step.Ends (collect one table values) start (.ok (schemas, result)) final) :
    ∃ types, Step.Ends ((values.map toMember).mapM DeclaredMember.resolve) start (.ok types) final ∧
      List.Forall₂ (fun schema type => schema.GoesWith type.1) schemas types ∧
      table.addAll (types.map (·.2)) = .ok result := by
  induction values generalizing start table schemas with
  | nil =>
      obtain ⟨same, rfl⟩ := Step.ends_pure.mp ends
      cases same
      exact ⟨[], Step.ends_pure.mpr ⟨rfl, rfl⟩, .nil, rfl⟩
  | cons value rest inductionHypothesis =>
      unfold collect at ends
      obtain ⟨⟨schema, ref?⟩, middle, first, afterFirst⟩ := Step.ends_bind_ok.mp ends
      obtain ⟨next, _, adds, afterAdd⟩ := Step.ends_bind_ok.mp afterFirst
      obtain ⟨added, rfl⟩ := ends_ofExcept_ok.mp adds
      obtain ⟨⟨more, last⟩, _, others, ending⟩ := Step.ends_bind_ok.mp afterAdd
      obtain ⟨same, rfl⟩ := Step.ends_pure.mp ending
      cases same
      obtain ⟨descriptor, typed, goesWith⟩ := described value first
      obtain ⟨types, typedRest, goWith, addedRest⟩ := inductionHypothesis others
      refine ⟨(descriptor, ref?) :: types, ?_, .cons goesWith goWith, ?_⟩
      · rw [List.map_cons, List.mapM_cons]
        refine Step.ends_bind_ok.mpr ⟨_, _, typed, Step.ends_bind_ok.mpr ⟨_, _, typedRest, ?_⟩⟩
        exact Step.ends_pure.mpr ⟨rfl, rfl⟩
      · unfold ReferenceTable.addAll at addedRest ⊢
        rw [List.map_cons, List.foldlM_cons, added]
        exact addedRest

end Resolve

end DeclaredOptions
