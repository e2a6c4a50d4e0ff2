import DeclaredOptions.Proofs.Schema.Members

/-!
Contract: the settings that make up an option, and the steps that never hand on any others.

Owns:
- what the check of an option asks for, and the settings of a descriptor, which meet it;
- failures of that check, and the steps of resolution and assembly, which never end with one.

Does not own: the other failures of these steps.

The check is made where a member's settings have been put together, and nowhere else. All other failures are of
kinds of their own, so that the steps are gone through only once, from a declared type to a command.
-/

set_option autoImplicit false

namespace DeclaredOptions

/-! ## Settings of an option -/

/-- Exactly one of type and choices is set, and the list mark only beside a type. -/
@[mk_iff] structure OptionSchema.WellTyped (schema : OptionSchema) : Prop where
  oneOf : schema.type.isSome ∧ schema.choices = none ∨ schema.type = none ∧ schema.choices.isSome
  array : schema.array.isSome → schema.type.isSome

namespace OptionSchema

variable {schema accepted : OptionSchema}

theorem checked_eq_ok_iff : schema.checked = .ok schema ↔ schema.WellTyped := by
  obtain ⟨name, type, array, choices, _, _, _, _, _⟩ := schema
  cases type <;> cases array <;> cases choices <;> simp [checked, wellTyped_iff]

theorem wellTyped_of_checked (passes : schema.checked = .ok accepted) : accepted.WellTyped := by
  have same := checked_eq passes
  rw [same] at passes ⊢
  exact checked_eq_ok_iff.mp passes

theorem wellTyped_ofDescriptor (name : String) (descriptor : Descriptor) :
    (ofDescriptor name descriptor).WellTyped := by
  cases descriptor with
  | scalar s => exact ⟨.inl ⟨rfl, rfl⟩, fun _ => rfl⟩
  | list s => exact ⟨.inl ⟨rfl, rfl⟩, fun _ => rfl⟩
  | choice members values => exact ⟨.inr ⟨rfl, rfl⟩, fun marked => nomatch marked⟩

/-- Only the type, the list mark and the choices of an option decide whether it is well typed. -/
theorem WellTyped.congr {other : OptionSchema} (wellTyped : other.WellTyped)
    (type : schema.type = other.type) (array : schema.array = other.array)
    (choices : schema.choices = other.choices) : schema.WellTyped := by
  rw [wellTyped_iff, type, array, choices]
  exact (wellTyped_iff other).mp wellTyped

end OptionSchema

/-! ## Refused settings -/

/-- Whether a failure is that of settings that make up no option. -/
def Failure.isOptionFault : Failure → Bool
  | .typeAndChoices _ => true
  | .listOfChoices _ => true
  | _ => false

/-- A step never fails for settings that make up no option. -/
abbrev Step.SparesOptions {σ α : Type} (step : Step σ α) : Prop :=
  Step.FailsOnly (fun failure => failure.isOptionFault = false) step

/-- A result is never refused for settings that make up no option. -/
def SparesOptions {α : Type} (result : Except Failure α) : Prop :=
  ∀ failure, result = .error failure → failure.isOptionFault = false

section

variable {α β : Type}

theorem sparesOptions_ok (value : α) : SparesOptions (.ok value : Except Failure α) :=
  fun _ impossible => nomatch impossible

theorem sparesOptions_error {failure : Failure} (other : failure.isOptionFault = false) :
    SparesOptions (.error failure : Except Failure α) := by
  rintro _ ⟨⟩
  exact other

theorem sparesOptions_bind {result : Except Failure α} {next : α → Except Failure β}
    (first : SparesOptions result) (second : ∀ value, SparesOptions (next value)) :
    SparesOptions (result >>= next) := by
  cases result with
  | ok value => exact second value
  | error failure => exact sparesOptions_error (first failure rfl)

theorem sparesOptions_mapM {f : α → Except Failure β} {values : List α}
    (each : ∀ value ∈ values, SparesOptions (f value)) : SparesOptions (values.mapM f) := by
  intro failure failed
  obtain ⟨value, member, fails⟩ := exists_of_mapM_eq_error failed
  exact each value member failure fails

end

/-! ### Members -/

theorem sparesOptions_shown (data : Data) : SparesOptions data.shown := by
  rw [Data.shown, Data.writable]
  split
  · exact sparesOptions_ok _
  · exact sparesOptions_error rfl

theorem Literal.sparesOptions_fitting (literal : Literal) (descriptor : Descriptor) (text : String) :
    SparesOptions (literal.fitting descriptor text) := by
  have refused (reason : String) : SparesOptions (refuseDefault text reason) :=
    sparesOptions_error rfl
  have data (literal : Literal) : SparesOptions literal.toData := by
    cases literal with
    | number source =>
        rw [toData, numberValue]
        cases Numeral.value source.toList with
        | ok number => exact sparesOptions_ok _
        | error fault => exact sparesOptions_error rfl
    | _ => exact sparesOptions_ok _
  unfold fitting
  split
  · split
    · split
      · exact sparesOptions_ok _
      · exact refused _
    · exact sparesOptions_ok _
    · exact sparesOptions_ok _
    · have among (values : List Literal) : SparesOptions (literal.isAmong values) := by
        refine sparesOptions_bind (sparesOptions_mapM fun other _ => data other) fun _ => ?_
        exact sparesOptions_bind (data literal) fun _ => sparesOptions_ok _
      refine sparesOptions_bind (among _) fun isAmong => ?_
      split
      · exact sparesOptions_ok _
      · exact refused _
  all_goals
    split
    · exact sparesOptions_ok _
    · exact refused _

namespace Resolve

open Step (failsOnly_pure failsOnly_throw failsOnly_bind failsOnly_get_bind failsOnly_set_bind
  failsOnly_ite failsOnly_map)

variable {α : Type}

theorem sparesOptions_ofExcept {result : Except Failure α} (spares : SparesOptions result) :
    Step.SparesOptions (ofExcept result) := by
  cases result with
  | ok value => exact failsOnly_pure
  | error failure => exact failsOnly_throw (spares failure rfl)

theorem sparesOptions_ofTag (result : Except TagRefusal α) : Step.SparesOptions (ofTag result) := by
  cases result with
  | ok value => exact failsOnly_pure
  | error refusal => exact failsOnly_throw rfl

theorem sparesOptions_typeOf (scope : Option SourceFile) (context : MemberContext) (member : String)
    (declared : Option TypeExpr) : Step.SparesOptions (typeOf scope context member declared) := by
  intro start failure final failed
  rcases typeOf_refused_cases failed with
    ofSource | (⟨refusal, rfl⟩ | ⟨fault, rfl⟩) | ⟨type, -, ⟨element, -, rfl⟩ | rfl⟩
  · cases failure with
    | typeAndChoices => contradiction
    | listOfChoices => contradiction
    | _ => rfl
  all_goals rfl

theorem sparesOptions_checked {schema : OptionSchema} (wellTyped : schema.WellTyped) :
    SparesOptions schema.checked := by
  rw [OptionSchema.checked_eq_ok_iff.mpr wellTyped]
  exact sparesOptions_ok _

theorem sparesOptions_positional (scope : MemberScope) (parameter : Parameter) :
    Step.SparesOptions (positional scope parameter) := by
  refine failsOnly_bind (sparesOptions_typeOf _ _ _ _) fun type => ?_
  refine failsOnly_bind (sparesOptions_ofExcept (sparesOptions_checked ?_)) fun _ => failsOnly_pure
  exact (OptionSchema.wellTyped_ofDescriptor parameter.name type.1).congr rfl rfl rfl

theorem sparesOptions_isDemanded (block : Option DocBlock) (tags : List Data) :
    SparesOptions (isDemanded block tags) := by
  induction tags with
  | nil => exact sparesOptions_ok _
  | cons tag rest inductionHypothesis =>
      refine sparesOptions_bind ?_ fun found => ?_
      · unfold tagsOfChecked
        split
        · exact sparesOptions_bind (sparesOptions_shown _) fun _ => sparesOptions_error rfl
        · exact sparesOptions_ok _
      · split
        · exact inductionHypothesis
        · exact sparesOptions_ok _

theorem sparesOptions_option (file : Option SourceFile) (demandTags : List Data)
    (property : Property) : Step.SparesOptions (option file demandTags property) := by
  refine failsOnly_bind (sparesOptions_typeOf _ _ _ _) fun type => ?_
  refine failsOnly_bind ?_ fun otherName => failsOnly_bind ?_ fun default => ?_
  · unfold otherNameOf
    split
    · exact failsOnly_pure
    · exact failsOnly_map (sparesOptions_ofTag _)
  · unfold defaultOf
    split
    · exact failsOnly_pure
    · refine failsOnly_bind (sparesOptions_ofTag _) fun literal => ?_
      exact failsOnly_map (sparesOptions_ofExcept (Literal.sparesOptions_fitting _ _ _))
  · refine failsOnly_bind (sparesOptions_ofExcept (sparesOptions_isDemanded _ _)) fun demanded => ?_
    refine failsOnly_bind (sparesOptions_ofExcept (sparesOptions_checked ?_)) fun _ => failsOnly_pure
    exact (OptionSchema.wellTyped_ofDescriptor property.name type.1).congr rfl rfl rfl

/-! ### Commands -/

theorem sparesOptions_add (table : ReferenceTable) (ref? : Option Reference) :
    SparesOptions (table.add ref?) := by
  unfold ReferenceTable.add
  split
  · exact sparesOptions_ok _
  · split
    · exact sparesOptions_error rfl
    · split
      · exact sparesOptions_ok _
      · exact sparesOptions_ok _

theorem sparesOptions_collect {one : α → Resolve (OptionSchema × Option Reference)}
    (each : ∀ value, Step.SparesOptions (one value)) (table : ReferenceTable) (values : List α) :
    Step.SparesOptions (collect one table values) := by
  induction values generalizing table with
  | nil => exact failsOnly_pure
  | cons value rest inductionHypothesis =>
      refine failsOnly_bind (each value) fun built => ?_
      refine failsOnly_bind (sparesOptions_ofExcept (sparesOptions_add table built.2)) fun table => ?_
      exact failsOnly_bind (inductionHypothesis table) fun _ => failsOnly_pure

theorem sparesOptions_pairedSchema (config : Config) (table : ReferenceTable)
    (paired : Option PairedOptions) : Step.SparesOptions (pairedSchema config table paired) := by
  have merges (other : ReferenceTable) : SparesOptions (table.merge other) := by
    unfold ReferenceTable.merge ReferenceTable.addAll
    generalize other.toList.map some = refs
    induction refs generalizing table with
    | nil => exact sparesOptions_ok _
    | cons ref? rest inductionHypothesis =>
        exact sparesOptions_bind (sparesOptions_add table ref?) fun next => inductionHypothesis next
  cases paired with
  | none => exact failsOnly_pure
  | some paired =>
      refine failsOnly_bind ?_ fun schema => ?_
      · exact failsOnly_bind (sparesOptions_collect (sparesOptions_option _ _) _ _) fun _ =>
          failsOnly_pure
      · exact failsOnly_bind (sparesOptions_ofExcept (merges _)) fun _ => failsOnly_pure

theorem sparesOptions_commandSchema (file : Option SourceFile) (config : Config) (d : Declaration)
    (paired : Option PairedOptions) :
    Step.SparesOptions (commandSchema file config d paired) := by
  have names (positionals options : List String) : SparesOptions (checkNames positionals options) := by
    unfold checkNames
    split
    · exact sparesOptions_ok _
    · exact sparesOptions_error rfl
  have symbols (table : ReferenceTable) :
      SparesOptions (checkSymbols (some (.toCommand d)) table) := by
    unfold checkSymbols
    split
    · exact sparesOptions_ok _
    · exact sparesOptions_error rfl
  refine failsOnly_bind (sparesOptions_collect (sparesOptions_positional _) _ _) fun own => ?_
  refine failsOnly_bind (sparesOptions_pairedSchema _ _ _) fun more => ?_
  refine failsOnly_bind (sparesOptions_ofExcept (names _ _)) fun _ => ?_
  exact failsOnly_bind (sparesOptions_ofExcept (symbols _)) fun _ => failsOnly_pure

end Resolve

end DeclaredOptions
