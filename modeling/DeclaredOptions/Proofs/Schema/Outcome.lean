import DeclaredOptions.Proofs.Emit.Names
import DeclaredOptions.Proofs.Reference.Grouping
import DeclaredOptions.Proofs.Schema.Settings

/-!
Contract: how the assembly of a command ends, once its members are built.

Owns:
- the members of a command, each built by a run of its own, and the options they come to;
- the two refusals that are left then: shared names, and after them ambiguous symbols.

Does not own: which members can be built.

Assembly takes turns at building a member and adding its reference to a table. Neither disturbs the other: a table
that is not frozen takes every reference, and the session knows nothing of the table. So assembly goes as far as
building alone does, and from there on names and symbols decide.
-/

set_option autoImplicit false

namespace DeclaredOptions

/-! ## Members -/

/-- The properties of an interface that goes with a function, if one does. -/
def propertiesOf (paired : Option PairedOptions) : List Property :=
  (paired.map (·.interface.properties)).getD []

/-- The names of parameters that properties have too, in the order of the parameters. -/
def sharedMemberNames (d : Declaration) (paired : Option PairedOptions) : List String :=
  (d.parameters.map (·.name)).filter (· ∈ (propertiesOf paired).map (·.name))

/-- The option of a parameter: it is demanded unless the signature lets the parameter be left out. -/
structure OptionSchema.Positional (schema : OptionSchema) (parameter : Parameter) : Prop where
  name : schema.name = parameter.name
  wellTyped : schema.WellTyped
  demanded : schema.demand.isSome ↔
    parameter.optional = false ∧ parameter.rest = false ∧ parameter.initializer = none

/-- The option of a property. -/
structure OptionSchema.Named (schema : OptionSchema) (property : Property) : Prop where
  name : schema.name = property.name
  wellTyped : schema.WellTyped

namespace Resolve

variable {start final : Session} {schema : OptionSchema} {ref? : Option Reference}

theorem positional_of_ends {scope : MemberScope} {parameter : Parameter}
    (ends : Step.Ends (positional scope parameter) start (.ok (schema, ref?)) final) :
    schema.Positional parameter := by
  have named := name_of_ends_positional ends
  unfold positional at ends
  obtain ⟨⟨descriptor, found⟩, middle, -, rest⟩ := Step.ends_bind_ok.mp ends
  dsimp only at rest
  obtain ⟨accepted, last, checks, ending⟩ := Step.ends_bind_ok.mp rest
  cases (Step.ends_pure.mp ending).1
  have passes := (ends_ofExcept_ok.mp checks).1
  refine ⟨named, OptionSchema.wellTyped_of_checked passes, ?_⟩
  have isOptional : parameter.isOptional = false ↔
      parameter.optional = false ∧ parameter.rest = false ∧ parameter.initializer = none := by
    simp [Parameter.isOptional, and_assoc]
  rw [OptionSchema.checked_eq passes, ← isOptional]
  cases parameter.isOptional <;> simp

theorem named_of_ends {file : Option SourceFile} {demandTags : List Data} {property : Property}
    (ends : Step.Ends (option file demandTags property) start (.ok (schema, ref?)) final) :
    schema.Named property := by
  unfold option at ends
  obtain ⟨⟨descriptor, found⟩, _, -, afterType⟩ := Step.ends_bind_ok.mp ends
  dsimp only at afterType
  obtain ⟨otherName, _, -, afterName⟩ := Step.ends_bind_ok.mp afterType
  obtain ⟨default, _, -, afterDefault⟩ := Step.ends_bind_ok.mp afterName
  obtain ⟨demanded, _, -, afterDemand⟩ := Step.ends_bind_ok.mp afterDefault
  obtain ⟨accepted, _, checks, ending⟩ := Step.ends_bind_ok.mp afterDemand
  cases (Step.ends_pure.mp ending).1
  have passes := (ends_ofExcept_ok.mp checks).1
  refine ⟨?_, OptionSchema.wellTyped_of_checked passes⟩
  rw [OptionSchema.checked_eq passes]
  cases descriptor <;> rfl

/-- The options of a command's parameters and then of its properties, each with its reference. -/
def memberSchemas (file : Option SourceFile) (config : Config) (d : Declaration)
    (paired : Option PairedOptions) :
    Resolve (List (OptionSchema × Option Reference) × List (OptionSchema × Option Reference)) := do
  let own ← d.parameters.mapM (positional ⟨file, some d⟩)
  let more ← (propertiesOf paired).mapM
    (option (paired.bind (·.file)) config.resolve.demandTags)
  pure (own, more)

/-- Options are collected as they are built, whatever an open table held before. -/
theorem exists_collect {α : Type} {one : α → Resolve (OptionSchema × Option Reference)}
    {values : List α} {built : List (OptionSchema × Option Reference)} {table : ReferenceTable}
    {offered : List Reference} (collects : table.Collects offered) (isOpen : table.frozen = false)
    (ends : Step.Ends (values.mapM one) start (.ok built) final) :
    ∃ result, Step.Ends (collect one table values) start (.ok (built.map (·.1), result)) final ∧
      table.addAll (built.map (·.2)) = .ok result ∧ result.frozen = false ∧
      result.Collects (offered ++ built.filterMap (·.2)) := by
  induction values generalizing start final built table offered with
  | nil =>
      obtain ⟨same, rfl⟩ := Step.ends_pure.mp ends
      cases same
      exact ⟨table, Step.ends_pure.mpr ⟨rfl, rfl⟩, rfl, isOpen, by simpa using collects⟩
  | cons value rest inductionHypothesis =>
      rw [List.mapM_cons] at ends
      obtain ⟨⟨schema, ref?⟩, middle, first, others⟩ := Step.ends_bind_ok.mp ends
      obtain ⟨more, last, later, ending⟩ := Step.ends_bind_ok.mp others
      obtain ⟨same, rfl⟩ := Step.ends_pure.mp ending
      cases same
      obtain ⟨next, added, nextOpen, nextCollects⟩ := collects.add isOpen ref?
      obtain ⟨result, collected, addedRest, resultOpen, resultCollects⟩ :=
        inductionHypothesis nextCollects nextOpen later
      refine ⟨result, ?_, ?_, resultOpen, ?_⟩
      · unfold collect
        refine Step.ends_bind_ok.mpr ⟨_, _, first, ?_⟩
        refine Step.ends_bind_ok.mpr ⟨_, _, ends_ofExcept_ok.mpr ⟨added, rfl⟩, ?_⟩
        refine Step.ends_bind_ok.mpr ⟨_, _, collected, ?_⟩
        exact Step.ends_pure.mpr ⟨rfl, rfl⟩
      · unfold ReferenceTable.addAll at addedRest ⊢
        rw [List.map_cons, List.foldlM_cons, added]
        exact addedRest
      · cases ref? with
        | none => simpa using resultCollects
        | some ref => simpa using resultCollects

theorem exists_pairedSchema {config : Config} {paired : Option PairedOptions}
    {more : List (OptionSchema × Option Reference)} {table : ReferenceTable}
    {offered : List Reference} (collects : table.Collects offered) (isOpen : table.frozen = false)
    (ends : Step.Ends ((propertiesOf paired).mapM
      (option (paired.bind (·.file)) config.resolve.demandTags)) start (.ok more) final) :
    ∃ result, Step.Ends (pairedSchema config table paired) start
        (.ok (more.map (·.1), result)) final ∧
      ReferenceTable.Gathers table (more.map (·.2)) result := by
  cases paired with
  | none =>
      obtain ⟨same, rfl⟩ := Step.ends_pure.mp ends
      cases same
      exact ⟨table, Step.ends_pure.mpr ⟨rfl, rfl⟩, ReferenceTable.gathers_addAll rfl⟩
  | some paired =>
      obtain ⟨own, collected, added, -, -⟩ := exists_collect ReferenceTable.collects_empty rfl ends
      obtain ⟨result, merged, -, -⟩ := collects.merge isOpen own.freeze
      refine ⟨result, ?_, ?_⟩
      · have builds : Step.Ends (optionsSchema paired.file config paired.interface) start
            (.ok ⟨paired.interface.name.getD "", more.map (·.1), own.freeze⟩) final :=
          Step.ends_bind_ok.mpr ⟨_, _, collected, Step.ends_pure.mpr ⟨rfl, rfl⟩⟩
        refine Step.ends_bind_ok.mpr ⟨_, _, builds, ?_⟩
        refine Step.ends_bind_ok.mpr ⟨_, _, ends_ofExcept_ok.mpr ⟨merged, rfl⟩, ?_⟩
        exact Step.ends_pure.mpr ⟨rfl, rfl⟩
      · have gathers := ReferenceTable.gathers_addAll added
        exact ReferenceTable.gathers_merge gathers.freeze merged

/-! ## Assembly -/

variable {file : Option SourceFile} {config : Config} {d : Declaration}
  {paired : Option PairedOptions} {own more : List (OptionSchema × Option Reference)}

/-- Where the members can be built, the two checks alone decide how the assembly ends. -/
theorem exists_assembly
    (ends : Step.Ends (memberSchemas file config d paired) start (.ok (own, more)) final) :
    ∃ table, ReferenceTable.Gathers .empty ((own ++ more).map (·.2)) table ∧
      Step.Ends (commandSchema file config d paired) start (do
        checkNames ((own.map (·.1)).map (·.name)) ((more.map (·.1)).map (·.name))
        checkSymbols (some (.toCommand d)) table
        pure ⟨d.displayName, commandDescription d, own.map (·.1), more.map (·.1), table.freeze,
          some (.toCommand d)⟩) final := by
  obtain ⟨ownBuilt, middle, ownEnds, rest⟩ := Step.ends_bind_ok.mp ends
  obtain ⟨moreBuilt, last, moreEnds, ending⟩ := Step.ends_bind_ok.mp rest
  obtain ⟨same, rfl⟩ := Step.ends_pure.mp ending
  cases same
  obtain ⟨first, collected, added, isOpen, collects⟩ :=
    exists_collect ReferenceTable.collects_empty rfl ownEnds
  obtain ⟨table, pairs, gathersMore⟩ := exists_pairedSchema collects isOpen moreEnds
  refine ⟨table, ?_, ?_⟩
  · rw [List.map_append]
    exact (ReferenceTable.gathers_addAll added).trans gathersMore
  · refine Step.ends_bind.mpr (.inr ⟨_, _, collected, ?_⟩)
    refine Step.ends_bind.mpr (.inr ⟨_, _, pairs, ?_⟩)
    dsimp only
    -- The checks look at no session, so that they end where building has.
    cases checkNames ((own.map (·.1)).map (·.name)) ((more.map (·.1)).map (·.name)) with
    | error failure => exact Step.ends_throw.mpr ⟨rfl, rfl⟩
    | ok _ =>
        cases checkSymbols (some (.toCommand d)) table with
        | error failure => exact Step.ends_throw.mpr ⟨rfl, rfl⟩
        | ok _ => exact Step.ends_pure.mpr ⟨rfl, rfl⟩

/-- What building the members gives: an option for each parameter and for each property, in order. -/
theorem forall₂_of_ends_memberSchemas
    (ends : Step.Ends (memberSchemas file config d paired) start (.ok (own, more)) final) :
    List.Forall₂ (fun parameter schema => schema.Positional parameter) d.parameters
        (own.map (·.1)) ∧
      List.Forall₂ (fun property schema => schema.Named property) (propertiesOf paired)
        (more.map (·.1)) := by
  obtain ⟨ownBuilt, middle, ownEnds, rest⟩ := Step.ends_bind_ok.mp ends
  obtain ⟨moreBuilt, last, moreEnds, ending⟩ := Step.ends_bind_ok.mp rest
  cases (Step.ends_pure.mp ending).1
  rw [List.forall₂_map_right_iff, List.forall₂_map_right_iff]
  constructor
  · refine (Step.forall₂_of_ends_mapM ownEnds).imp ?_
    rintro parameter ⟨schema, ref?⟩ ⟨before, after, built⟩
    exact positional_of_ends built
  · refine (Step.forall₂_of_ends_mapM moreEnds).imp ?_
    rintro property ⟨schema, ref?⟩ ⟨before, after, built⟩
    exact named_of_ends built

private theorem checkSymbols_cases (command : Option Reference) (table : ReferenceTable) :
    checkSymbols command table = .ok () ∨ ∃ name first second,
      checkSymbols command table = .error (.conflict (.ambiguous name first second)) := by
  unfold checkSymbols
  split
  · exact .inl rfl
  · exact .inr ⟨_, _, _, rfl⟩

/-- Assembly never fails for settings that make up no option. Where all members of a command can be built, it fails
for shared names exactly if some parameters are named as properties are, and then names these, in order.
Otherwise it either fails for the symbols or gives a schema with one option for each parameter and one for each
property, in order. -/
theorem commandSchema_of_members (file : Option SourceFile) (config : Config) (d : Declaration)
    (paired : Option PairedOptions) :
    (∀ start failure final,
      Step.Ends (commandSchema file config d paired) start (.error failure) final →
        failure.isOptionFault = false) ∧
    ∀ start own more final,
      Step.Ends (memberSchemas file config d paired) start (.ok (own, more)) final →
      ∃ outcome, Step.Ends (commandSchema file config d paired) start outcome final ∧
        (∀ names, outcome = .error (.conflict (.shared names)) ↔
          names = sharedMemberNames d paired ∧ names ≠ []) ∧
        (sharedMemberNames d paired = [] → ∃ table,
          ReferenceTable.Gathers .empty ((own ++ more).map (·.2)) table ∧
          ((∃ name first second, outcome = .error (.conflict (.ambiguous name first second)) ∧
              checkSymbols (some (.toCommand d)) table =
                .error (.conflict (.ambiguous name first second))) ∨
            ∃ schema, outcome = .ok schema ∧
              checkSymbols (some (.toCommand d)) table = .ok () ∧
              List.Forall₂ (fun parameter option => option.Positional parameter) d.parameters
                schema.positionals ∧
              List.Forall₂ (fun property option => option.Named property) (propertiesOf paired)
                schema.options)) := by
  refine ⟨fun start failure final ends => sparesOptions_commandSchema _ _ _ _ ends, ?_⟩
  intro start own more final ends
  obtain ⟨table, gathers, assembly⟩ := exists_assembly ends
  obtain ⟨positionals, options⟩ := forall₂_of_ends_memberSchemas ends
  refine ⟨_, assembly, ?_⟩
  have ownNames : (own.map (·.1)).map (·.name) = d.parameters.map (·.name) :=
    map_eq_map_of_forall₂ (positionals.imp fun _ _ positional => positional.name)
  have moreNames : (more.map (·.1)).map (·.name) = (propertiesOf paired).map (·.name) :=
    map_eq_map_of_forall₂ (options.imp fun _ _ named => named.name)
  have shared : sharedNames (d.parameters.map (·.name)) ((propertiesOf paired).map (·.name)) =
      sharedMemberNames d paired := by
    unfold sharedNames sharedMemberNames
    exact List.filter_congr fun name _ => List.elem_eq_mem name _
  rw [ownNames, moreNames, checkNames, shared]
  cases names : sharedMemberNames d paired with
  | cons name rest =>
      refine ⟨fun others => ?_, fun noneShared => nomatch noneShared⟩
      constructor
      · rintro ⟨⟩
        exact ⟨rfl, List.cons_ne_nil name rest⟩
      · rintro ⟨rfl, -⟩
        rfl
  | nil =>
      rcases checkSymbols_cases (some (.toCommand d)) table with passes | ⟨name, first, second, fails⟩
      · rw [passes]
        refine ⟨fun others => ?_, fun _ => ⟨table, gathers, .inr ⟨_, rfl, passes, positionals, options⟩⟩⟩
        exact iff_of_false nofun fun both => both.2 both.1
      · rw [fails]
        refine ⟨fun others => ?_, fun _ => ⟨table, gathers, .inl ⟨name, first, second, rfl, fails⟩⟩⟩
        exact iff_of_false nofun fun both => both.2 both.1

/-- A project of two commands, of which one has a parameter that is named as an option is. -/
@[irreducible] def toneProject : Project :=
  .ofTexts [("tone.ts", "enum Key{Low,High}
interface Options{key?:Key}
interface NoteOptions{pitch:string}
export function tone(pitch:number,loud?:boolean,...notes:string[]){}
export function note(length=1,pitch:Key){}")]

private theorem ends_of_isOk {α : Type} {step : Resolve α} (isOk : (step.run.run start).1.isOk) :
    ∃ value final, Step.Ends step start (.ok value) final := by
  obtain ⟨outcome, final, ends⟩ := Step.ends_exists step start
  have ran : step.run.run start = (outcome, final) := ends
  rw [ran] at isOk
  cases outcome with
  | ok value => exact ⟨value, final, ends⟩
  | error failure => contradiction

/-- The members of both commands can be built. One command ends with a schema, the other with the shared name. -/
theorem commandSchema_of_members_tone :
    (∃ file d paired schema final,
      toneProject.command? .usual "tone.ts" "tone" = some (file, d, paired) ∧
      Step.Ends (commandSchema (some file) .usual d paired) ⟨toneProject, []⟩ (.ok schema) final ∧
      List.Forall₂ (fun parameter option => option.Positional parameter) d.parameters
        schema.positionals) ∧
    ∃ file d paired final,
      toneProject.command? .usual "tone.ts" "note" = some (file, d, paired) ∧
      Step.Ends (commandSchema (some file) .usual d paired) ⟨toneProject, []⟩
        (.error (.conflict (.shared ["pitch"]))) final := by
  have builds :
      ((toneProject.command? .usual "tone.ts" "tone").any fun command =>
        ((memberSchemas (some command.1) .usual command.2.1 command.2.2).run.run ⟨toneProject, []⟩).1.isOk &&
          ((commandSchema (some command.1) .usual command.2.1 command.2.2).run.run ⟨toneProject, []⟩).1.isOk &&
          sharedMemberNames command.2.1 command.2.2 == []) &&
      (toneProject.command? .usual "tone.ts" "note").any fun command =>
        ((memberSchemas (some command.1) .usual command.2.1 command.2.2).run.run ⟨toneProject, []⟩).1.isOk &&
          sharedMemberNames command.2.1 command.2.2 == ["pitch"] := by decide +kernel
  obtain ⟨toneBuilds, noteBuilds⟩ := Bool.and_eq_true .. ▸ builds
  constructor
  · obtain ⟨⟨file, d, paired⟩, found, passes⟩ := (Option.any_eq_true ..).mp toneBuilds
    rw [Bool.and_eq_true, Bool.and_eq_true, beq_iff_eq] at passes
    obtain ⟨⟨membersBuilt, succeeds⟩, noneShared⟩ := passes
    obtain ⟨⟨own, more⟩, final, ends⟩ := ends_of_isOk membersBuilt
    obtain ⟨given, last, gives⟩ := ends_of_isOk succeeds
    obtain ⟨outcome, assembled, -, rest⟩ :=
      (commandSchema_of_members (some file) .usual d paired).2 _ own more final ends
    obtain ⟨rfl, rfl⟩ := Prod.mk.inj (assembled.symm.trans gives)
    obtain ⟨table, -, ⟨_, _, _, fails, -⟩ | ⟨schema, same, -, positionals, -⟩⟩ := rest noneShared
    · contradiction
    · exact ⟨file, d, paired, schema, final, found, same ▸ gives, positionals⟩
  · obtain ⟨⟨file, d, paired⟩, found, passes⟩ := (Option.any_eq_true ..).mp noteBuilds
    rw [Bool.and_eq_true, beq_iff_eq] at passes
    obtain ⟨membersBuilt, isShared⟩ := passes
    obtain ⟨⟨own, more⟩, final, ends⟩ := ends_of_isOk membersBuilt
    obtain ⟨outcome, assembled, conflict, -⟩ :=
      (commandSchema_of_members (some file) .usual d paired).2 _ own more final ends
    rw [(conflict ["pitch"]).mpr ⟨isShared.symm, List.cons_ne_nil _ _⟩] at assembled
    exact ⟨file, d, paired, final, found, assembled⟩

end Resolve

end DeclaredOptions
