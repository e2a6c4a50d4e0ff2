import DeclaredOptions.Emit.Module
import DeclaredOptions.Proofs.Literal.Source
import DeclaredOptions.Proofs.Schema.Members

/-!
Contract: options that are told by their object literals.

Owns:
- settings and fields, which end where their source texts show it;
- the schemas that members are built to, which hold no literals but texts and readable ones;
- the settings of such a schema, which its object literal determines.

Does not own: the names of options, which stand outside of their object literals.
-/

set_option autoImplicit false

namespace DeclaredOptions

open Literal (isMark)

/-! ## Settings -/

inductive Setting.Legible : Setting → Prop where
  | one {value : Literal} (legible : value.Legible) : Legible (.one value)
  | many {values : List Literal} (legible : ∀ value ∈ values, value.Legible) :
      Legible (.many values)

namespace Emit

theorem settingSource_many (quote : QuoteMark) (values : List Literal) (rest : List Char) :
    (settingSource quote (.many values)).toList ++ rest =
      '[' :: (Text.join [',', ' '] (values.map fun value => (value.toSource quote).toList)
        ++ ([']'] ++ rest)) := by
  simp [settingSource, Text.joined, List.map_map, Function.comp_def]

theorem selfDelimiting_settingSource (quote : QuoteMark) :
    Text.SelfDelimiting isMark Setting.Legible fun setting => (settingSource quote setting).toList := by
  obtain ⟨openListed, openNoQuote⟩ : isMark '[' = true ∧ '[' ≠ quote.char := by
    cases quote <;> decide
  obtain ⟨closeListed, closeNoQuote⟩ : isMark ']' = true ∧ ']' ≠ quote.char := by
    cases quote <;> decide
  intro a b rest other legibleA legibleB restStopped otherStopped same
  cases legibleA with
  | @one first legibleFirst =>
      cases legibleB with
      | @one second legibleSecond =>
          obtain ⟨rfl, sameRest⟩ := Literal.selfDelimiting_toSource quote legibleFirst legibleSecond
            restStopped otherStopped same
          exact ⟨rfl, sameRest⟩
      | @many values _ =>
          rw [settingSource_many] at same
          have opens := Literal.head_toSource_ne legibleFirst openListed openNoQuote
          exact absurd (congrArg List.head? same) (opens rest)
  | @many values legibleValues =>
      cases legibleB with
      | @one second legibleSecond =>
          rw [settingSource_many] at same
          have opens := Literal.head_toSource_ne legibleSecond openListed openNoQuote
          exact absurd (congrArg List.head? same).symm (opens other)
      | @many others legibleOthers =>
          rw [settingSource_many, settingSource_many] at same
          obtain ⟨rfl, sameRest⟩ := Text.join_inj (Literal.selfDelimiting_toSource quote) rfl
            (by decide) rfl closeListed (by decide)
            (fun value legible => Literal.head_toSource_ne legible closeListed closeNoQuote)
            legibleValues legibleOthers (List.cons.inj same).2
          exact ⟨rfl, sameRest⟩

/-! ## Fields -/

/-- The text of a field in an object literal. -/
def fieldSource (quote : QuoteMark) (field : String × Setting) : List Char :=
  field.1.toList ++ (':' :: ' ' :: (settingSource quote field.2).toList)

/-- A field with a key that no colon or space breaks. -/
def LegibleField (field : String × Setting) : Prop :=
  (∀ c ∈ field.1.toList, (c == ':' || c == ' ') = false) ∧ field.2.Legible

theorem selfDelimiting_fieldSource (quote : QuoteMark) :
    Text.SelfDelimiting isMark LegibleField (fieldSource quote) := by
  rintro ⟨key, setting⟩ ⟨second, value⟩ rest other ⟨bareKey, legible⟩ ⟨bareSecond, legibleValue⟩
    restStopped otherStopped same
  unfold fieldSource at same
  rw [List.append_assoc, List.append_assoc] at same
  obtain ⟨sameKey, sameBehind⟩ := Text.append_inj_of_stopped bareKey bareSecond
    (Text.stopped_cons (by decide) _) (Text.stopped_cons (by decide) _) same
  obtain ⟨rfl, sameRest⟩ := selfDelimiting_settingSource quote legible legibleValue restStopped
    otherStopped (List.cons.inj (List.cons.inj sameBehind).2).2
  rw [String.toList_inj] at sameKey
  exact ⟨Prod.ext sameKey rfl, sameRest⟩

theorem head_fieldSource_ne {quote : QuoteMark} {field : String × Setting}
    (legible : LegibleField field) (rest : List Char) :
    (fieldSource quote field ++ rest).head? ≠ some ' ' := by
  obtain ⟨key, setting⟩ := field
  have bareKey := legible.1
  unfold fieldSource
  dsimp only at bareKey ⊢
  cases shape : key.toList with
  | nil => simp
  | cons c more =>
      rw [shape] at bareKey
      have noSpace := bareKey c List.mem_cons_self
      simpa using fun isSpace : c = ' ' => by simp [isSpace] at noSpace

theorem optionSource_toList (quote : QuoteMark) (schema : OptionSchema) :
    (optionSource quote schema).toList =
      '\x7b' :: ' ' :: (Text.join [',', ' '] (schema.settings.map (fieldSource quote))
        ++ ([' ', '\x7d'] ++ [])) := by
  have fields : (schema.settings.map fun field => field.1 ++ ": " ++ settingSource quote field.2).map
      String.toList = schema.settings.map (fieldSource quote) := by
    rw [List.map_map]
    apply List.map_congr_left
    intro field _
    simp [fieldSource]
  simp only [optionSource, Text.joined, String.toList_append, String.toList_ofList, fields]
  rfl

end Emit

namespace OptionSchema

/-- A schema whose literals are texts or can be read. -/
def Legible (schema : OptionSchema) : Prop := ∀ field ∈ schema.settings, Emit.LegibleField field

/-- Legible schemas with one object literal have the same settings. -/
theorem Legible.settings_eq {quote : QuoteMark} {first second : OptionSchema}
    (legibleFirst : first.Legible) (legibleSecond : second.Legible)
    (same : Emit.optionSource quote first = Emit.optionSource quote second) :
    first.settings = second.settings := by
  have sameTexts := congrArg String.toList same
  rw [Emit.optionSource_toList, Emit.optionSource_toList] at sameTexts
  have sameFields := (List.cons.inj (List.cons.inj sameTexts).2).2
  exact (Text.join_inj (Emit.selfDelimiting_fieldSource quote) rfl (by decide) rfl (by decide)
    (by decide) (fun field legible => Emit.head_fieldSource_ne legible) legibleFirst legibleSecond
    sameFields).1

end OptionSchema

/-! ## Built schemas -/

/-- A schema that the resolution of a parameter or of a property ends with, in whatever session. -/
inductive OptionSchema.Built : OptionSchema → Prop where
  | positional {scope : MemberScope} {parameter : Parameter} {start final : Session}
      {schema : OptionSchema} {ref? : Option Reference}
      (ends : Step.Ends (Resolve.positional scope parameter) start (.ok (schema, ref?)) final) :
      Built schema
  | option {file : Option SourceFile} {demandTags : List Data} {property : Property}
      {start final : Session} {schema : OptionSchema} {ref? : Option Reference}
      (ends : Step.Ends (Resolve.option file demandTags property) start (.ok (schema, ref?)) final) :
      Built schema

theorem Literal.legible_truth (value : Bool) : (Literal.truth value).Legible := .read (.truth value)

theorem Literal.legible_of_parse {text tag : Option String} {literal : Literal}
    (read : Literal.parse text tag = .ok literal) : literal.Legible :=
  .read (Literal.parse_eq_ok_iff.mp read)

theorem Literal.text_of_parseAlias {text : String} {literal : Literal}
    (read : Literal.parseAlias text = .ok literal) : ∃ value, literal = .text value := by
  unfold Literal.parseAlias at read
  dsimp only at read
  have finishes : ∀ name : List Char,
      (if (!name.isEmpty && name.all isAliasChar) = true then pure (.text (String.ofList name))
        else throw ⟨String.ofList name, "expected an alias name", some "alias"⟩ :
          Except TagRefusal Literal) = .ok literal → ∃ value, literal = .text value := by
    intro name rest
    split at rest
    · exact ⟨_, (Except.ok.inj rest).symm⟩
    · contradiction
  split at read
  case h_3 => exact finishes _ read
  all_goals
    cases parsed : Literal.parse (some (String.ofList (Text.trim text.toList))) (some "alias") with
    | error refusal =>
        rw [parsed] at read
        contradiction
    | ok own =>
        rw [parsed] at read
        cases own with
        | text value => exact finishes _ read
        | _ => contradiction

theorem EnumMember.legible_path {enum : String} {member : EnumMember} {parts : List String}
    (named : member.path enum = .ok parts) : (Literal.path parts).Legible := by
  unfold EnumMember.path Literal.qualifiedName at named
  dsimp only at named
  cases read : Literal.parse (some (Text.joined "." [enum, member.name])) none with
  | error refusal =>
      rw [read] at named
      contradiction
  | ok literal =>
      rw [read] at named
      cases literal with
      | path own =>
          cases named
          exact Literal.legible_of_parse read
      | _ => contradiction

/-- A descriptor lists paths that can be read. -/
def Descriptor.Legible (descriptor : Descriptor) : Prop :=
  ∀ parts ∈ descriptor.paths, (Literal.path parts).Legible

namespace OptionSchema

/-- The literals of the settings of an option. -/
def literals (schema : OptionSchema) : List Literal :=
  schema.type.toList ++ schema.array.toList ++ schema.choices.getD [] ++
    (schema.description.toList ++ schema.otherName.toList ++ schema.default.toList ++
      schema.demand.toList)

theorem legible_of_literals {schema : OptionSchema}
    (readable : ∀ literal ∈ schema.literals, literal.Legible) : schema.Legible := by
  simp only [literals, List.forall_mem_append] at readable
  obtain ⟨⟨⟨type, array⟩, choices⟩, ⟨⟨description, otherName⟩, default⟩, demand⟩ := readable
  have one : ∀ {value : Option Literal}, (∀ literal ∈ value.toList, literal.Legible) →
      ∀ setting, value.map Setting.one = some setting → setting.Legible := by
    intro value all setting isSetting
    obtain ⟨literal, rfl, rfl⟩ := Option.map_eq_some_iff.mp isSetting
    exact .one (all literal (by simp))
  have many : ∀ setting, schema.choices.map Setting.many = some setting → setting.Legible := by
    intro setting isSetting
    obtain ⟨values, isChoices, rfl⟩ := Option.map_eq_some_iff.mp isSetting
    rw [isChoices] at choices
    exact .many choices
  have bareKey : ∀ key ∈ ["type", "array", "choices", "description", "alias", "default",
      "demandOption"], ∀ c ∈ key.toList, (c == ':' || c == ' ') = false := by
    simp
  intro field member
  obtain ⟨⟨key, value⟩, listed, isField⟩ := List.mem_filterMap.mp member
  obtain ⟨setting, isSetting, rfl⟩ := Option.map_eq_some_iff.mp isField
  simp only [List.mem_cons, Prod.mk.injEq, List.not_mem_nil, or_false] at listed
  rcases listed with ⟨rfl, rfl⟩ | ⟨rfl, rfl⟩ | ⟨rfl, rfl⟩ | ⟨rfl, rfl⟩ | ⟨rfl, rfl⟩ | ⟨rfl, rfl⟩ |
    ⟨rfl, rfl⟩
  · exact ⟨bareKey _ (by simp), one type setting isSetting⟩
  · exact ⟨bareKey _ (by simp), one array setting isSetting⟩
  · exact ⟨bareKey _ (by simp), many setting isSetting⟩
  · exact ⟨bareKey _ (by simp), one description setting isSetting⟩
  · exact ⟨bareKey _ (by simp), one otherName setting isSetting⟩
  · exact ⟨bareKey _ (by simp), one default setting isSetting⟩
  · exact ⟨bareKey _ (by simp), one demand setting isSetting⟩

theorem legible_ofDescriptor (name : String) {descriptor : Descriptor} (legible : descriptor.Legible) :
    ∀ literal ∈ (ofDescriptor name descriptor).literals, literal.Legible := by
  intro literal member
  cases descriptor with
  | scalar s =>
      have isType : literal = .text s.name := by simpa [literals, ofDescriptor, named] using member
      rw [isType]
      exact .text s.name
  | list s =>
      have isField : literal = .text s.name ∨ literal = .truth true := by
        simpa [literals, ofDescriptor, named] using member
      rcases isField with rfl | rfl
      · exact .text s.name
      · exact Literal.legible_truth true
  | choice members values =>
      have isChoice : ∃ parts ∈ members, Literal.path parts = literal := by
        simpa [literals, ofDescriptor, named] using member
      obtain ⟨parts, isMember, rfl⟩ := isChoice
      exact legible parts isMember

end OptionSchema

namespace Resolve

variable {start final : Session}

theorem legible_enumChoice {d : Declaration} {descriptor : Descriptor} {ref : Reference}
    (ends : Step.Ends (enumChoice d) start (.ok (descriptor, ref)) final) : descriptor.Legible := by
  obtain ⟨members, values, listed, -, chosen, -⟩ := ends_enumChoice_ok.mp ends
  cases chosen
  intro parts isMember
  obtain ⟨member, -, named⟩ := exists_of_mapM_eq_ok listed parts isMember
  exact EnumMember.legible_path named

theorem legible_typeOf {scope : Option SourceFile} {context : MemberContext} {member : String}
    {declared : Option TypeExpr} {descriptor : Descriptor} {ref? : Option Reference}
    (ends : Step.Ends (typeOf scope context member declared) start (.ok (descriptor, ref?)) final) :
    descriptor.Legible := by
  rcases typeOf_cases ends with ⟨s, rfl⟩ | ⟨s, rfl⟩ | ⟨d, ref, middle, chosen⟩
  · exact nofun
  · exact nofun
  · exact legible_enumChoice chosen

theorem legible_textSetting (text : String) :
    ∀ literal ∈ (textSetting text).toList, literal.Legible := by
  intro literal member
  unfold textSetting at member
  split at member
  · contradiction
  · rw [List.mem_singleton.mp member]
    exact .text text

theorem legible_otherNameOf {block : Option DocBlock} {name : Option Literal}
    (ends : Step.Ends (otherNameOf block) start (.ok name) final) :
    ∀ literal ∈ name.toList, literal.Legible := by
  unfold otherNameOf at ends
  split at ends
  · obtain ⟨same, -⟩ := Step.ends_pure.mp ends
    cases same
    simp
  · obtain ⟨literal, given, rfl⟩ := Step.ends_map_ok.mp ends
    obtain ⟨value, rfl⟩ := Literal.text_of_parseAlias (ends_ofTag_ok.mp given).1
    simpa using Literal.Legible.text value

theorem legible_defaultOf {block : Option DocBlock} {descriptor : Descriptor}
    {default : Option Literal}
    (ends : Step.Ends (defaultOf block descriptor) start (.ok default) final) :
    ∀ literal ∈ default.toList, literal.Legible := by
  unfold defaultOf at ends
  split at ends
  · obtain ⟨same, -⟩ := Step.ends_pure.mp ends
    cases same
    simp
  · obtain ⟨literal, middle, read, rest⟩ := Step.ends_bind_ok.mp ends
    obtain ⟨fitted, fitting, rfl⟩ := Step.ends_map_ok.mp rest
    have same := Literal.eq_of_fitting (ends_ofExcept_ok.mp fitting).1
    simpa [same] using Literal.legible_of_parse (ends_ofTag_ok.mp read).1

end Resolve

theorem OptionSchema.legible_update (name : String) {descriptor : Descriptor}
    {schema : OptionSchema} (legible : descriptor.Legible)
    (type : schema.type = (ofDescriptor name descriptor).type)
    (array : schema.array = (ofDescriptor name descriptor).array)
    (choices : schema.choices = (ofDescriptor name descriptor).choices)
    (others : ∀ literal ∈ schema.description.toList ++ schema.otherName.toList ++
      schema.default.toList ++ schema.demand.toList, literal.Legible) : schema.Legible := by
  apply legible_of_literals
  have fromType := legible_ofDescriptor name legible
  unfold literals at fromType ⊢
  rw [type, array, choices]
  rw [List.forall_mem_append] at fromType ⊢
  exact ⟨fromType.1, others⟩

theorem OptionSchema.Built.legible {schema : OptionSchema} (built : schema.Built) :
    schema.Legible := by
  cases built with
  | @positional scope parameter start final _ ref? ends =>
      unfold Resolve.positional at ends
      obtain ⟨⟨descriptor, found⟩, middle, typed, rest⟩ := Step.ends_bind_ok.mp ends
      dsimp only at rest
      obtain ⟨accepted, last, checks, ending⟩ := Step.ends_bind_ok.mp rest
      obtain ⟨same, -⟩ := Step.ends_pure.mp ending
      cases same
      have noName : (OptionSchema.ofDescriptor parameter.name descriptor).otherName = none ∧
          (OptionSchema.ofDescriptor parameter.name descriptor).default = none := by
        cases descriptor <;> exact ⟨rfl, rfl⟩
      rw [OptionSchema.checked_eq (Resolve.ends_ofExcept_ok.mp checks).1]
      refine OptionSchema.legible_update parameter.name (Resolve.legible_typeOf typed) rfl rfl rfl ?_
      dsimp only
      rw [noName.1, noName.2]
      simp only [List.forall_mem_append]
      refine ⟨⟨⟨?_, by simp⟩, by simp⟩, ?_⟩
      · cases scope.owner.bind fun owner => paramDoc? owner.doc parameter.name with
        | none => simp
        | some text => exact Resolve.legible_textSetting text
      · split
        · simp
        · simpa using Literal.Legible.text "true"
  | @option file demandTags property start final _ ref? ends =>
      unfold Resolve.option at ends
      obtain ⟨⟨descriptor, found⟩, middle, typed, afterType⟩ := Step.ends_bind_ok.mp ends
      obtain ⟨otherName, _, named, afterName⟩ := Step.ends_bind_ok.mp afterType
      obtain ⟨default, _, defaulted, afterDefault⟩ := Step.ends_bind_ok.mp afterName
      obtain ⟨demanded, _, demands, afterDemand⟩ := Step.ends_bind_ok.mp afterDefault
      obtain ⟨accepted, _, checks, ending⟩ := Step.ends_bind_ok.mp afterDemand
      obtain ⟨same, -⟩ := Step.ends_pure.mp ending
      cases same
      rw [OptionSchema.checked_eq (Resolve.ends_ofExcept_ok.mp checks).1]
      refine OptionSchema.legible_update property.name (Resolve.legible_typeOf typed) rfl rfl rfl ?_
      simp only [List.forall_mem_append]
      refine ⟨⟨⟨Resolve.legible_textSetting _, Resolve.legible_otherNameOf named⟩,
        Resolve.legible_defaultOf defaulted⟩, ?_⟩
      split
      · simpa using Literal.legible_truth true
      · simp

/-! ## The settings of an object literal -/

namespace OptionSchema

/-- The object literal of an option determines its settings: their keys, the kinds of their literals and the
values of these. Only the name of the option and its place stay open. -/
theorem settings_eq_of_optionSource {first second : OptionSchema} (builtFirst : first.Built)
    (builtSecond : second.Built) (quote : QuoteMark)
    (same : Emit.optionSource quote first = Emit.optionSource quote second) :
    first.settings = second.settings :=
  builtFirst.legible.settings_eq builtSecond.legible same

/-- A parameter and a property of one list type have the same object literal, and so the same settings. -/
theorem settings_eq_of_optionSource_list :
    ∃ first second : OptionSchema, first.Built ∧ second.Built ∧ first.name ≠ second.name ∧
      Emit.optionSource .single first = "\x7b type: 'string', array: true \x7d" ∧
      Emit.optionSource .single second = "\x7b type: 'string', array: true \x7d" ∧
      first.settings = second.settings := by
  have builtFirst : (ofDescriptor "paths" (.list .text)).Built :=
    @Built.positional ⟨none, none⟩ ⟨"paths", some (.array (.ref "string" [])), true, none, false, 1⟩
      ⟨.ofTexts [], []⟩ ⟨.ofTexts [], []⟩ _ none rfl
  have builtSecond : (ofDescriptor "globs" (.list .text)).Built :=
    @Built.option none [] ⟨"globs", some (.array (.ref "string" [])), true, none, 1⟩
      ⟨.ofTexts [], []⟩ ⟨.ofTexts [], []⟩ _ none rfl
  have sourceFirst : Emit.optionSource .single (ofDescriptor "paths" (.list .text)) =
      "\x7b type: 'string', array: true \x7d" := by decide +kernel
  have sourceSecond : Emit.optionSource .single (ofDescriptor "globs" (.list .text)) =
      "\x7b type: 'string', array: true \x7d" := by decide +kernel
  refine ⟨_, _, builtFirst, builtSecond, by decide, sourceFirst, sourceSecond, ?_⟩
  exact settings_eq_of_optionSource builtFirst builtSecond .single
    (sourceFirst.trans sourceSecond.symm)

end OptionSchema

end DeclaredOptions
