import DeclaredOptions.Proofs.Emit.Imports
import DeclaredOptions.Proofs.Text.NameRuns
import DeclaredOptions.Proofs.Text.ScriptString

/-!
Contract: the names that a command's module is written with, as text of a script.

Owns:
- identifiers of arbitrary texts, and words, all of which are quiet;
- the names of symbols, each of which is a word or an identifier;
- the names of a command and its positionals, which make up its usage text, and those of its options.

Does not own: aliases of exports, and the stems of files.
-/

set_option autoImplicit false

namespace DeclaredOptions

open Script (Plain Quiet StandsFree breakers)

/-! ## Identifiers -/

namespace Text

/-- The upper-case form of a quiet character is quiet. -/
theorem not_mem_breakers_upperChar {c : Char} (notBreaker : c ∉ breakers) :
    ∀ d ∈ upperChar c, d ∉ breakers := by
  have noCapital : breakers.any (fun d => (0x41 ≤ d.toNat ∧ d.toNat ≤ 0x5a) ∨ 128 ≤ d.toNat) = false := by
    decide
  intro d member breaker
  rcases (hasCapital_upperChar c).eq_or_isCapital member with ⟨same, -⟩ | isCapital
  · exact notBreaker (same ▸ breaker)
  · exact List.any_eq_false.mp noCapital d breaker (decide_eq_true isCapital.letter)

theorem quiet_capitalized {text : List Char} (quiet : Quiet text) : Quiet (capitalized text) := by
  cases text with
  | nil => exact quiet
  | cons c rest =>
      obtain ⟨first, others⟩ := List.forall_mem_cons.mp quiet
      exact Script.quiet_append.mpr ⟨not_mem_breakers_upperChar first, others⟩

theorem quiet_of_nameParts {text : List Char} (parts : ∀ c ∈ text, isNamePart c = true) : Quiet text := by
  have noPart : breakers.any isNamePart = false := by decide
  intro c member breaker
  exact List.any_eq_false.mp noPart c breaker (parts c member)

/-- The identifier of a text is quiet, whatever the text. -/
theorem quiet_identifier (text : String) : Quiet (identifier text).toList := by
  have isQuiet (run : List Char) (isRun : run ∈ nameRuns text.toList) : Quiet run :=
    quiet_of_nameParts (isNamePart_of_mem_nameRuns _ run isRun).2
  rw [identifier, String.toList_ofList]
  refine (forall_mem_identifierChars_iff (by decide)).mpr ⟨fun first isFirst => ?_, fun run listed => ?_⟩
  · exact isQuiet first (List.mem_of_mem_head? isFirst)
  · exact quiet_capitalized (isQuiet run (List.mem_of_mem_tail listed))

end Text

/-! ## Words -/

namespace Source.IsWord

variable {text : List Char} (word : IsWord text)

include word

theorem quiet : Quiet text := by
  have noWordChar : breakers.any isWordChar = false := by decide
  intro c member breaker
  exact List.any_eq_false.mp noWordChar c breaker (word.chars c member)

/-- A word stands for itself between marks unless it holds an escape. -/
theorem plain_iff (quote : QuoteMark) : Plain quote.char text ↔ '\\' ∉ text := by
  have noWordChar : [quote.char, '\n', '\r'].any isWordChar = false := by cases quote <;> decide
  constructor
  · intro plain member
    exact (plain _ member).2.1 rfl
  · intro noEscape c member
    have differs : ∀ other ∈ [quote.char, '\n', '\r'], c ≠ other := by
      rintro _ listed rfl
      exact List.any_eq_false.mp noWordChar c listed (word.chars c member)
    refine ⟨differs _ (by simp), ?_, differs _ (by simp), differs _ (by simp)⟩
    rintro rfl
    exact noEscape member

end Source.IsWord

/-! ## Symbols -/

theorem Declaration.WellNamed.quiet_bindingName {d : Declaration} (wellNamed : d.WellNamed) :
    Quiet d.bindingName.toList := by
  unfold bindingName
  cases shown : present d.name with
  | none => exact Text.quiet_identifier _
  | some name =>
      have named : d.name = some name := (Option.filter_eq_some_iff.mp shown).1
      exact (wellNamed.word name named).quiet

namespace CommandSchema

variable {schema : CommandSchema} {project : Project} {file : SourceFile} {d : Declaration}
  {paired : Option PairedOptions}

/-- The names of symbols are quiet. -/
theorem HasSymbols.quiet_name (hasSymbols : schema.HasSymbols project d) (sound : project.Sound)
    (offers : project.Offers (some file) d paired) :
    ∀ ref ∈ Emit.symbols schema, Quiet ref.name.toList := by
  rw [hasSymbols.symbols_eq, List.forall_mem_cons]
  constructor
  · have isDeclared := Project.mem_declared offers.placed.1 offers.placed.2
    rw [Reference.toCommand, Reference.toDeclaration_name]
    exact (sound.wellNamed d isDeclared).quiet_bindingName
  · intro ref member
    obtain ⟨e, isDeclared, isEnum, rfl⟩ := hasSymbols.enums ref member
    obtain ⟨name, named, word⟩ := (sound.wellNamed e isDeclared).enum isEnum
    rw [Reference.toEnum, Reference.toDeclaration_name, named]
    exact word.quiet

end CommandSchema

namespace Emit

/-- The clauses of a statement are quiet exactly if its aliases are, where the bound names are. -/
theorem quiet_clauses_iff {statement : ImportStatement}
    (bound : ∀ binding ∈ statement.bindings, Quiet binding.name.toList) :
    Quiet (Text.joined ", " statement.clauses).toList ↔
      ∀ item ∈ statement.named, Quiet item.exported.toList := by
  have comma : Quiet ", ".toList := by decide
  have asWord : Quiet " as ".toList := by decide
  have braces : Quiet "\x7b ".toList ∧ Quiet " \x7d".toList := by decide
  have joined (texts : List String) :
      Quiet (Text.joined ", " texts).toList ↔ ∀ text ∈ texts, Quiet text.toList := by
    rw [Text.joined, String.toList_ofList]
    refine (Text.forall_mem_join comma).trans ?_
    simp [Quiet]
  unfold ImportStatement.bindings at bound
  rw [List.forall_mem_append, List.forall_mem_map, List.forall_mem_map] at bound
  obtain ⟨defaultBound, namedBound⟩ := bound
  have item (item : NamedImport) (member : item ∈ statement.named) :
      Quiet item.text.toList ↔ Quiet item.exported.toList := by
    unfold NamedImport.text
    split
    · rename_i same
      rw [beq_iff_eq.mp same]
    · rw [String.toList_append, String.toList_append, Script.quiet_append, Script.quiet_append]
      simp only [asWord, namedBound item member, and_true]
  have items : (∀ text ∈ statement.named.map NamedImport.text, Quiet text.toList) ↔
      ∀ item ∈ statement.named, Quiet item.exported.toList := by
    rw [List.forall_mem_map]
    exact forall₂_congr item
  rw [joined]
  unfold ImportStatement.clauses
  dsimp only
  rw [List.forall_mem_append, ← items]
  refine (and_iff_right defaultBound).trans ?_
  split
  · rename_i none
    simp [List.isEmpty_iff.mp none]
  · rw [List.forall_mem_singleton, String.toList_append, String.toList_append,
      Script.quiet_append, Script.quiet_append, joined]
    simp only [braces, true_and, and_true]

end Emit

/-! ## Usage texts -/

namespace Resolve

variable {start final : Session}

theorem name_of_ends_positional {scope : MemberScope} {parameter : Parameter}
    {schema : OptionSchema} {ref? : Option Reference}
    (ends : Step.Ends (positional scope parameter) start (.ok (schema, ref?)) final) :
    schema.name = parameter.name := by
  unfold positional at ends
  obtain ⟨⟨descriptor, found⟩, middle, typed, rest⟩ := Step.ends_bind_ok.mp ends
  dsimp only at rest
  obtain ⟨accepted, last, checks, ending⟩ := Step.ends_bind_ok.mp rest
  obtain ⟨same, -⟩ := Step.ends_pure.mp ending
  cases same
  rw [OptionSchema.checked_eq (ends_ofExcept_ok.mp checks).1]
  cases descriptor <;> rfl

theorem name_of_ends_option {file : Option SourceFile} {demandTags : List Data} {property : Property}
    {schema : OptionSchema} {ref? : Option Reference}
    (ends : Step.Ends (option file demandTags property) start (.ok (schema, ref?)) final) :
    schema.name = property.name := by
  unfold option at ends
  obtain ⟨⟨descriptor, found⟩, _, typed, afterType⟩ := Step.ends_bind_ok.mp ends
  obtain ⟨otherName, _, named, afterName⟩ := Step.ends_bind_ok.mp afterType
  obtain ⟨default, _, defaulted, afterDefault⟩ := Step.ends_bind_ok.mp afterName
  obtain ⟨demanded, _, demands, afterDemand⟩ := Step.ends_bind_ok.mp afterDefault
  obtain ⟨accepted, _, checks, ending⟩ := Step.ends_bind_ok.mp afterDemand
  obtain ⟨same, -⟩ := Step.ends_pure.mp ending
  cases same
  rw [OptionSchema.checked_eq (ends_ofExcept_ok.mp checks).1]
  cases descriptor <;> rfl

/-- Members are named in a row as each of them is. -/
theorem names_of_ends_collect {α : Type} {one : α → Resolve (OptionSchema × Option Reference)}
    {nameOf : α → String}
    (named : ∀ {value : α} {start final : Session} {schema : OptionSchema} {ref? : Option Reference},
      Step.Ends (one value) start (.ok (schema, ref?)) final → schema.name = nameOf value)
    {values : List α} {table result : ReferenceTable} {schemas : List OptionSchema}
    (ends : Step.Ends (collect one table values) start (.ok (schemas, result)) final) :
    schemas.map (·.name) = values.map nameOf := by
  induction values generalizing start final table schemas with
  | nil =>
      obtain ⟨same, -⟩ := Step.ends_pure.mp ends
      cases same
      rfl
  | cons value rest inductionHypothesis =>
      unfold collect at ends
      obtain ⟨⟨schema, ref?⟩, middle, first, afterFirst⟩ := Step.ends_bind_ok.mp ends
      obtain ⟨next, _, adds, afterAdd⟩ := Step.ends_bind_ok.mp afterFirst
      obtain ⟨⟨more, last⟩, _, others, ending⟩ := Step.ends_bind_ok.mp afterAdd
      obtain ⟨same, -⟩ := Step.ends_pure.mp ending
      cases same
      rw [List.map_cons, List.map_cons, named first, inductionHypothesis others]

/-- The options of an interface are named as its properties are. -/
theorem names_of_ends_pairedSchema {config : Config} {paired : PairedOptions}
    {table result : ReferenceTable} {options : List OptionSchema}
    (ends : Step.Ends (pairedSchema config table (some paired)) start (.ok (options, result)) final) :
    options.map (·.name) = paired.interface.properties.map (·.name) := by
  unfold pairedSchema at ends
  obtain ⟨schema, _, builds, afterSchema⟩ := Step.ends_bind_ok.mp ends
  obtain ⟨merged, _, merges, ending⟩ := Step.ends_bind_ok.mp afterSchema
  obtain ⟨same, -⟩ := Step.ends_pure.mp ending
  cases same
  unfold optionsSchema at builds
  obtain ⟨⟨collected, own⟩, _, collects, ending⟩ := Step.ends_bind_ok.mp builds
  obtain ⟨same, -⟩ := Step.ends_pure.mp ending
  cases same
  exact names_of_ends_collect name_of_ends_option collects

/-- A command is named as its function is shown, and its positionals are named as the parameters are. -/
theorem names_of_ends_commandSchema {file : Option SourceFile} {config : Config} {d : Declaration}
    {paired : Option PairedOptions} {schema : CommandSchema}
    (ends : Step.Ends (commandSchema file config d paired) start (.ok schema) final) :
    schema.name = d.displayName ∧
      schema.positionals.map (·.name) = d.parameters.map (·.name) := by
  unfold commandSchema at ends
  obtain ⟨⟨positionals, own⟩, middle, collects, afterOwn⟩ := Step.ends_bind_ok.mp ends
  obtain ⟨⟨options, table⟩, _, pairs, afterOptions⟩ := Step.ends_bind_ok.mp afterOwn
  obtain ⟨_, _, names, afterNames⟩ := Step.ends_bind_ok.mp afterOptions
  obtain ⟨_, _, checks, ending⟩ := Step.ends_bind_ok.mp afterNames
  obtain ⟨same, -⟩ := Step.ends_pure.mp ending
  cases same
  exact ⟨rfl, names_of_ends_collect name_of_ends_positional collects⟩

theorem optionNames_of_ends_commandSchema {file : Option SourceFile} {config : Config} {d : Declaration}
    {paired : PairedOptions} {schema : CommandSchema}
    (ends : Step.Ends (commandSchema file config d (some paired)) start (.ok schema) final) :
    schema.options.map (·.name) = paired.interface.properties.map (·.name) := by
  unfold commandSchema at ends
  obtain ⟨⟨positionals, own⟩, _, collects, afterOwn⟩ := Step.ends_bind_ok.mp ends
  obtain ⟨⟨options, table⟩, _, pairs, afterOptions⟩ := Step.ends_bind_ok.mp afterOwn
  obtain ⟨_, _, names, afterNames⟩ := Step.ends_bind_ok.mp afterOptions
  obtain ⟨_, _, checks, ending⟩ := Step.ends_bind_ok.mp afterNames
  obtain ⟨same, -⟩ := Step.ends_pure.mp ending
  cases same
  exact names_of_ends_pairedSchema pairs

end Resolve

namespace CommandSchema

theorem plain_usageWord_iff (quote : QuoteMark) (positional : OptionSchema) :
    Plain quote.char (usageWord positional).toList ↔ Plain quote.char positional.name.toList := by
  have dots : Plain quote.char "..".toList := by cases quote <;> decide
  have brackets : ∀ bracket ∈ ["<", ">", "[", "]"], Plain quote.char bracket.toList := by
    cases quote <;> decide
  have name : Plain quote.char
      (if positional.variadic then positional.name ++ ".." else positional.name).toList ↔
      Plain quote.char positional.name.toList := by
    split
    · rw [String.toList_append, Script.plain_append]
      exact and_iff_left dots
    · rfl
  unfold usageWord
  dsimp only
  rw [← name]
  split
  all_goals
    rw [String.toList_append, String.toList_append, Script.plain_append, Script.plain_append,
      and_iff_left (brackets _ (by simp)), and_iff_right (brackets _ (by simp))]

/-- A usage text stands for itself between marks exactly if the names in it do. -/
theorem plain_usage_iff (quote : QuoteMark) (schema : CommandSchema) :
    Plain quote.char schema.usage.toList ↔
      Plain quote.char schema.name.toList ∧
        ∀ positional ∈ schema.positionals, Plain quote.char positional.name.toList := by
  have space : Plain quote.char " ".toList := by cases quote <;> decide
  rw [usage, Text.joined, String.toList_ofList]
  refine (Text.forall_mem_join space).trans ?_
  rw [List.map_cons, List.forall_mem_cons, List.map_map, List.forall_mem_map]
  exact and_congr_right fun _ => forall₂_congr fun positional _ =>
    plain_usageWord_iff quote positional

end CommandSchema

end DeclaredOptions
