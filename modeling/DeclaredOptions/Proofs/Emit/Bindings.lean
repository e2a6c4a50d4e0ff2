import DeclaredOptions.Proofs.Emit.Imports

/-!
Contract: the names that a command's module binds at its top, and the name that its handler calls.

Owns:
- the module text as its import statements and its constants;
- the exact condition under which no name is bound twice and the handler's parameter hides no command.

Does not own: the values of constants.

## Why there is a condition

The symbol check tells the command and the references apart from each other, and from nothing else. A module
binds five names of its own besides, and its handler one more. Functions, enums and the stems of files may have
any of these names.
-/

set_option autoImplicit false

namespace DeclaredOptions

namespace Emit

/-- The names that every command's module gives to its own constants. -/
def ownNames : List String := ["command", "describe", "positionals", "options", "handler"]

def importedNames (schema : CommandSchema) : List String :=
  ((importStatements schema).flatMap (·.bindings)).map (·.name)

def topNames (config : EmitConfig) (schema : CommandSchema) : List String :=
  importedNames schema ++ (constants config schema).map (·.name)

/-- The names of a module are told apart if none is bound twice at its top and the parameter of the handler does
not hide what the handler calls. -/
def NamesApart (config : EmitConfig) (schema : CommandSchema) : Prop :=
  (topNames config schema).Nodup ∧
    ∀ handler ∈ handler? config.quote schema, handler.callee ≠ handler.parameter

variable {config : EmitConfig} {schema : CommandSchema}

/-! ## Texts -/

theorem moduleText_eq_error {working : List String} {path : String} {failure : Failure}
    (fails : imports working config.quote schema path = .error failure) :
    moduleText working config schema path = .error failure := by
  unfold moduleText moduleLines
  rw [fails]
  rfl

/-- A module with imports is the lines of the imports, an empty line, and the lines of its constants. -/
theorem exists_moduleText (working : List String) (path : String)
    (named : ∀ ref ∈ symbols schema, ref.source ∉ "" :: Path.sourceSuffixes)
    (imported : importStatements schema ≠ []) :
    ∃ texts, List.Forall₂ (fun statement text => statement.text working config.quote path = .ok text)
        (importStatements schema) texts ∧
      moduleText working config schema path =
        .ok (Text.joined "\n" (texts ++ "" :: (constants config schema).flatMap (·.lines)) ++ "\n") := by
  obtain ⟨texts, written⟩ := exists_imports working config.quote path named
  have each := mapM_eq_ok_iff.mp written
  have notEmpty : texts ≠ [] := by
    rintro rfl
    exact imported (List.forall₂_nil_right_iff.mp each)
  refine ⟨texts, each, ?_⟩
  unfold moduleText moduleLines
  rw [written]
  simp [notEmpty]

/-! ## Names -/

theorem names_constants {command : Reference} (isCommand : schema.command = some command) :
    (constants config schema).map (·.name) = ownNames := by
  have positionals : (table config "positionals" schema.positionals).name = "positionals" := by
    unfold table
    split <;> rfl
  have options : (table config "options" schema.options).name = "options" := by
    unfold table
    split <;> rfl
  simp [constants, handler?, isCommand, positionals, options, ownNames]

theorem handler?_eq {command : Reference} (isCommand : schema.command = some command)
    (quote : QuoteMark) : ∃ arguments,
      handler? quote schema = some ⟨argumentsName, command.name, arguments⟩ := by
  unfold handler?
  rw [isCommand]
  exact ⟨_, rfl⟩

/-- Import statements bind no name twice, where no two symbols have one name. -/
theorem nodup_importedNames (ids : ((symbols schema).map (·.id)).Nodup)
    (names : ((symbols schema).map (·.name)).Nodup) : (importedNames schema).Nodup := by
  obtain ⟨all, sameSymbols, kept⟩ : (boundSymbols schema).Subperm (symbols schema) :=
    boundSymbols_subperm
  have sameNames : importedNames schema = (boundSymbols schema).map (·.name) := by
    unfold importedNames
    rw [bindings_importStatements ids, List.map_map]
    rfl
  rw [sameNames, ← (sameSymbols.map _).nodup_iff]
  exact names.sublist (kept.map _)

/-- The names of a module are told apart exactly if no imported name is one of the module's own, and the command
is not named like the parameter of the handler. -/
theorem namesApart_iff {command : Reference} (isCommand : schema.command = some command)
    (once : (importedNames schema).Nodup) :
    NamesApart config schema ↔
      (∀ name ∈ importedNames schema, name ∉ ownNames) ∧ command.name ≠ argumentsName := by
  obtain ⟨arguments, handler⟩ := handler?_eq isCommand config.quote
  unfold NamesApart topNames
  rw [names_constants isCommand, List.nodup_append, handler]
  constructor
  · rintro ⟨⟨-, -, apart⟩, visible⟩
    exact ⟨fun name imported own => apart name imported name own rfl, visible _ rfl⟩
  · rintro ⟨apart, visible⟩
    refine ⟨⟨once, by decide, ?_⟩, ?_⟩
    · rintro name imported _ own rfl
      exact apart name imported own
    · rintro _ ⟨⟩
      exact visible

end Emit

/-- The module of a command is written exactly if no symbol comes from a source whose name is empty but for the
suffix. It binds the imported names, of which the command's is one, and its own; its handler calls the command.
Its names are told apart exactly if no imported name is one of the module's own, and the command is not named
like the parameter of the handler. -/
theorem Emit.namesApart_iff_of_commandSchema {start final : Session} {file : Option SourceFile}
    {config : Config} {d : Declaration} {paired : Option PairedOptions} {schema : CommandSchema}
    (reachable : start.project.Reachable) (offers : start.project.Offers file d paired)
    (ends : Step.Ends (Resolve.commandSchema file config d paired) start (.ok schema) final)
    (working : List String) (emit : EmitConfig) (path : String) :
    ((∃ ref ∈ symbols schema, ref.source ∈ "" :: Path.sourceSuffixes) →
      moduleText working emit schema path = .error .emptyPath) ∧
    ((∀ ref ∈ symbols schema, ref.source ∉ "" :: Path.sourceSuffixes) →
      ∃ texts, List.Forall₂ (fun statement text => statement.text working emit.quote path = .ok text)
          (importStatements schema) texts ∧
        moduleText working emit schema path =
          .ok (Text.joined "\n" (texts ++ "" :: (constants emit schema).flatMap (·.lines)) ++ "\n")) ∧
    (constants emit schema).map (·.name) = ownNames ∧
    (Reference.toCommand d).imported ∈ (importStatements schema).flatMap (·.bindings) ∧
    (∃ handler, handler? emit.quote schema = some handler ∧
      ⟨"handler", handler.text, []⟩ ∈ constants emit schema ∧
      handler.callee = (Reference.toCommand d).name) ∧
    (NamesApart emit schema ↔
      (∀ name ∈ importedNames schema, name ∉ ownNames) ∧ (Reference.toCommand d).name ≠ "argv") := by
  obtain ⟨-, -, hasSymbols, -⟩ := Resolve.ends_commandSchema_of_reachable reachable offers ends
  have ids := hasSymbols.nodup_ids
  have commandBound : (Reference.toCommand d).imported ∈
      (importStatements schema).flatMap (·.bindings) := by
    rw [bindings_importStatements ids]
    exact List.mem_map_of_mem (mem_boundSymbols_of_command hasSymbols.command)
  have imported : importStatements schema ≠ [] := by
    intro none
    rw [none] at commandBound
    contradiction
  obtain ⟨arguments, handler⟩ := handler?_eq hasSymbols.command emit.quote
  refine ⟨fun nameless => ?_, fun named => exists_moduleText working path named imported,
    names_constants hasSymbols.command, commandBound, ⟨_, handler, ?_, rfl⟩, ?_⟩
  · exact moduleText_eq_error (imports_eq_error working emit.quote path nameless)
  · simp [constants, handler]
  · exact namesApart_iff hasSymbols.command (nodup_importedNames ids hasSymbols.nodup_names)

/-- The module of a command with an enum of another file, whose names are told apart. -/
theorem Emit.namesApart_iff_of_commandSchema_paint :
    ∃ file d paired schema final,
      paintProject.Reachable ∧ paintProject.Offers (some file) d paired ∧
      Step.Ends (Resolve.commandSchema (some file) .usual d paired) ⟨paintProject, []⟩ (.ok schema)
        final ∧
      topNames Config.usual.emit schema =
        ["paint", "Hue", "command", "describe", "positionals", "options", "handler"] ∧
      NamesApart Config.usual.emit schema := by
  obtain ⟨file, d, paired, schema, final, offers, ends, shape⟩ :=
    Resolve.exists_commandSchema paintProject .usual "paint.ts" "paint"
      (fun schema => (importedNames schema == ["paint", "Hue"]) &&
        schema.command.all (·.name != "argv")) (by decide +kernel)
  rw [Bool.and_eq_true, beq_iff_eq] at shape
  obtain ⟨imported, visible⟩ := shape
  obtain ⟨-, -, own, -, ⟨handler, isHandler, -, callee⟩, apart⟩ :=
    @namesApart_iff_of_commandSchema ⟨paintProject, []⟩ final (some file) .usual d paired schema
      reachable_paintProject offers ends [] Config.usual.emit "paint.command.ts"
  have top : topNames Config.usual.emit schema =
      ["paint", "Hue", "command", "describe", "positionals", "options", "handler"] := by
    unfold topNames
    rw [imported, own]
    rfl
  refine ⟨file, d, paired, schema, final, reachable_paintProject, offers, ends, top, apart.mpr ⟨?_, ?_⟩⟩
  · rw [imported]
    decide
  · obtain ⟨command, isCommand, same⟩ := Option.map_eq_some_iff.mp isHandler
    rw [isCommand, Option.all_some] at visible
    rw [← callee, ← same]
    simpa using visible

/-- A project with two functions, named like a constant of modules and like the parameter of handlers. -/
@[irreducible] def takenProject : Project :=
  .ofTexts [("taken.ts", "export function command(){}
export function argv(){}")]

theorem reachable_takenProject : takenProject.Reachable := by
  unfold takenProject
  exact Project.reachable_ofTexts _

/-- Two commands whose modules are written although their names are not told apart: one module binds a name
twice, and the parameter of the other's handler hides what the handler calls. -/
theorem Emit.not_namesApart_taken :
    (∃ file d paired schema final,
      takenProject.Reachable ∧ takenProject.Offers (some file) d paired ∧
      Step.Ends (Resolve.commandSchema (some file) .usual d paired) ⟨takenProject, []⟩ (.ok schema)
        final ∧
      topNames Config.usual.emit schema =
        ["command", "command", "describe", "positionals", "options", "handler"] ∧
      ¬NamesApart Config.usual.emit schema) ∧
    ∃ file d paired schema final,
      takenProject.Reachable ∧ takenProject.Offers (some file) d paired ∧
      Step.Ends (Resolve.commandSchema (some file) .usual d paired) ⟨takenProject, []⟩ (.ok schema)
        final ∧
      handler? .single schema = some ⟨"argv", "argv", []⟩ ∧
      ¬NamesApart Config.usual.emit schema := by
  constructor
  · obtain ⟨file, d, paired, schema, final, offers, ends, shape⟩ :=
      Resolve.exists_commandSchema takenProject .usual "taken.ts" "command"
        (fun schema => topNames Config.usual.emit schema ==
          ["command", "command", "describe", "positionals", "options", "handler"])
        (by decide +kernel)
    have top := beq_iff_eq.mp shape
    refine ⟨file, d, paired, schema, final, reachable_takenProject, offers, ends, top, ?_⟩
    rintro ⟨once, -⟩
    rw [top] at once
    revert once
    decide
  · obtain ⟨file, d, paired, schema, final, offers, ends, shape⟩ :=
      Resolve.exists_commandSchema takenProject .usual "taken.ts" "argv"
        (fun schema => handler? .single schema == some ⟨"argv", "argv", []⟩) (by decide +kernel)
    have hidden := beq_iff_eq.mp shape
    refine ⟨file, d, paired, schema, final, reachable_takenProject, offers, ends, hidden, ?_⟩
    rintro ⟨-, visible⟩
    exact visible _ hidden rfl

end DeclaredOptions
