import DeclaredOptions.Proofs.Emit.Bindings
import DeclaredOptions.Proofs.Emit.Names

/-!
Contract: the strings in the lines of a command's module that are written without escapes.

Owns:
- import lines, with the specifier that their string has to denote;
- the line of the command, with the usage text that its string has to denote;
- the exact condition under which such a line holds that string alone.

Does not own: lines whose strings are escaped.

## Why there is a condition

A specifier comes from the path of a file, and a usage text from names or from the stem of a file. Both are put
between the marks as they are. Paths and stems may hold the mark, a backslash or a line break; names may hold the
backslash of an escape, and nothing else that matters. Names are quiet before a string, too, but an alias may be
any text that stood in quotes.
-/

set_option autoImplicit false

namespace DeclaredOptions

open Script (HoldsOnly Plain Quiet)

/-! ## Import lines -/

theorem ImportStatement.exists_specifier_of_text {working : List String} {quote : QuoteMark}
    {path text : String} {statement : ImportStatement}
    (written : statement.text working quote path = .ok text) :
    ∃ specifier, Path.specifier working path statement.source = .ok specifier ∧
      text = "import " ++ Text.joined ", " statement.clauses ++ " from " ++
        (String.ofList [quote.char] ++ specifier ++ String.ofList [quote.char]) := by
  unfold ImportStatement.text at written
  cases led : Path.specifier working path statement.source with
  | error failure =>
      rw [led] at written
      contradiction
  | ok specifier =>
      rw [led] at written
      refine ⟨specifier, rfl, ?_⟩
      rw [← Except.ok.inj written]
      simp only [String.append_assoc]

/-- An import line holds its specifier alone exactly if each character of the specifier stands for itself and the
aliases are quiet, where the bound names are. -/
theorem ImportStatement.holdsOnly_iff {working : List String} {quote : QuoteMark}
    {path text : String} {statement : ImportStatement}
    (bound : ∀ binding ∈ statement.bindings, Quiet binding.name.toList)
    (written : statement.text working quote path = .ok text) :
    ∃ specifier, Path.specifier working path statement.source = .ok specifier ∧
      (HoldsOnly quote specifier text ↔
        Plain quote.char specifier.toList ∧ ∀ item ∈ statement.named, Quiet item.exported.toList) := by
  obtain ⟨specifier, led, rfl⟩ := exists_specifier_of_text written
  have shape := Script.toList_marked ("import " ++ Text.joined ", " statement.clauses ++ " from ")
    specifier quote.char
  have noBackslash : ("import " ++ Text.joined ", " statement.clauses ++ " from ").toList.getLast? ≠
      some '\\' := by
    rw [String.toList_append, List.getLast?_append]
    simp
  refine ⟨specifier, led, (Script.holdsOnly_iff shape noBackslash).trans ?_⟩
  have around : Quiet "import ".toList ∧ Quiet " from ".toList := by decide
  rw [String.toList_append, String.toList_append, Script.quiet_append, Script.quiet_append,
    Emit.quiet_clauses_iff bound, and_iff_right around.1, and_iff_left around.2]
  exact and_comm

namespace Emit

variable {schema : CommandSchema}

theorem quiet_bindings (ids : ((symbols schema).map (·.id)).Nodup)
    (quiet : ∀ ref ∈ symbols schema, Quiet ref.name.toList) :
    ∀ statement ∈ importStatements schema, ∀ binding ∈ statement.bindings,
      Quiet binding.name.toList := by
  intro statement isStatement binding isBinding
  have bound : binding ∈ (importStatements schema).flatMap (·.bindings) :=
    List.mem_flatMap.mpr ⟨statement, isStatement, isBinding⟩
  rw [bindings_importStatements ids] at bound
  obtain ⟨ref, isBound, rfl⟩ := List.mem_map.mp bound
  exact quiet ref (boundSymbols_subperm.subset isBound)

/-! ## The line of the command -/

/-- The line that exports the usage text of a command. -/
def commandLine (quote : QuoteMark) (schema : CommandSchema) : String :=
  let mark := String.ofList [quote.char]
  "export const command = " ++ (mark ++ schema.usage ++ mark)

/-- The first line after the imports is that of the command. -/
theorem lines_constants (config : EmitConfig) (schema : CommandSchema) : ∃ rest,
    (constants config schema).flatMap (·.lines) = commandLine config.quote schema :: rest := by
  have start : "export const " ++ "command" ++ " = " = "export const command = " := by decide
  unfold commandLine
  rw [← start]
  exact ⟨_, rfl⟩

theorem holdsOnly_commandLine_iff (quote : QuoteMark) (schema : CommandSchema) :
    HoldsOnly quote schema.usage (commandLine quote schema) ↔ Plain quote.char schema.usage.toList := by
  have shape := Script.toList_marked "export const command = " schema.usage quote.char
  have quiet : Quiet "export const command = ".toList := by decide
  have noBackslash : "export const command = ".toList.getLast? ≠ some '\\' := by decide
  exact (Script.holdsOnly_iff shape noBackslash).trans (and_iff_right quiet)

/-- The usage text of a command stands for itself between marks exactly if the name of the command does, and no
parameter is named with an escape. -/
theorem plain_usage_iff_of_names (quote : QuoteMark) {d : Declaration} (wellNamed : d.WellNamed)
    (name : schema.name = d.displayName)
    (positionals : schema.positionals.map (·.name) = d.parameters.map (·.name)) :
    Plain quote.char schema.usage.toList ↔
      Plain quote.char d.displayName.toList ∧ ∀ p ∈ d.parameters, '\\' ∉ p.name.toList := by
  have named (P : String → Prop) :
      (∀ positional ∈ schema.positionals, P positional.name) ↔ ∀ p ∈ d.parameters, P p.name := by
    rw [← List.forall_mem_map, positionals, List.forall_mem_map]
  rw [CommandSchema.plain_usage_iff, name, named fun text => Plain quote.char text.toList]
  exact and_congr_right fun _ => forall₂_congr fun p member =>
    (wellNamed.parameters p member).plain_iff quote

end Emit

/-- The module of a command of a file is its import lines, an empty line, the line of the command, and others.
An import line holds its specifier alone exactly if each character of the specifier stands for itself and the
aliases in the line are quiet. The line of the command holds the usage text alone exactly if each character of
the command's name stands for itself and no parameter is named with an escape. -/
theorem Emit.holdsOnly_iff_of_commandSchema {start final : Session} {file : SourceFile}
    {config : Config} {d : Declaration} {paired : Option PairedOptions} {schema : CommandSchema}
    (reachable : start.project.Reachable) (offers : start.project.Offers (some file) d paired)
    (ends : Step.Ends (Resolve.commandSchema (some file) config d paired) start (.ok schema) final)
    (working : List String) (emit : EmitConfig) (path : String) :
    ((∀ ref ∈ symbols schema, ref.source ∉ "" :: Path.sourceSuffixes) →
      ∃ texts rest,
        moduleText working emit schema path =
          .ok (Text.joined "\n" (texts ++ "" :: commandLine emit.quote schema :: rest) ++ "\n") ∧
        List.Forall₂
          (fun statement text => ∃ specifier,
            Path.specifier working path statement.source = .ok specifier ∧
            statement.text working emit.quote path = .ok text ∧
            (HoldsOnly emit.quote specifier text ↔
              Plain emit.quote.char specifier.toList ∧
                ∀ item ∈ statement.named, Quiet item.exported.toList))
          (importStatements schema) texts) ∧
    (HoldsOnly emit.quote schema.usage (commandLine emit.quote schema) ↔
      Plain emit.quote.char d.displayName.toList ∧ ∀ p ∈ d.parameters, '\\' ∉ p.name.toList) := by
  obtain ⟨reachableFinal, offersStill, hasSymbols, -⟩ :=
    Resolve.ends_commandSchema_of_reachable reachable offers ends
  obtain ⟨name, positionals⟩ := Resolve.names_of_ends_commandSchema ends
  have sound := reachableFinal.sound
  have wellNamed := sound.wellNamed d
    (Project.mem_declared offersStill.placed.1 offersStill.placed.2)
  constructor
  · intro named
    have bound := quiet_bindings hasSymbols.nodup_ids (hasSymbols.quiet_name sound offersStill)
    have imported : importStatements schema ≠ [] := by
      intro none
      have covered := sources_importStatements schema
      rw [none, hasSymbols.symbols_eq, List.map_cons, List.eraseDups_cons] at covered
      contradiction
    obtain ⟨texts, each, text⟩ := @exists_moduleText emit schema working path named imported
    obtain ⟨rest, lines⟩ := lines_constants emit schema
    refine ⟨texts, rest, lines ▸ text, ?_⟩
    refine ((List.forall₂_and_left _ _).mpr ⟨bound, each⟩).imp ?_
    rintro statement text ⟨quietNames, written⟩
    obtain ⟨specifier, led, holds⟩ := ImportStatement.holdsOnly_iff quietNames written
    exact ⟨specifier, led, written, holds⟩
  · refine (holdsOnly_commandLine_iff emit.quote schema).trans ?_
    exact plain_usage_iff_of_names emit.quote wellNamed name positionals

/-- The module of a command with an enum of another file: each import line holds its specifier alone, and the line
of the command holds the usage text alone. -/
theorem Emit.holdsOnly_iff_of_commandSchema_paint :
    ∃ file d paired schema final,
      paintProject.Reachable ∧ paintProject.Offers (some file) d paired ∧
      Step.Ends (Resolve.commandSchema (some file) .usual d paired) ⟨paintProject, []⟩ (.ok schema)
        final ∧
      ∃ texts rest,
        moduleText [] Config.usual.emit schema "out/paint.command.ts" =
          .ok (Text.joined "\n" (texts ++ "" :: commandLine .single schema :: rest) ++ "\n") ∧
        List.Forall₂
          (fun statement text => ∃ specifier,
            Path.specifier [] "out/paint.command.ts" statement.source = .ok specifier ∧
            HoldsOnly .single specifier text)
          (importStatements schema) texts ∧
        schema.usage = "paint <hue>" ∧ HoldsOnly .single schema.usage (commandLine .single schema) ∧
        Plain '\'' d.displayName.toList ∧ ∀ p ∈ d.parameters, '\\' ∉ p.name.toList := by
  obtain ⟨file, d, paired, schema, final, offers, ends, shape⟩ :=
    Resolve.exists_commandSchema paintProject .usual "paint.ts" "paint"
      (fun schema => decide (∀ ref ∈ symbols schema, ref.source ∉ "" :: Path.sourceSuffixes) &&
        ((importStatements schema).all fun statement =>
          (Path.specifier [] "out/paint.command.ts" statement.source).toOption.any
            (fun specifier => decide (Plain '\'' specifier.toList)) &&
          statement.named.all fun item => decide (Quiet item.exported.toList)) &&
        schema.usage == "paint <hue>") (by decide +kernel)
  rw [Bool.and_eq_true, Bool.and_eq_true, decide_eq_true_eq, beq_iff_eq, List.all_eq_true] at shape
  obtain ⟨⟨named, plain⟩, usage⟩ := shape
  obtain ⟨lines, command⟩ :=
    @holdsOnly_iff_of_commandSchema ⟨paintProject, []⟩ final file .usual d paired schema
      reachable_paintProject offers ends [] Config.usual.emit "out/paint.command.ts"
  obtain ⟨texts, rest, text, imports⟩ := lines named
  have holds : HoldsOnly .single schema.usage (commandLine .single schema) :=
    (holdsOnly_commandLine_iff .single schema).mpr (by rw [usage]; decide)
  refine ⟨file, d, paired, schema, final, reachable_paintProject, offers, ends, texts, rest, text, ?_,
    usage, holds, command.mp holds⟩
  refine ((List.forall₂_and_left _ _).mpr ⟨plain, imports⟩).imp ?_
  rintro statement text ⟨clear, specifier, led, -, holds⟩
  rw [Bool.and_eq_true, led, List.all_eq_true] at clear
  refine ⟨specifier, led, holds.mpr ⟨of_decide_eq_true clear.1, fun item member => ?_⟩⟩
  exact of_decide_eq_true (clear.2 item member)

/-- A project of one file with a mark in its stem, whose default export has no name. -/
@[irreducible] def markedProject : Project :=
  .ofTexts [("it's.ts", "export default function(){}")]

theorem reachable_markedProject : markedProject.Reachable := by
  unfold markedProject
  exact Project.reachable_ofTexts _

/-- A function of the file at a path whose schema passes a check is a command, without an options interface. -/
theorem Resolve.exists_commandSchema_of_functions (project : Project) (config : Config) (path : String)
    (check : CommandSchema → Bool)
    (passes : (project.registered? path).any fun file => file.functions.any fun d =>
      ((commandSchema (some file) config d none).run.run ⟨project, []⟩).1.toOption.any check) :
    ∃ file d schema final, project.Offers (some file) d none ∧
      Step.Ends (commandSchema (some file) config d none) ⟨project, []⟩ (.ok schema) final ∧
      check schema := by
  obtain ⟨file, found, builds⟩ := (Option.any_eq_true ..).mp passes
  obtain ⟨d, inFunctions, builds⟩ := List.any_eq_true.mp builds
  obtain ⟨declared, isFunction⟩ := List.mem_filter.mp inFunctions
  obtain ⟨schema, final, ends, holds⟩ := Step.ends_of_check _ _ check builds
  refine ⟨file, d, schema, final, ⟨isFunction, ?_, by simp⟩, ends, holds⟩
  exact ⟨Project.registered?_mem found, declared⟩

/-- A command whose module is written although neither its import line nor the line of the command holds a string
alone: the mark in the stem of its file closes both strings early. -/
theorem Emit.not_holdsOnly_marked :
    ∃ file d schema final,
      markedProject.Reachable ∧ markedProject.Offers (some file) d none ∧
      Step.Ends (Resolve.commandSchema (some file) .usual d none) ⟨markedProject, []⟩ (.ok schema)
        final ∧
      imports [] .single schema "it's.command.ts" = .ok ["import itS from './it's'"] ∧
      ¬HoldsOnly .single "./it's" "import itS from './it's'" ∧
      commandLine .single schema = "export const command = 'it's'" ∧
      ¬HoldsOnly .single schema.usage (commandLine .single schema) := by
  obtain ⟨file, d, schema, final, offers, ends, shape⟩ :=
    Resolve.exists_commandSchema_of_functions markedProject .usual "it's.ts"
      (fun schema => schema.usage == "it's" &&
        (imports [] .single schema "it's.command.ts").toOption == some ["import itS from './it's'"])
      (by decide +kernel)
  rw [Bool.and_eq_true, beq_iff_eq, beq_iff_eq] at shape
  obtain ⟨usage, written⟩ := shape
  have notPlain : ¬Plain '\'' "it's".toList ∧ ¬Plain '\'' "./it's".toList := by decide
  refine ⟨file, d, schema, final, reachable_markedProject, offers, ends, ?_, ?_, ?_, ?_⟩
  · cases outcome : imports [] .single schema "it's.command.ts" with
    | error failure =>
        rw [outcome] at written
        contradiction
    | ok texts =>
        rw [outcome] at written
        exact congrArg Except.ok (Option.some.inj written)
  · intro holds
    have shape : "import itS from './it's'".toList =
        "import itS from ".toList ++ '\'' :: ("./it's".toList ++ ['\'']) := by decide
    exact notPlain.2 ((Script.holdsOnly_iff shape (by decide)).mp holds).2
  · unfold commandLine
    rw [usage]
    decide
  · intro holds
    have plain := (holdsOnly_commandLine_iff .single schema).mp holds
    rw [usage] at plain
    exact notPlain.1 plain

end DeclaredOptions
