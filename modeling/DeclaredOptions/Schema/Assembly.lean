import DeclaredOptions.Schema.Members

/-!
Contract: the schemas of commands, put together from functions and options interfaces.

Owns:
- positionals and options in order, with the references of both in one table;
- the refusal of names that positionals and options share, and of identifiers with two meanings;
- the interface that goes with a function, and the commands of a file.

Does not own: how schemas are written.
-/

namespace DeclaredOptions

/-- The names of positionals that options have too, in order. -/
def sharedNames (positionals options : List String) : List String :=
  positionals.filter options.contains

def checkNames (positionals options : List String) : Except Failure Unit :=
  match sharedNames positionals options with
  | [] => .ok ()
  | names => .error (.conflict (.shared names))

/-- The first symbol with the name of an earlier one of another declaration, after that one. The latest
symbol of a name counts as the earlier one. -/
def clashAmong? (seen : List Reference) : List Reference → Option (Reference × Reference)
  | [] => none
  | ref :: rest =>
    match seen.find? fun other => other.name == ref.name with
    | some other => if other.same ref then clashAmong? (ref :: seen) rest else some (other, ref)
    | none => clashAmong? (ref :: seen) rest

/-- Refuses an identifier that would be imported for two declarations. -/
def checkSymbols (command : Option Reference) (table : ReferenceTable) : Except Failure Unit :=
  match clashAmong? [] (command.toList ++ table.toList) with
  | none => .ok ()
  | some (first, second) =>
    .error (.conflict
      (.ambiguous second.name first.declaration.describe second.declaration.describe))

def commandDescription (d : Declaration) : String := summaryOf d.doc

/-- A name with its first character in upper case, and the ending of options interfaces. -/
def pairedName (name : String) : String :=
  String.ofList (Text.capitalized name.toList) ++ "Options"

/-- The options interface of a function: the one named after it, or else the one a configuration
names. -/
def pairedOptions? (file : Option SourceFile) (d : Declaration) (config : Config) :
    Option Declaration :=
  match file with
  | none => none
  | some file =>
    let own := (present d.name).bind fun name => file.interface? (pairedName name)
    let usual :=
      match config.resolve.optionsInterface with
      | .text name => file.interface? name
      | _ => none
    own.or usual

/-- An interface whose properties are a command's options, with the file it stands in if there is one. -/
structure PairedOptions where
  file : Option SourceFile
  interface : Declaration
  deriving Repr

namespace Resolve

/-- Schemas of members in order, and the table of their references. -/
def collect {α : Type} (one : α → Resolve (OptionSchema × Option Reference))
    (table : ReferenceTable) : List α → Resolve (List OptionSchema × ReferenceTable)
  | [] => pure ([], table)
  | member :: rest => do
    let (schema, ref) ← one member
    let table ← ofExcept (table.add ref)
    let (more, table) ← collect one table rest
    pure (schema :: more, table)

def optionsSchema (file : Option SourceFile) (config : Config) (d : Declaration) :
    Resolve OptionsSchema := do
  let (options, table) ←
    collect (option file config.resolve.demandTags) .empty d.properties
  pure ⟨d.name.getD "", options, table.freeze⟩

/-- The options of an interface if there is one, and a table with their references added. -/
def pairedSchema (config : Config) (table : ReferenceTable) :
    Option PairedOptions → Resolve (List OptionSchema × ReferenceTable)
  | none => pure ([], table)
  | some paired => do
    let schema ← optionsSchema paired.file config paired.interface
    let table ← ofExcept (table.merge schema.references)
    pure (schema.options, table)

/-- The command of a function, with the options of an interface if there is one. -/
def commandSchema (file : Option SourceFile) (config : Config) (d : Declaration)
    (paired : Option PairedOptions) : Resolve CommandSchema := do
  let (positionals, table) ← collect (positional ⟨file, some d⟩) .empty d.parameters
  let (options, table) ← pairedSchema config table paired
  ofExcept (checkNames (positionals.map (·.name)) (options.map (·.name)))
  let command := Reference.toCommand d
  ofExcept (checkSymbols (some command) table)
  pure ⟨d.displayName, commandDescription d, positionals, options, table.freeze, some command⟩

/-- The exported functions of a file, the default export first. -/
def exportedFunctions (file : SourceFile) : List Declaration :=
  let functions := file.functions
  functions.filter (·.exportKind == .asDefault) ++ functions.filter (·.exportKind == .named)

/-- The commands of a file: one for each exported function. -/
def commandSchemas (file : SourceFile) (config : Config) : Resolve (List CommandSchema) :=
  (exportedFunctions file).mapM fun d =>
    let paired := pairedOptions? (some file) d config
    commandSchema (some file) config d (paired.map fun interface => ⟨some file, interface⟩)

end Resolve

end DeclaredOptions
