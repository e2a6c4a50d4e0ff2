import DeclaredOptions.Config
import DeclaredOptions.Path
import DeclaredOptions.Schema.Option

/-!
Contract: the text of the module that is written for a command.

Owns:
- property keys, object literals and the tables of positionals and options;
- the import statements, one for each file;
- the handler that calls the command, and the constants that a module exports.

Does not own: where modules are written.
-/

namespace DeclaredOptions

namespace Emit

/-- Whether a name can stand without quotes: a name start, then name characters, with a line feed at the
end let pass. -/
def isBareKey (name : List Char) : Bool :=
  match name with
  | [] => false
  | first :: rest =>
    let rest := if rest.getLast? == some '\n' then rest.dropLast else rest
    Text.isNameStart first && rest.all Text.isNamePart

/-- A name as a property key: bare if it can be, and quoted with its backslashes and quotes escaped
otherwise. -/
def propertyKey (quote : QuoteMark) (name : String) : String :=
  if isBareKey name.toList then name
  else
    let escape (c : Char) := if c == '\\' || c == quote.char then ['\\', c] else [c]
    String.ofList (quote.char :: name.toList.flatMap escape ++ [quote.char])

def settingSource (quote : QuoteMark) : Setting → String
  | .one value => value.toSource quote
  | .many values => "[" ++ Text.joined ", " (values.map (·.toSource quote)) ++ "]"

def optionSource (quote : QuoteMark) (schema : OptionSchema) : String :=
  let field (key : String) (value : Setting) := key ++ ": " ++ settingSource quote value
  "\x7b " ++ Text.joined ", " (schema.settings.map fun (key, value) => field key value) ++ " \x7d"

end Emit

/-- A constant that a module exports: its name, the first line of its value, and the lines after that. -/
structure ExportedConstant where
  name : String
  first : String
  more : List String
  deriving DecidableEq, Repr

def ExportedConstant.lines (constant : ExportedConstant) : List String :=
  ("export const " ++ constant.name ++ " = " ++ constant.first) :: constant.more

namespace Emit

def table (config : EmitConfig) (name : String) (schemas : List OptionSchema) : ExportedConstant :=
  if schemas.isEmpty then ⟨name, "\x7b\x7d", []⟩
  else
    let pad := String.ofList (List.replicate config.indent.toNat ' ')
    let line (schema : OptionSchema) :=
      pad ++ propertyKey config.quote schema.name ++ ": " ++ optionSource config.quote schema ++ ","
    ⟨name, "\x7b", schemas.map line ++ ["\x7d"]⟩

/-! ## Imports -/

/-- References without those to a declaration that comes before, in order. -/
def distinct (refs : List Reference) : List Reference :=
  refs.foldl (fun kept ref => if kept.any (·.same ref) then kept else kept ++ [ref]) []

/-- References grouped by file, in the order in which files come first, and no declaration twice in one
file. -/
def groupReferences (refs : List Reference) : List (String × List Reference) :=
  let sources := (refs.map (·.source)).eraseDups
  sources.map fun source => (source, distinct (refs.filter (·.source == source)))

/-- All symbols of a command: its own reference, then those of its table. -/
def symbols (schema : CommandSchema) : List Reference :=
  schema.command.toList ++ schema.references.toList

end Emit

/-- A named import: the exported name and the name it is bound to. -/
structure NamedImport where
  exported : String
  name : String
  deriving DecidableEq, Repr

/-- An import statement: the source it leads to, the name that the default export is bound to, and the named
exports. -/
structure ImportStatement where
  source : String
  default? : Option String
  named : List NamedImport
  deriving DecidableEq, Repr

namespace NamedImport

def ofReference (ref : Reference) : NamedImport := ⟨(present ref.importedName).getD ref.name, ref.name⟩

/-- The text of a named import: an export is only renamed if the names differ. -/
def text (item : NamedImport) : String :=
  if item.exported == item.name then item.name else item.exported ++ " as " ++ item.name

end NamedImport

namespace ImportStatement

/-- The import of references from one file: the first default one, and all named ones. -/
def ofReferences (source : String) (refs : List Reference) : ImportStatement :=
  ⟨source, (refs.find? (·.isDefault)).map (·.name),
    (refs.filter (!·.isDefault)).map NamedImport.ofReference⟩

/-- The parts of an import clause: the default name, then the named ones in braces. -/
def clauses (statement : ImportStatement) : List String :=
  let named := statement.named.map (·.text)
  statement.default?.toList ++
    (if named.isEmpty then [] else ["\x7b " ++ Text.joined ", " named ++ " \x7d"])

def text (working : List String) (quote : QuoteMark) (path : String) (statement : ImportStatement) :
    Except Failure String := do
  let specifier ← Path.specifier working path statement.source
  let mark := String.ofList [quote.char]
  pure ("import " ++ Text.joined ", " statement.clauses ++ " from " ++ mark ++ specifier ++ mark)

end ImportStatement

namespace Emit

/-- The import statements of a command's module, one for each file. -/
def importStatements (schema : CommandSchema) : List ImportStatement :=
  (groupReferences (symbols schema)).map fun (source, refs) => .ofReferences source refs

def imports (working : List String) (quote : QuoteMark) (schema : CommandSchema) (path : String) :
    Except Failure (List String) :=
  (importStatements schema).mapM (·.text working quote path)

/-! ## Handlers -/

/-- The name that handlers give to the arguments of a call. -/
def argumentsName : String := "argv"

def argumentAccess (quote : QuoteMark) (name : String) : String :=
  if isBareKey name.toList then argumentsName ++ "." ++ name
  else argumentsName ++ "[" ++ propertyKey quote name ++ "]"

end Emit

/-- A function that passes its only parameter on in one call. -/
structure Handler where
  parameter : String
  callee : String
  arguments : List String
  deriving DecidableEq, Repr

def Handler.text (handler : Handler) : String :=
  "(" ++ handler.parameter ++ ") => " ++ handler.callee ++ "("
    ++ Text.joined ", " handler.arguments ++ ")"

namespace Emit

/-- The handler that calls a command with its positionals, and with all arguments if it has options. -/
def handler? (quote : QuoteMark) (schema : CommandSchema) : Option Handler :=
  schema.command.map fun command =>
    let positional (p : OptionSchema) :=
      (if p.variadic then "..." else "") ++ argumentAccess quote p.name
    ⟨argumentsName, command.name, schema.positionals.map positional
      ++ (if schema.options.isEmpty then [] else [argumentsName])⟩

/-! ## Modules -/

def constants (config : EmitConfig) (schema : CommandSchema) : List ExportedConstant :=
  let mark := String.ofList [config.quote.char]
  [⟨"command", mark ++ schema.usage ++ mark, []⟩,
    ⟨"describe", (Literal.text schema.description).toSource config.quote, []⟩,
    table config "positionals" schema.positionals, table config "options" schema.options]
    ++ ((handler? config.quote schema).map fun handler => ⟨"handler", handler.text, []⟩).toList

def moduleLines (working : List String) (config : EmitConfig) (schema : CommandSchema)
    (path : String) : Except Failure (List String) := do
  let imports ← imports working config.quote schema path
  pure (imports ++ (if imports.isEmpty then [] else [""])
    ++ (constants config schema).flatMap (·.lines))

def moduleText (working : List String) (config : EmitConfig) (schema : CommandSchema)
    (path : String) : Except Failure String := do
  let lines ← moduleLines working config schema path
  pure (Text.joined "\n" lines ++ "\n")

def moduleEnding : String := ".command.ts"

end Emit

end DeclaredOptions
