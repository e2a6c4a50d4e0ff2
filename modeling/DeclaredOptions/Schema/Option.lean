import DeclaredOptions.Literal.Basic
import DeclaredOptions.Reference

/-!
Contract: the schemas of options and commands.

Owns:
- the settings of one option, in the order they are written, and the rule that exactly one of type and
  choices is set;
- commands with their positionals, options and references, and their usage text.

Does not own: how schemas are derived from declarations or written.
-/

namespace DeclaredOptions

/-- The settings of one positional or named option. -/
structure OptionSchema where
  name : String
  type : Option Literal
  array : Option Literal
  choices : Option (List Literal)
  description : Option Literal
  /-- Another name that the option goes by. -/
  otherName : Option Literal
  default : Option Literal
  demand : Option Literal
  /-- Collects every remaining argument. -/
  variadic : Bool
  deriving DecidableEq, Repr

/-- The value of a setting: a literal or a list of literals. -/
inductive Setting where
  | one (value : Literal)
  | many (values : List Literal)
  deriving DecidableEq, Repr

namespace OptionSchema

/-- An option of which nothing but the name is set. -/
def named (name : String) : OptionSchema :=
  ⟨name, none, none, none, none, none, none, none, false⟩

/-- Accepts settings with exactly one of type and choices, and a list mark only beside a type. -/
def checked (schema : OptionSchema) : Except Failure OptionSchema :=
  if schema.type.isNone == schema.choices.isNone then .error (.typeAndChoices schema.name)
  else if schema.array.isSome && schema.choices.isSome then .error (.listOfChoices schema.name)
  else .ok schema

/-- The settings that are present, in the order they are written. -/
def settings (schema : OptionSchema) : List (String × Setting) :=
  [("type", schema.type.map .one), ("array", schema.array.map .one),
    ("choices", schema.choices.map .many), ("description", schema.description.map .one),
    ("alias", schema.otherName.map .one), ("default", schema.default.map .one),
    ("demandOption", schema.demand.map .one)].filterMap fun (key, value) => value.map (key, ·)

end OptionSchema

structure OptionsSchema where
  name : String
  options : List OptionSchema
  references : ReferenceTable
  deriving Repr

structure CommandSchema where
  name : String
  description : String
  positionals : List OptionSchema
  options : List OptionSchema
  /-- The symbols that choices depend on. -/
  references : ReferenceTable
  /-- The command's own declaration. -/
  command : Option Reference
  deriving Repr

namespace CommandSchema

def positional? (schema : CommandSchema) (name : String) : Option OptionSchema :=
  schema.positionals.find? fun option => option.name == name

def option? (schema : CommandSchema) (name : String) : Option OptionSchema :=
  schema.options.find? fun option => option.name == name

/-- The word for a positional in a usage text: required ones in angle brackets, others in square
ones. -/
def usageWord (positional : OptionSchema) : String :=
  let name := if positional.variadic then positional.name ++ ".." else positional.name
  if positional.demand.isSome then "<" ++ name ++ ">" else "[" ++ name ++ "]"

def usage (schema : CommandSchema) : String :=
  Text.joined " " (schema.name :: schema.positionals.map usageWord)

end CommandSchema

end DeclaredOptions
