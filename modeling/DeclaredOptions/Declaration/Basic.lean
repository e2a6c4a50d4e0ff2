import DeclaredOptions.Declaration.TypeExpr
import DeclaredOptions.Doc.Block
import DeclaredOptions.Failure
import DeclaredOptions.Path
import DeclaredOptions.Text.Identifier

/-!
Contract: declarations, their members and the files that hold them.

Owns:
- functions with parameters, interfaces with properties, enums with members, and imports;
- how a declaration is exported and by which name it is shown, imported and bound;
- look-up by name in one file.

Does not own: reading source texts, and look-up across files.
-/

namespace DeclaredOptions

inductive ExportKind where
  | asDefault
  | named
  | none
  deriving DecidableEq, Repr

def ExportKind.word : ExportKind → String
  | .asDefault => "default"
  | .named => "named"
  | .none => "none"

/-- A parameter of a function: one positional of a command. -/
structure Parameter where
  name : String
  type : Option TypeExpr
  /-- Marked with a question mark. -/
  optional : Bool
  /-- The source text of the default value. -/
  initializer : Option String
  /-- Collects every remaining argument. -/
  rest : Bool
  line : Nat
  deriving Repr

def Parameter.isOptional (parameter : Parameter) : Bool :=
  parameter.optional || parameter.rest || parameter.initializer.isSome

structure Property where
  name : String
  type : Option TypeExpr
  optional : Bool
  doc : Option DocBlock
  line : Nat
  deriving Repr

/-- A member of an enum with the source text of its value. -/
structure EnumMember where
  name : String
  initializer : Option String
  doc : Option DocBlock
  line : Nat
  deriving Repr

inductive DeclarationBody where
  | function (parameters : List Parameter)
  | interface (properties : List Property)
  | enumeration (isConst : Bool) (members : List EnumMember)
  deriving Repr

/-- A declaration of a file. Its number is unique in its project; `source` is the path of its file, and a
declaration made outside any file has none. -/
structure Declaration where
  name : Option String
  doc : Option DocBlock
  exportKind : ExportKind
  /-- The alias of an export clause, when it differs from the name. -/
  exportName : Option String
  id : Nat
  line : Nat
  source : Option String
  body : DeclarationBody
  deriving Repr

/-- An import of a file: the pairs of `named` are imported names with their local ones. -/
structure Import where
  module : String
  defaultName : Option String
  named : List (String × String)
  wholeName : Option String
  line : Nat
  deriving DecidableEq, Repr

/-- A file of declarations; the declarations stand in the order of their numbers. -/
structure SourceFile where
  path : String
  declarations : List Declaration
  imports : List Import
  deriving Repr

/-- A name that is there and not empty. -/
def present (name : Option String) : Option String := name.filter fun text => !text.isEmpty

namespace Declaration

def kind (d : Declaration) : String :=
  match d.body with
  | .function _ => "function"
  | .interface _ => "interface"
  | .enumeration .. => "enum"

def isFunction (d : Declaration) : Bool := d.body matches .function _

def isInterface (d : Declaration) : Bool := d.body matches .interface _

def isEnum (d : Declaration) : Bool := d.body matches .enumeration ..

/-- The parameters of a function; other declarations have none. -/
def parameters (d : Declaration) : List Parameter :=
  match d.body with
  | .function parameters => parameters
  | _ => []

/-- The properties of an interface; other declarations have none. -/
def properties (d : Declaration) : List Property :=
  match d.body with
  | .interface properties => properties
  | _ => []

/-- The members of an enum; other declarations have none. -/
def enumMembers (d : Declaration) : List EnumMember :=
  match d.body with
  | .enumeration _ members => members
  | _ => []

/-- The name a declaration is shown by: an anonymous one takes the stem of its file. -/
def displayName (d : Declaration) : String :=
  match present d.name, d.source with
  | some name, _ => name
  | none, some path => Path.stem path
  | none, none => "<anonymous>"

/-- The name other files import a declaration by. -/
def exportedName (d : Declaration) : Option String := (present d.exportName).or d.name

/-- The identifier that a generated module binds a declaration to. -/
def bindingName (d : Declaration) : String :=
  (present d.name).getD (Text.identifier d.displayName)

def describe (d : Declaration) : String :=
  let place :=
    match d.source with
    | some path => path ++ ":" ++ Number.naturalText d.line
    | none => "line " ++ Number.naturalText d.line
  d.kind ++ " " ++ quotedName d.displayName ++ " at " ++ place

end Declaration

namespace SourceFile

def functions (file : SourceFile) : List Declaration := file.declarations.filter (·.isFunction)

def interfaces (file : SourceFile) : List Declaration := file.declarations.filter (·.isInterface)

def enums (file : SourceFile) : List Declaration := file.declarations.filter (·.isEnum)

def defaultExport? (file : SourceFile) : Option Declaration :=
  file.declarations.find? fun d => d.exportKind == .asDefault

def interface? (file : SourceFile) (name : String) : Option Declaration :=
  file.interfaces.find? fun d => d.name == some name

def enum? (file : SourceFile) (name : String) : Option Declaration :=
  file.enums.find? fun d => d.name == some name

/-- The type that a file declares under a name: enums come before interfaces. -/
def type? (file : SourceFile) (name : String) : Option Declaration :=
  (file.enum? name).or (file.interface? name)

def exported? (file : SourceFile) (name : String) : Option Declaration :=
  file.declarations.find? fun d => d.exportedName == some name && d.exportKind != .none

end SourceFile

end DeclaredOptions
