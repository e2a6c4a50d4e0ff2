import DeclaredOptions.Declaration.Basic
import DeclaredOptions.Source.Fault

/-!
Contract: the statements of a declaration source, as far as declarations depend on them.

Owns:
- types as they nest in the source, parameters, properties and enum members;
- the forms of functions, interfaces and enums;
- the statements that declare, import or export.

Does not own: statements of other kinds and the bodies of functions, of which nothing is kept.
-/

namespace DeclaredOptions.Source

inductive TypeSyntax where
  /-- A name without arguments, dots included and blanks left out. -/
  | name (text : String)
  | generic (name : String) (args : List TypeSyntax)
  | array (element : TypeSyntax)
  /-- One bar and the types on its sides; a leading bar has one side. -/
  | union (sides : List TypeSyntax)
  | intersection (sides : List TypeSyntax)
  /-- Parentheses or a `readonly` mark around a type. -/
  | wrapped (inner : TypeSyntax)
  | literal (text : String)
  | other (text : String)
  deriving Repr

inductive Binding where
  | name (text : String)
  /-- The `this` of the function. -/
  | receiver
  /-- Anything but a single name. -/
  | pattern
  deriving DecidableEq, Repr

/-- A parameter as it is written; the place is that of what it binds. -/
structure ParameterSyntax where
  binding : Binding
  place : SourcePlace
  optional : Bool
  rest : Bool
  type : Option TypeSyntax
  initializer : Option String
  deriving Repr

/-- A property of an interface as it is written; the name keeps its quotes. -/
structure PropertySyntax where
  name : String
  optional : Bool
  type : Option TypeSyntax
  doc : Option DocBlock
  line : Nat
  deriving Repr

/-- A member of an enum as it is written; the name keeps its quotes. -/
structure EnumMemberSyntax where
  name : String
  initializer : Option String
  doc : Option DocBlock
  line : Nat
  deriving Repr

/-- A function form: a declaration, a signature without body, or an anonymous function. -/
structure FunctionSyntax where
  name : Option String
  parameters : List ParameterSyntax
  line : Nat
  deriving Repr

inductive DeclarationSyntax where
  | function (form : FunctionSyntax)
  | interface (name : String) (properties : List PropertySyntax) (line : Nat)
  | enumeration (name : String) (isConst : Bool) (members : List EnumMemberSyntax) (line : Nat)
  deriving Repr

inductive Statement where
  | importing (clause : Import)
  | declaring (doc : Option DocBlock) (kind : ExportKind) (declaration : DeclarationSyntax)
  /-- A name that becomes the default export. -/
  | exportingDefault (name : String)
  /-- Names of the file with the names they are exported by. -/
  | exportingNames (pairs : List (String × String))
  /-- Any other statement, re-exports included. -/
  | other
  deriving Repr

/-- A name without its quotes, which are of any of the three kinds. -/
def unquoted (text : String) : String :=
  match text.toList with
  | first :: rest =>
    if (first == '\'' || first == '"' || first == '\x60') && rest.getLast? == some first then
      String.ofList rest.dropLast
    else text
  | [] => text

end DeclaredOptions.Source
