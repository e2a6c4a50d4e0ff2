import DeclaredOptions.Source.Reading

/-!
Contract: the declarations of a file, collected from its statements.

Owns:
- types and members as declarations hold them;
- the numbering of declarations, and the merging of a function's later forms into its first;
- the effect of exports that stand apart from what they export.

Does not own: the reading of the statements.
-/

namespace DeclaredOptions

open Source
open TypeExpr (Joint)

/-! ## Types -/

/-- Whether a written type is a row of types beside a joint. -/
def TypeExpr.Joint.isRow : Joint → TypeSyntax → Bool
  | .bar, .union _ => true
  | .ampersand, .intersection _ => true
  | _, _ => false

mutual

def TypeExpr.ofSyntax : TypeSyntax → TypeExpr
  | .name text => .ref text []
  | .generic name args => .ref name (TypeExpr.ofSyntaxAll args)
  | .array element => .array (TypeExpr.ofSyntax element)
  | .union sides => TypeExpr.joinedAs Joint.bar.join (TypeExpr.sideMembers .bar sides)
  | .intersection sides =>
    TypeExpr.joinedAs Joint.ampersand.join (TypeExpr.sideMembers .ampersand sides)
  | .wrapped type => TypeExpr.ofSyntax type
  | .literal text => .literal text
  | .other text => .other text

def TypeExpr.ofSyntaxAll : List TypeSyntax → List TypeExpr
  | [] => []
  | type :: rest => TypeExpr.ofSyntax type :: TypeExpr.ofSyntaxAll rest

/-- The members that the sides of a joint give to the join; a row by the same joint directly on a side gives its
own. -/
def TypeExpr.sideMembers (joint : Joint) : List TypeSyntax → List TypeExpr
  | [] => []
  | side :: rest =>
    let type := TypeExpr.ofSyntax side
    let own := if joint.isRow side then (joint.members? type).getD [type] else [type]
    own ++ TypeExpr.sideMembers joint rest

/-- A join of types; a single one stands for itself. -/
def TypeExpr.joinedAs (join : List TypeExpr → TypeExpr) (types : List TypeExpr) : TypeExpr :=
  match types with
  | [one] => one
  | types => join types

end

/-! ## Members -/

/-- What is wrong with a parameter that binds no single name. -/
def patternFault : String := "Destructured parameters cannot be used as positionals"

/-- The parameters of a function in a file; the receiver is none, and a pattern is refused. -/
def Parameter.ofSyntaxAll (path : String) : List ParameterSyntax → Except Failure (List Parameter)
  | [] => .ok []
  | p :: rest =>
    match p.binding with
    | .receiver => Parameter.ofSyntaxAll path rest
    | .pattern => .error (.sourceFault path (p.place.row + 1) (p.place.column + 1) patternFault)
    | .name text => do
      let first : Parameter :=
        ⟨text, p.type.map .ofSyntax, p.optional, p.initializer, p.rest, p.place.row + 1⟩
      let more ← Parameter.ofSyntaxAll path rest
      pure (first :: more)

def Property.ofSyntax (p : PropertySyntax) : Property :=
  ⟨unquoted p.name, p.type.map .ofSyntax, p.optional, p.doc, p.line⟩

def EnumMember.ofSyntax (m : EnumMemberSyntax) : EnumMember :=
  ⟨unquoted m.name, m.initializer, m.doc, m.line⟩

/-! ## Declarations -/

namespace Declaration

/-- A later form of a function gives its documentation and its export to the first, where the first has
none. -/
def absorb (first : Declaration) (doc : Option DocBlock) (kind : ExportKind) : Declaration :=
  { first with
    doc := first.doc.or doc
    exportKind := if first.exportKind == .none then kind else first.exportKind }

/-- Lets a list absorb a later form of a named function, if it has an earlier one. -/
def absorbInto? (name : String) (doc : Option DocBlock) (kind : ExportKind) :
    List Declaration → Option (List Declaration)
  | [] => none
  | d :: rest =>
    if d.isFunction && d.name == some name then some (d.absorb doc kind :: rest)
    else (absorbInto? name doc kind rest).map (d :: ·)

/-- A list after one more declaration of a file; `next` is the number it takes if it is new. -/
def add (path : String) (next : Nat) (doc : Option DocBlock) (kind : ExportKind)
    (declared : List Declaration) : DeclarationSyntax → Except Failure (List Declaration)
  | .function form =>
    match form.name.bind fun name => absorbInto? name doc kind declared with
    | some merged => .ok merged
    | none => do
      let parameters ← Parameter.ofSyntaxAll path form.parameters
      pure (declared ++
        [⟨form.name, doc, kind, none, next, form.line, some path, .function parameters⟩])
  | .interface name properties line =>
    .ok (declared ++ [⟨some name, doc, kind, none, next, line, some path,
      .interface (properties.map .ofSyntax)⟩])
  | .enumeration name isConst members line =>
    .ok (declared ++ [⟨some name, doc, kind, none, next, line, some path,
      .enumeration isConst (members.map .ofSyntax)⟩])

/-- The declarations of statements, numbered from `first` on after the ones there are. A refusal comes
with the number of declarations before it. -/
def collectFrom (path : String) (first : Nat) (declared : List Declaration) :
    List Statement → Except (Failure × Nat) (List Declaration)
  | [] => .ok declared
  | .declaring doc kind d :: rest =>
    match add path (first + declared.length) doc kind declared d with
    | .ok declared => collectFrom path first declared rest
    | .error failure => .error (failure, declared.length)
  | _ :: rest => collectFrom path first declared rest

/-! ## Exports that stand apart -/

/-- The pairs of names that a statement exports, with the name each is exported by. -/
def exportPairs : Statement → List (String × String)
  | .exportingDefault name => [(name, "default")]
  | .exportingNames pairs => pairs
  | _ => []

/-- The name that the last default export names. -/
def defaultName? (statements : List Statement) : Option String :=
  ((statements.flatMap exportPairs).filter fun pair => pair.2 == "default").getLast?.map (·.1)

/-- The names exported by clauses, other than as the default. -/
def namedPairs (statements : List Statement) : List (String × String) :=
  (statements.flatMap exportPairs).filter fun pair => pair.2 != "default"

/-- A declaration with the exports that name it: the default one wins, and the first named one counts if
there is no export yet. -/
def withExports (default? : Option String) (pairs : List (String × String)) (d : Declaration) :
    Declaration :=
  match d.name with
  | none => d
  | some name =>
    if default? == some name then { d with exportKind := .asDefault }
    else if d.exportKind != .none then d
    else
      match pairs.find? fun pair => pair.1 == name with
      | some (_, exported) =>
        { d with
          exportKind := .named
          exportName := if exported == name then d.exportName else some exported }
      | none => d

end Declaration

def importsOf (statements : List Statement) : List Import :=
  statements.filterMap fun
    | .importing clause => some clause
    | _ => none

/-- The file that statements form, its declarations numbered from `first` on. A refusal comes with the
number of declarations before it. -/
def SourceFile.ofStatements (path : String) (first : Nat) (statements : List Statement) :
    Except (Failure × Nat) SourceFile := do
  let declared ← Declaration.collectFrom path first [] statements
  let default? := Declaration.defaultName? statements
  let pairs := Declaration.namedPairs statements
  pure ⟨path, declared.map (Declaration.withExports default? pairs), importsOf statements⟩

/-- The file that a source text forms, its declarations numbered from `first` on. -/
def SourceFile.ofText (path text : String) (first : Nat) : Except (Failure × Nat) SourceFile :=
  match Source.read path text with
  | .ok statements => SourceFile.ofStatements path first statements
  | .error failure => .error (failure, 0)

end DeclaredOptions
