import DeclaredOptions.Project
import DeclaredOptions.Reference
import DeclaredOptions.Schema.Descriptor
import DeclaredOptions.Similarity

/-!
Contract: which descriptor the declared type of a member resolves to.

Owns:
- scalars, lists of scalars and enums, with what may be left out of unions;
- the values of enum members;
- suggestions for unknown types, and warnings about enums that cannot be imported.

Does not own: documentation tags.
-/

namespace DeclaredOptions

/-- An enum that is used but not exported, with the path of its file. -/
structure UnexportedEnum where
  name : String
  path : String
  deriving DecidableEq, Repr

/-- The wording of a warning about an enum that is not exported. -/
def UnexportedEnum.message (warning : UnexportedEnum) : String :=
  "enum " ++ quotedName warning.name ++ " (" ++ warning.path
    ++ ") is not exported; the generated import will not resolve."

/-- What resolution works on and leaves behind. -/
structure Session where
  project : Project
  warnings : List UnexportedEnum
  deriving Repr

/-- A step of resolution: it may fail, and keeps its warnings all the same. -/
abbrev Resolve (α : Type) := ExceptT Failure (StateM Session) α

namespace Resolve

def onProject {α : Type} (step : ProjectStep α) : Resolve α := do
  let session ← get
  let (result, project) := step.run.run session.project
  set { session with project := project }
  match result with
  | .ok value => pure value
  | .error failure => throw failure

def warn (warning : UnexportedEnum) : Resolve Unit :=
  modify fun session => { session with warnings := session.warnings ++ [warning] }

end Resolve

namespace TypeExpr

/-- Whether a type stands for no value. -/
def isNullish : TypeExpr → Bool
  | .ref name _ => name == "undefined" || name == "null"
  | _ => false

/-- A type without the alternatives of a union that stand for no value, unless all do. -/
def withoutNullish : TypeExpr → TypeExpr
  | .union types =>
    match types.filter fun type => !type.isNullish with
    | [] => .union types
    | [one] => one
    | rest => .union rest
  | type => type

def scalar? (type : TypeExpr) : Option Scalar :=
  match type.withoutNullish with
  | .ref name [] => Scalar.ofName? name
  | _ => none

/-- The element type of an array in either form. -/
def element? : TypeExpr → Option TypeExpr
  | .array element => some element
  | .ref "Array" [element] => some element
  | _ => none

end TypeExpr

/-! ## Enums -/

namespace Literal

def ofWhole (n : Int) : Except Failure Literal :=
  match Number.wholeText? n with
  | some source => .ok (.number source)
  | none => .error (.wrongValue .longNumber)

/-- The number after that of a literal, if it is a whole number. -/
def next : Literal → Except Failure (Option Int)
  | .number source => do
    match ← numberValue source with
    | .whole n => pure (some (n + 1))
    | .real _ => pure none
  | _ => .ok none

end Literal

namespace EnumMember

/-- The literal of a member, where `following` is the number that one without an initializer takes. -/
def literal? (member : EnumMember) (following : Option Int) : Except Failure (Option Literal) :=
  match member.initializer with
  | some text => (Literal.parseValue text).mapError .tag
  | none => following.mapM Literal.ofWhole

/-- The literal of a member, and the number after it. -/
def value? (member : EnumMember) (following : Option Int) :
    Except Failure (Option (Literal × Option Int)) := do
  (← member.literal? following).mapM fun literal => do pure (literal, ← literal.next)

/-- The values of members, or nothing if one is computed. -/
def valuesFrom (following : Option Int) : List EnumMember → Except Failure (Option (List Literal))
  | [] => .ok (some [])
  | member :: rest => do
    match ← member.value? following with
    | none => pure none
    | some (literal, next) =>
      let more ← valuesFrom next rest
      pure (more.map (literal :: ·))

/-- The values of an enum's members: those without one count on from the member before, or from zero. -/
def values (members : List EnumMember) : Except Failure (Option (List Literal)) :=
  valuesFrom (some 0) members

def path (enum : String) (member : EnumMember) : Except TagRefusal (List String) := do
  match ← Literal.qualifiedName [enum, member.name] with
  | .path parts => pure parts
  | _ => pure []

end EnumMember

namespace Resolve

/-- A result that does not depend on the session. -/
def ofExcept {α : Type} (result : Except Failure α) : Resolve α :=
  match result with
  | .ok value => pure value
  | .error failure => throw failure

/-- Turns a refused text into a failure. -/
def ofTag {α : Type} (result : Except TagRefusal α) : Resolve α :=
  match result with
  | .ok value => pure value
  | .error refusal => throw (.tag refusal)

/-- The reference to an enum; one that is not exported is warned about. -/
def enumReference (d : Declaration) : Resolve Reference := do
  if d.exportKind == .none then warn ⟨d.name.getD "", d.source.getD ""⟩
  pure (.toEnum d)

/-- The choice of an enum's members, with the reference to it. -/
def enumChoice (d : Declaration) : Resolve (Descriptor × Reference) := do
  let members ← ofTag (d.enumMembers.mapM (EnumMember.path (d.name.getD "")))
  let values ← ofExcept (EnumMember.values d.enumMembers)
  let ref ← enumReference d
  pure (.choice members values, ref)

def enum? (scope : Option SourceFile) (type : TypeExpr) : Resolve (Option Declaration) := do
  match scope, type with
  | some file, .ref name [] =>
    if name.toList.contains '.' then pure none
    else
      let found ← onProject (Project.type? file name)
      pure (found.filter (·.isEnum))
  | _, _ => pure none

/-- Names like that of an unknown type. -/
def suggestions (scope : Option SourceFile) (type : TypeExpr) : List String :=
  match type with
  | .ref name _ =>
    let visible := (scope.map Project.visibleNames).getD []
    Similarity.suggest name (Scalar.all.map Scalar.name ++ visible) Similarity.usualLeast
      Similarity.usualMost
  | _ => []

/-- The descriptor of a member's declared type, seen from a file, with a reference if it is an enum. -/
def typeOf (scope : Option SourceFile) (context : MemberContext) (member : String)
    (declared : Option TypeExpr) : Resolve (Descriptor × Option Reference) := do
  match declared.map TypeExpr.withoutNullish with
  | none => pure (.scalar .text, none)
  | some type =>
    if type matches .ref "any" [] | .ref "unknown" [] then pure (.scalar .text, none)
    else
      match type.scalar?, type.element? with
      | some s, _ => pure (.scalar s, none)
      | none, some element =>
        match element.scalar? with
        | some s => pure (.list s, none)
        | none => throw (.unsupportedElement context element.shown (some member))
      | none, none =>
        match ← enum? scope type with
        | some d => do
          let (descriptor, ref) ← enumChoice d
          pure (descriptor, some ref)
        | none => throw (.unsupportedType context type.shown (suggestions scope type))

end Resolve

end DeclaredOptions
