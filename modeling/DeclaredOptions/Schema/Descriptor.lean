import DeclaredOptions.Literal.Reading

/-!
Contract: the shapes of values that an option may take.

Owns: scalars, lists of scalars and closed choices, and which default fits which of them.

Does not own: the types that descriptors are resolved from.
-/

namespace DeclaredOptions

inductive Scalar where
  | text
  | number
  | truth
  deriving DecidableEq, Repr

def Scalar.name : Scalar → String
  | .text => "string"
  | .number => "number"
  | .truth => "boolean"

/-- All scalars, in the order they are suggested. -/
def Scalar.all : List Scalar := [.text, .number, .truth]

def Scalar.ofName? (name : String) : Option Scalar := Scalar.all.find? fun s => s.name == name

/-- What an option takes: a scalar, a list of scalars, or one of the members of an enum, given by their
paths and, where all are plain literals, by their values. -/
inductive Descriptor where
  | scalar (s : Scalar)
  | list (element : Scalar)
  | choice (members : List (List String)) (values : Option (List Literal))
  deriving Repr

def Scalar.accepts : Scalar → Literal → Bool
  | .text, .text _ => true
  | .number, .number _ => true
  | .truth, .truth _ => true
  | _, _ => false

namespace Literal

def sameKind : Literal → Literal → Bool
  | .text _, .text _ => true
  | .number _, .number _ => true
  | .truth _, .truth _ => true
  | .path _, .path _ => true
  | _, _ => false

def refuseDefault (text reason : String) : Except Failure Literal :=
  .error (.tag ⟨text, reason, some "default"⟩)

/-- Whether a literal has the value of one of the given literals of its kind. -/
def isAmong (literal : Literal) (values : List Literal) : Except Failure Bool := do
  let alike ← (values.filter literal.sameKind).mapM toData
  let own ← literal.toData
  pure (alike.any own.same)

/-- A default that fits a descriptor. Of a choice, a path has to be a member, and a text or number a
value, where the values are known. -/
def fitting (literal : Literal) (descriptor : Descriptor) (text : String) :
    Except Failure Literal :=
  match descriptor with
  | .choice members values =>
    match literal, values with
    | .path parts, _ =>
      if members.contains parts then .ok literal
      else refuseDefault text "not one of the declared choices"
    | .truth _, _ => .ok literal
    | _, none => .ok literal
    | _, some values => do
      if ← literal.isAmong values then pure literal
      else refuseDefault text "not one of the declared choice values"
  | .scalar s | .list s =>
    if s.accepts literal then .ok literal
    else refuseDefault text ("expected a " ++ s.name ++ " literal")

end Literal

end DeclaredOptions
