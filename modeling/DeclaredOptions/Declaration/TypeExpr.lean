import DeclaredOptions.Text.Cut

/-!
Contract: type expressions of annotations and the text they are shown by.

Owns: named and generic types, arrays, unions, intersections, literal types, and types kept as text.

Does not own: which types an option may have.
-/

namespace DeclaredOptions

inductive TypeExpr where
  /-- A named type, possibly with type arguments. -/
  | ref (name : String) (args : List TypeExpr)
  /-- The postfix array form. -/
  | array (element : TypeExpr)
  | union (types : List TypeExpr)
  | intersection (types : List TypeExpr)
  /-- A text or number that stands for its own type. -/
  | literal (text : String)
  /-- Any other type, by its source text. -/
  | other (text : String)
  deriving Repr

namespace TypeExpr

mutual

def same : TypeExpr → TypeExpr → Bool
  | .ref name args, .ref name' args' => name == name' && sameAll args args'
  | .array element, .array element' => same element element'
  | .union types, .union types' => sameAll types types'
  | .intersection types, .intersection types' => sameAll types types'
  | .literal text, .literal text' => text == text'
  | .other text, .other text' => text == text'
  | _, _ => false

def sameAll : List TypeExpr → List TypeExpr → Bool
  | [], [] => true
  | a :: as, b :: bs => same a b && sameAll as bs
  | _, _ => false

end

/-- Whether an array puts its element in parentheses. -/
def isJoined : TypeExpr → Bool
  | .union _ | .intersection _ => true
  | _ => false

mutual

def display : TypeExpr → List Char
  | .ref name [] => name.toList
  | .ref name (arg :: args) =>
    name.toList ++ '<' :: Text.join [',', ' '] (displayAll (arg :: args)) ++ ['>']
  | .array element =>
    (if element.isJoined then '(' :: display element ++ [')'] else display element) ++ ['[', ']']
  | .union types => Text.join [' ', '|', ' '] (displayAll types)
  | .intersection types => Text.join [' ', '&', ' '] (displayAll types)
  | .literal text => text.toList
  | .other text => text.toList

def displayAll : List TypeExpr → List (List Char)
  | [] => []
  | type :: rest => display type :: displayAll rest

end

def shown (type : TypeExpr) : String := String.ofList type.display

/-! ## Joints -/

/-- What stands between the members of a union or an intersection. -/
inductive Joint where
  | bar
  | ampersand
  deriving DecidableEq, Repr

namespace Joint

/-- The type whose members stand on the sides of a joint. -/
def join : Joint → List TypeExpr → TypeExpr
  | .bar => .union
  | .ampersand => .intersection

def members? : Joint → TypeExpr → Option (List TypeExpr)
  | .bar, .union types => some types
  | .ampersand, .intersection types => some types
  | _, _ => none

end Joint

end TypeExpr

end DeclaredOptions
