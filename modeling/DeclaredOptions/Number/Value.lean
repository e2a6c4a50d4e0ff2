import DeclaredOptions.Number.Shortest

/-!
Contract: numbers as literals denote them: exact whole numbers, or binary64 numbers.

Owns: the number type, its equality by value and its text.

Does not own: the grammar of numeric literals.
-/

namespace DeclaredOptions

/-- A number that a literal or a configuration value denotes. -/
inductive NumberValue where
  | whole (n : Int)
  | real (x : Number.Binary64)
  deriving DecidableEq, Repr

namespace NumberValue

/-- Whether two numbers have the same value, whichever form they have. -/
def same : NumberValue → NumberValue → Bool
  | .whole m, .whole n => m == n
  | .whole n, .real x => x.sameWhole n
  | .real x, .whole n => x.sameWhole n
  | .real x, .real y => x.same y

def chars : NumberValue → List Char
  | .whole n => Number.wholeChars n
  | .real x => x.chars

def text (n : NumberValue) : String := String.ofList n.chars

end NumberValue

end DeclaredOptions
