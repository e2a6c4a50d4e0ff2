import DeclaredOptions.Data
import DeclaredOptions.Failure
import DeclaredOptions.Literal.Numeral

/-!
Contract: the literals that documentation tags and enum members hold, and their two written forms.

Owns: the literal type, its source text under either quote, and its plain value.

Does not own: the grammar that literals are read by.
-/

namespace DeclaredOptions

/-- A literal of the closed grammar: a text, a number by its own text, a truth value, or a dotted path
of names. -/
inductive Literal where
  | text (value : String)
  | number (source : String)
  | truth (value : Bool)
  | path (parts : List String)
  deriving DecidableEq, Repr

inductive QuoteMark where
  | single
  | double
  deriving DecidableEq, Repr

def QuoteMark.char : QuoteMark → Char
  | .single => '\''
  | .double => '"'

namespace Literal

/-- One character of a text inside a generated string literal. -/
def escapeChar (mark c : Char) : List Char :=
  if c == '\\' || c == mark then ['\\', c]
  else if c == '\n' then ['\\', 'n']
  else if c == '\r' then ['\\', 'r']
  else if c == '\t' then ['\\', 't']
  else [c]

def quote (mark : Char) (value : List Char) : List Char :=
  mark :: value.flatMap (escapeChar mark) ++ [mark]

def toSource (mark : QuoteMark) : Literal → String
  | .text value => String.ofList (quote mark.char value.toList)
  | .number source => source
  | .truth value => if value then "true" else "false"
  | .path parts => Text.joined "." parts

def numberValue (source : String) : Except Failure NumberValue :=
  (Numeral.value source.toList).mapError .wrongValue

/-- The plain value of a literal; a number has none if its text is no numeral, or a whole one that is too long. -/
def toData : Literal → Except Failure Data
  | .text value => .ok (.text value)
  | .number source => (numberValue source).map .number
  | .truth value => .ok (.truth value)
  | .path parts => .ok (.text (Text.joined "." parts))

end Literal

end DeclaredOptions
