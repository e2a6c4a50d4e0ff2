import DeclaredOptions.Console.Markup
import DeclaredOptions.Text.Class
import DeclaredOptions.Text.WidthTable

/-!
Contract: what is printed on a console.

Owns:
- the texts printed so far, output and errors apart, and the depth of indentation;
- the layout of a printed text: tags removed, control characters dropped, tabs filled with spaces, and blanks beyond
  the width taken off the ends of lines.

Does not own: the wording of what is printed.
-/

namespace DeclaredOptions

/-- A console with all that was printed on it. -/
structure Console where
  depth : Nat
  out : String
  err : String
  deriving DecidableEq, Repr

namespace Console

structure PrintStyle where
  /-- Whether tags in the text are styles. -/
  markup : Bool
  /-- Whether the lines of the text are indented. -/
  indented : Bool
  /-- What follows the text. -/
  ending : String
  deriving DecidableEq, Repr

def marked : PrintStyle := ⟨true, true, "\n"⟩

def verbatim : PrintStyle := ⟨false, false, "\n"⟩

def blank : Console := ⟨0, "", ""⟩

def columns (c : Char) : Nat :=
  if 0x20 ≤ c.toNat && c.toNat < 0x7f then 1
  else if Text.inRanges Text.wideRanges c.toNat then 2
  else if Text.inRanges Text.narrowRanges c.toNat then 0
  else 1

def tabWidth : Nat := 8

/-- A text with spaces for its tabs; `column` is where it begins. -/
def fillTabs (column : Nat) : List Char → List Char
  | [] => []
  | '\t' :: rest =>
    let width := tabWidth - column % tabWidth
    List.replicate width ' ' ++ fillTabs (column + width) rest
  | '\n' :: rest => '\n' :: fillTabs 0 rest
  | c :: rest => c :: fillTabs (column + columns c) rest

/-- A control character that is not printed: bell, backspace, vertical tab, form feed, return. -/
def isSilent (c : Char) : Bool := c.toNat == 7 || c.toNat == 8 || (11 ≤ c.toNat && c.toNat ≤ 13)

/-- The columns of a console that is no terminal. -/
def width : Nat := 80

/-- A line without the blanks at its end that are beyond the width. -/
def withoutExcess (line : List Char) : List Char :=
  let blanks := (line.reverse.takeWhile Text.isBlank).length
  line.take (line.length - min blanks (line.length - width))

def layout (text : List Char) : List Char :=
  let filled := fillTabs 0 (text.filter fun c => !isSilent c)
  Text.join ['\n'] ((Text.pieces '\n' filled).map withoutExcess)

def indentLines (depth : Nat) (text : List Char) : List Char :=
  let pad := List.replicate (2 * depth) ' '
  Text.join ['\n'] ((Text.pieces '\n' text).map (pad ++ ·))

def printed (text : List Char) : Except MarkupFault (List Char) := layout <$> plainText text

def print (console : Console) (style : PrintStyle) (text : String) :
    Except MarkupFault Console := do
  let lines :=
    if style.indented then indentLines console.depth text.toList else text.toList
  let shown ← if style.markup then printed lines else pure (layout lines)
  pure { console with out := console.out ++ String.ofList shown ++ style.ending }

def warn (console : Console) (text : String) : Except MarkupFault Console := do
  let whole := "[bold yellow]Warning[/bold yellow]: ".toList ++ text.toList
  let shown ← printed (indentLines console.depth whole)
  pure { console with err := console.err ++ String.ofList shown ++ "\n" }

/-- Prints an error with an empty line before and after it. -/
def error (console : Console) (text : String) : Except MarkupFault Console := do
  let shown ← printed (['\n', '\n'] ++ text.toList ++ ['\n'])
  pure { console with err := console.err ++ String.ofList shown ++ "\n" }

def indent (console : Console) : Console := { console with depth := console.depth + 1 }

/-- A console that indents one step less, if it indents at all. -/
def unindent? (console : Console) : Option Console :=
  match console.depth with
  | 0 => none
  | depth + 1 => some { console with depth := depth }

def reset (console : Console) : Console := { console with depth := 0 }

end Console

end DeclaredOptions
