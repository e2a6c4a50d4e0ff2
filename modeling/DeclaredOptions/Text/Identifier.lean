import DeclaredOptions.Text.Class
import DeclaredOptions.Text.Upper

/-!
Contract: identifiers derived from arbitrary texts such as file stems.

Owns: the runs of name characters of a text and their joined form.

Does not own: reserved words, which the derivation does not look at.
-/

namespace DeclaredOptions.Text

/-- The nonempty runs of name characters of a text; `current` holds the run under way in reverse. -/
def nameRunsFrom (current : List Char) : List Char → List (List Char)
  | [] => if current.isEmpty then [] else [current.reverse]
  | c :: rest =>
    if isNamePart c then nameRunsFrom (c :: current) rest
    else if current.isEmpty then nameRunsFrom [] rest
    else current.reverse :: nameRunsFrom [] rest

def nameRuns (text : List Char) : List (List Char) := nameRunsFrom [] text

def capitalized : List Char → List Char
  | [] => []
  | c :: rest => upperChar c ++ rest

/-- The runs of a text as one identifier: all but the first are capitalised, a leading digit is kept
apart by an underscore, and a text without runs gives the underscore alone. -/
def identifierChars (text : List Char) : List Char :=
  match nameRuns text with
  | [] => ['_']
  | first :: more =>
    let whole := first ++ more.flatMap capitalized
    match whole with
    | c :: _ => if isDigit c then '_' :: whole else whole
    | [] => ['_']

def identifier (text : String) : String := String.ofList (identifierChars text.toList)

end DeclaredOptions.Text
