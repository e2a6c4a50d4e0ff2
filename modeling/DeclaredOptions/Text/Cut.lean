import DeclaredOptions.Text.Class

/-!
Contract: cutting texts at blanks, lines and separators.

Owns: trimming at both ends, lines of running text, blank-separated words, pieces between a separator,
joining, and replacement of one piece by another.

Does not own: what any piece means.
-/

namespace DeclaredOptions.Text

/-- A text without the characters of a class at its end. -/
def dropEndWhile (p : Char → Bool) (text : List Char) : List Char :=
  (text.reverse.dropWhile p).reverse

def trimStart (text : List Char) : List Char := text.dropWhile isBlank

def trimEnd (text : List Char) : List Char := dropEndWhile isBlank text

def trim (text : List Char) : List Char := trimEnd (trimStart text)

/-- The pieces of a text between the occurrences of one separator; never empty. -/
def pieces (separator : Char) : List Char → List (List Char)
  | [] => [[]]
  | c :: rest =>
    if c == separator then [] :: pieces separator rest
    else
      match pieces separator rest with
      | [] => [[c]]
      | first :: more => (c :: first) :: more

def join (separator : List Char) : List (List Char) → List Char
  | [] => []
  | [last] => last
  | first :: more => first ++ separator ++ join separator more

/-- The lines of a running text without their boundaries; `current` holds the line under way in
reverse. A boundary at the very end opens no further line. -/
def linesFrom (current : List Char) : List Char → List (List Char)
  | [] => if current.isEmpty then [] else [current.reverse]
  | '\r' :: '\n' :: rest => current.reverse :: linesFrom [] rest
  | c :: rest =>
    if isLineBoundary c then current.reverse :: linesFrom [] rest
    else linesFrom (c :: current) rest

/-- The lines of a running text, cut at every line boundary. -/
def lines (text : List Char) : List (List Char) := linesFrom [] text

/-- The blank-separated words of a text; `current` holds the word under way in reverse. -/
def wordsFrom (current : List Char) : List Char → List (List Char)
  | [] => if current.isEmpty then [] else [current.reverse]
  | c :: rest =>
    if isBlank c then
      if current.isEmpty then wordsFrom [] rest else current.reverse :: wordsFrom [] rest
    else wordsFrom (c :: current) rest

def words (text : List Char) : List (List Char) := wordsFrom [] text

def after? (start text : List Char) : Option (List Char) :=
  match start, text with
  | [], rest => some rest
  | _ :: _, [] => none
  | s :: start, c :: rest => if s == c then after? start rest else none

def hasEnding (ending text : List Char) : Bool := (after? ending.reverse text.reverse).isSome

def before? (ending text : List Char) : Option (List Char) :=
  (after? ending.reverse text.reverse).map List.reverse

def holds (part : List Char) : List Char → Bool
  | [] => part.isEmpty
  | c :: rest => (after? part (c :: rest)).isSome || holds part rest

/-- A text with every occurrence of one character written as another text. -/
def substitute (old : Char) (new : List Char) (text : List Char) : List Char :=
  text.flatMap fun c => if c == old then new else [c]

/-- A text padded on the right with spaces to a width. -/
def padEnd (width : Nat) (text : List Char) : List Char :=
  text ++ List.replicate (width - text.length) ' '

/-! ## The same on strings -/

def trimmed (text : String) : String := String.ofList (trim text.toList)

def joined (separator : String) (texts : List String) : String :=
  String.ofList (join separator.toList (texts.map String.toList))

def cutAt (separator : Char) (text : String) : List String :=
  (pieces separator text.toList).map String.ofList

end DeclaredOptions.Text
