import DeclaredOptions.Console.Style

/-!
Contract: style tags in console texts.

Owns:
- the grammar of tags in square brackets and of the backslashes that take their meaning away;
- the plain text of a marked-up text, and the tags that open and close in it;
- the escaping of texts that are not meant to hold tags.

Does not own: styles, which leave no trace whether they are known or not, and what stands behind an equals sign in a
tag.
-/

namespace DeclaredOptions.Console

/-- A part of a marked-up text: characters that stand for themselves, or a tag with its position. -/
inductive Piece where
  | plain (chars : List Char)
  | tag (position : Nat) (body : List Char)
  deriving DecidableEq, Repr

/-- A tag that cannot be taken for a style: a closing one without an opening one, or one that is not read. -/
inductive MarkupFault where
  /-- The tag closes the latest style, and there is none. -/
  | nothingToClose (position : Nat)
  /-- The tag names a style that is not open. -/
  | notOpen (tag : String) (position : Nat)
  /-- A number in the tag cannot be read. -/
  | wrongNumber (fault : ValueFault)
  deriving DecidableEq, Repr

def MarkupFault.message : MarkupFault → String
  | .nothingToClose position =>
    "closing tag '[/]' at position " ++ Number.naturalText position ++ " has nothing to close"
  | .notOpen tag position =>
    "closing tag '" ++ tag ++ "' at position " ++ Number.naturalText position
      ++ " doesn't match any open tag"
  | .wrongNumber fault => fault.message

def opensTag (c : Char) : Bool :=
  ('a' ≤ c && c ≤ 'z') || c == '#' || c == '/' || c == '@'

/-- The body of a tag and what follows it, read after the opening bracket. -/
def tagBody? (text : List Char) : Option (List Char × List Char) :=
  match text with
  | [] => none
  | first :: rest =>
    if opensTag first then
      let inside (c : Char) := c != '[' && c != ']'
      match rest.dropWhile inside with
      | ']' :: after => some (first :: rest.takeWhile inside, after)
      | _ => none
    else none

/-- A text in which an opening bracket loses a backslash before it. -/
def withoutBackslashes : List Char → List Char
  | '\\' :: '[' :: rest => '[' :: withoutBackslashes rest
  | c :: rest => c :: withoutBackslashes rest
  | [] => []

/-- The pieces of a text from a position on; `plain` holds the characters before it that belong to no
piece yet, the last one first, and `slashes` counts the backslashes among them that come last. -/
def piecesFrom (position slashes : Nat) (plain : List Char) : Nat → List Char → List Piece
  | 0, _ => [.plain plain.reverse]
  | _ + 1, [] => [.plain plain.reverse]
  | fuel + 1, c :: rest =>
    match c, tagBody? rest with
    | '[', some (body, after) =>
      let before := (plain.drop slashes).reverse
      let kept := List.replicate (slashes / 2) '\\'
      let next := position + body.length + 2
      let piece :=
        if slashes % 2 == 1 then .plain ('[' :: body ++ [']'])
        else .tag position body
      .plain before :: .plain kept :: piece :: piecesFrom next 0 [] fuel after
    | _, _ =>
      piecesFrom (position + 1) (if c == '\\' then slashes + 1 else 0) (c :: plain) fuel rest

def pieces (text : List Char) : List Piece := piecesFrom 0 0 [] text.length text

/-! ## Rendering -/

def tagName (body : List Char) : List Char := body.takeWhile (· != '=')

/-- The open styles after a tag; the latest comes first. -/
def afterTag (opened : List String) (position : Nat) (body : List Char) :
    Except MarkupFault (List String) :=
  let named (text : List Char) := (styleName text).mapError .wrongNumber
  match tagName body with
  | '/' :: name =>
    if (Text.trim name).isEmpty then
      match opened with
      | [] => .error (.nothingToClose position)
      | _ :: rest => .ok rest
    else do
      let name ← named (Text.trim name)
      if opened.contains name then pure (opened.erase name)
      else throw (.notOpen (String.ofList ('[' :: body ++ [']'])) position)
  | name => (· :: opened) <$> named name

/-- The characters that pieces show while the given styles are open. -/
def render (opened : List String) : List Piece → Except MarkupFault (List Char)
  | [] => .ok []
  | .plain chars :: rest => (withoutBackslashes chars ++ ·) <$> render opened rest
  | .tag position body :: rest => do
    let opened ← afterTag opened position body
    render opened rest

def plainText (text : List Char) : Except MarkupFault (List Char) := render [] (pieces text)

/-! ## Escaping -/

/-- A text with its tags escaped; `slashes` counts the backslashes just before. -/
def escapeFrom (slashes : Nat) : Nat → List Char → List Char
  | 0, text => text
  | _ + 1, [] => []
  | fuel + 1, c :: rest =>
    match c, tagBody? rest with
    | '[', some (body, after) =>
      List.replicate (slashes + 1) '\\' ++ '[' :: body ++ ']' :: escapeFrom 0 fuel after
    | _, _ => c :: escapeFrom (if c == '\\' then slashes + 1 else 0) fuel rest

/-- A backslash more, if a text ends with a single one. -/
def closingSlash (text : List Char) : List Char :=
  match text.reverse with
  | '\\' :: rest => if rest.head? == some '\\' then [] else ['\\']
  | _ => []

/-- A text in which every tag has lost its meaning, and the backslash at its end too. -/
def escape (text : List Char) : List Char :=
  let escaped := escapeFrom 0 text.length text
  escaped ++ closingSlash escaped

end DeclaredOptions.Console
